import ComponentStyles.Proofs.Stylesheet.Traversal
import ComponentStyles.Reference.Relocation
import ComponentStyles.Variable.Substitution

/-!
# Moving references and replacing usages

The references of a stylesheet may be moved before its usages are replaced or afterwards. Replacing
usages copies terms and never looks into a reference, so a definition whose references are moved
stands for the moved terms that it stood for before. Which names refer to each other does not depend
on references at all, and so the same warnings come up.
-/

namespace ComponentStyles

variable {change : Text → Text}

@[simp] theorem mapTargetsOf_append (first second : List Term) :
    mapTargetsOf change (first ++ second) =
      mapTargetsOf change first ++ mapTargetsOf change second := by
  induction first with
  | nil => rfl
  | cons term rest inductionHypothesis => simp [mapTargetsOf, inductionHypothesis]

theorem Term.mapTargets_usage (name : Text) (fallback : Option Term) (span : Span) :
    (usage name fallback span).mapTargets change =
      usage name (fallback.map (mapTargets change)) span := by
  cases fallback <;> simp [mapTargets]

section Substitution

/-- What a name stands for, with its references changed. -/
def Chase.mapTargets (change : Text → Text) : Chase → Chase
  | undefined => undefined
  | cyclic => cyclic
  | found terms => found (mapTargetsOf change terms)

variable {look moved : Text → Chase}

mutual

/-- Where every name stands for moved terms, replacing usages in moved terms gives moved terms. -/
theorem Term.substitute_mapTargets (follows : ∀ name, moved name = (look name).mapTargets change) :
    ∀ term : Term, (term.mapTargets change).substitute moved =
      (term.substitute look).map (mapTargetsOf change)
  | .literal _ _ => rfl
  | .url _ _ => rfl
  | .operator _ _ => rfl
  | .call name arguments argumentsSpan span => by
      simp only [Term.mapTargets, Term.substitute, substituteAll_mapTargetsOf follows arguments,
        Option.map_map]
      rfl
  | .usage name none span => by
      have looked := follows name
      cases outcome : look name <;> rw [outcome] at looked <;>
        simp [Term.mapTargets, Term.substitute, Chase.mapTargets, looked, outcome, mapTargetsOf]
  | .usage name (some fallback) span => by
      have looked := follows name
      have replaced := fallback.substitute_mapTargets follows
      cases outcome : look name <;> rw [outcome] at looked <;>
        simp [Term.mapTargets, Term.substitute, Chase.mapTargets, looked, outcome, replaced]

theorem substituteAll_mapTargetsOf (follows : ∀ name, moved name = (look name).mapTargets change) :
    ∀ terms : List Term, substituteAll moved (mapTargetsOf change terms) =
      (substituteAll look terms).map (mapTargetsOf change)
  | [] => rfl
  | term :: rest => by
      simp only [mapTargetsOf, substituteAll, term.substitute_mapTargets follows,
        substituteAll_mapTargetsOf follows rest]
      cases term.substitute look with
      | none => rfl
      | some first => cases substituteAll look rest <;> simp

end

end Substitution

/-- The definition with its references changed. -/
def Definition.mapTargets (change : Text → Text) (d : Definition) : Definition :=
  { d with value.terms := mapTargetsOf change d.value.terms }

namespace Definitions

/-- The definitions with their references changed. -/
def mapTargets (change : Text → Text) (definitions : Definitions) : Definitions where
  toList := definitions.toList.map (Definition.mapTargets change)
  distinct := by
    rw [List.map_map]
    exact definitions.distinct

section Lookup

variable (definitions : Definitions)

theorem get?_mapTargets (name : Text) :
    (definitions.mapTargets change).get? name =
      (definitions.get? name).map (Definition.mapTargets change) := by
  unfold get? mapTargets
  rw [List.find?_map]
  rfl

theorem get?_mapTargets_of_defined {name : Text} {d : Definition}
    (defined : definitions.get? name = some d) :
    (definitions.mapTargets change).get? name = some (d.mapTargets change) := by
  simp [get?_mapTargets, defined]

@[simp] theorem contains_mapTargets (name : Text) :
    (definitions.mapTargets change).contains name = definitions.contains name := by
  simp [contains, get?_mapTargets]

/-- A name stands for the moved terms of what it stood for before. -/
theorem chase_mapTargets (chasing : List Text) (name : Text) :
    (definitions.mapTargets change).chase chasing name =
      (definitions.chase chasing name).mapTargets change := by
  induction chasing, name using chase.induct definitions with
  | case1 chasing name undefined =>
      have undefinedToo : (definitions.mapTargets change).get? name = none := by
        simp [get?_mapTargets, undefined]
      rw [chase_of_undefined undefined, chase_of_undefined undefinedToo, Chase.mapTargets]
  | case2 chasing name d defined again =>
      have definedToo : (definitions.mapTargets change).get? name = some (d.mapTargets change) :=
        definitions.get?_mapTargets_of_defined defined
      rw [chase_of_again defined again, chase_of_again definedToo again, Chase.mapTargets]
  | case3 chasing name d defined fresh failed inductionHypothesis =>
      have definedToo : (definitions.mapTargets change).get? name = some (d.mapTargets change) :=
        definitions.get?_mapTargets_of_defined defined
      have replaced := substituteAll_mapTargetsOf inductionHypothesis d.value.terms
      simp only [failed, Option.map_none] at replaced
      rw [chase_of_failed defined fresh failed, chase_of_failed definedToo fresh replaced,
        Chase.mapTargets]
  | case4 chasing name d defined fresh terms substituted inductionHypothesis =>
      have definedToo : (definitions.mapTargets change).get? name = some (d.mapTargets change) :=
        definitions.get?_mapTargets_of_defined defined
      have replaced := substituteAll_mapTargetsOf inductionHypothesis d.value.terms
      simp only [substituted, Option.map_some] at replaced
      rw [chase_of_replaced defined fresh substituted, chase_of_replaced definedToo fresh replaced,
        Chase.mapTargets]

end Lookup

end Definitions

section Resolution

variable (definitions : Definitions)

mutual

theorem Term.resolve_mapTargets : ∀ term : Term,
    (term.mapTargets change).resolve (definitions.mapTargets change) =
      mapTargetsOf change (term.resolve definitions)
  | .literal _ _ => rfl
  | .url _ _ => rfl
  | .operator _ _ => rfl
  | .call name arguments argumentsSpan span => by
      simp only [Term.mapTargets, Term.resolve, resolveAll_mapTargetsOf arguments]
      rfl
  | .usage name fallback span => by
      have chased (name : Text) : (definitions.mapTargets change).chase [] name =
          (definitions.chase [] name).mapTargets change :=
        definitions.chase_mapTargets [] name
      have replaced := Term.substitute_mapTargets chased (.usage name fallback span)
      rw [Term.mapTargets_usage] at replaced ⊢
      rw [Term.resolve_usage, Term.resolve_usage, replaced]
      cases Term.substitute (definitions.chase []) (.usage name fallback span) <;> rfl

theorem resolveAll_mapTargetsOf : ∀ terms : List Term,
    resolveAll (definitions.mapTargets change) (mapTargetsOf change terms) =
      mapTargetsOf change (resolveAll definitions terms)
  | [] => rfl
  | term :: rest => by
      simp only [mapTargetsOf, resolveAll, term.resolve_mapTargets, resolveAll_mapTargetsOf rest,
        mapTargetsOf_append]

end

mutual

theorem Term.unresolved_mapTargets : ∀ term : Term,
    (term.mapTargets change).unresolved (definitions.mapTargets change) =
      term.unresolved definitions
  | .literal _ _ => rfl
  | .url _ _ => rfl
  | .operator _ _ => rfl
  | .call _ arguments _ _ => unresolvedOf_mapTargetsOf arguments
  | .usage name none span => by simp [Term.mapTargets, Term.unresolved]
  | .usage name (some fallback) span => rfl

theorem unresolvedOf_mapTargetsOf : ∀ terms : List Term,
    unresolvedOf (definitions.mapTargets change) (mapTargetsOf change terms) =
      unresolvedOf definitions terms
  | [] => rfl
  | term :: rest => by
      simp only [mapTargetsOf, unresolvedOf, term.unresolved_mapTargets,
        unresolvedOf_mapTargetsOf rest]

end

mutual

theorem Term.references_mapTargets : ∀ term : Term,
    (term.mapTargets change).references (definitions.mapTargets change) =
      term.references definitions
  | .literal _ _ => rfl
  | .url _ _ => rfl
  | .operator _ _ => rfl
  | .call _ arguments _ _ => referencesOf_mapTargetsOf arguments
  | .usage name none span => rfl
  | .usage name (some (.usage other fallback otherSpan)) span => by
      have same := Term.references_mapTargets (.usage other fallback otherSpan)
      rw [Term.mapTargets_usage] at same
      rw [Term.mapTargets_usage, Option.map_some, Term.mapTargets_usage]
      unfold Term.references
      simp only [Definitions.contains_mapTargets, same]
  | .usage name (some (.literal _ _)) span => rfl
  | .usage name (some (.url _ _)) span => rfl
  | .usage name (some (.operator _ _)) span => rfl
  | .usage name (some (.call _ _ _ _)) span => rfl

theorem referencesOf_mapTargetsOf : ∀ terms : List Term,
    referencesOf (definitions.mapTargets change) (mapTargetsOf change terms) =
      referencesOf definitions terms
  | [] => rfl
  | term :: rest => by
      simp only [mapTargetsOf, referencesOf, term.references_mapTargets,
        referencesOf_mapTargetsOf rest]

end

end Resolution

namespace Definitions

section Cycles

variable (definitions : Definitions)

theorem references_mapTargets (name : Text) :
    (definitions.mapTargets change).references name = definitions.references name := by
  unfold references
  rw [get?_mapTargets]
  cases definitions.get? name with
  | none => rfl
  | some d => exact referencesOf_mapTargetsOf definitions d.value.terms

theorem leadsTo_mapTargets (goal : Text) (seen stack : List Text) :
    (definitions.mapTargets change).leadsTo goal seen stack =
      definitions.leadsTo goal seen stack := by
  induction seen, stack using leadsTo.induct definitions goal with
  | case1 seen => simp [leadsTo]
  | case2 seen stack => simp [leadsTo]
  | case3 seen name stack other again inductionHypothesis =>
      simp [leadsTo, other, again, inductionHypothesis]
  | case4 seen name stack other fresh inductionHypothesis =>
      simp [leadsTo, other, fresh, inductionHypothesis, references_mapTargets]

/-- The same names lie on cycles. -/
theorem cyclic_mapTargets :
    (definitions.mapTargets change).cyclic =
      definitions.cyclic.map (Definition.mapTargets change) := by
  have same (d : Definition) : (definitions.mapTargets change).isCyclic (d.mapTargets change).name =
      definitions.isCyclic d.name := by
    unfold isCyclic
    rw [references_mapTargets, leadsTo_mapTargets]
    rfl
  unfold cyclic mapTargets
  rw [List.filter_map]
  exact congrArg (List.map _) (List.filter_congr fun d _ => same d)

end Cycles

section Collecting

theorem insertInto_mapTargets (d : Definition) (ds : List Definition) :
    insertInto (d.mapTargets change) (ds.map (Definition.mapTargets change)) =
      (insertInto d ds).map (Definition.mapTargets change) := by
  induction ds with
  | nil => rfl
  | cons first rest inductionHypothesis =>
      by_cases same : first.name = d.name
      · simp [insertInto, Definition.mapTargets, same]
      · simp only [List.map_cons, insertInto, if_neg same]
        rw [if_neg (by exact same), inductionHypothesis]

theorem insert_mapTargets (definitions : Definitions) (d : Definition) :
    (definitions.mapTargets change).insert (d.mapTargets change) =
      (definitions.insert d).mapTargets change := by
  unfold insert mapTargets
  simp only [insertInto_mapTargets]

theorem foldl_insert_mapTargets (ds : List Definition) (definitions : Definitions) :
    (ds.map (Definition.mapTargets change)).foldl insert (definitions.mapTargets change) =
      (ds.foldl insert definitions).mapTargets change := by
  induction ds generalizing definitions with
  | nil => rfl
  | cons d rest inductionHypothesis =>
      rw [List.map_cons, List.foldl_cons, List.foldl_cons, insert_mapTargets, inductionHypothesis]

end Collecting

end Definitions

section Walks

variable {onDeclaration onDefinition otherDeclaration otherDefinition : List Term → List Term}

theorem mapTermsOf_append (statements others : List Statement) :
    mapTermsOf onDeclaration onDefinition (statements ++ others) =
      mapTermsOf onDeclaration onDefinition statements ++
        mapTermsOf onDeclaration onDefinition others := by
  induction statements with
  | nil => rfl
  | cons statement rest inductionHypothesis => simp [mapTermsOf, inductionHypothesis]

theorem Block.mapTerms_mapTerms (block : Block) :
    (block.mapTerms onDeclaration onDefinition).mapTerms otherDeclaration otherDefinition =
      block.mapTerms (otherDeclaration ∘ onDeclaration) (otherDefinition ∘ onDefinition) := by
  unfold Block.mapTerms
  rw [List.map_map]
  congr 2
  funext item
  cases item <;> rfl

mutual

theorem Statement.mapTerms_mapTerms : ∀ statement : Statement,
    (statement.mapTerms onDeclaration onDefinition).mapTerms otherDeclaration otherDefinition =
      statement.mapTerms (otherDeclaration ∘ onDeclaration) (otherDefinition ∘ onDefinition)
  | .rule _ block _ => by simp only [Statement.mapTerms, block.mapTerms_mapTerms]
  | .definition _ => rfl
  | .importing _ _ _ => rfl
  | .conditional _ _ statements _ => by
      simp only [Statement.mapTerms, mapTermsOf_mapTermsOf statements]
  | .atRule _ _ none _ => rfl
  | .atRule _ _ (some (.declarations block)) _ => by
      simp only [Statement.mapTerms, block.mapTerms_mapTerms]
  | .atRule _ _ (some (.raw _)) _ => rfl
  | .comment _ _ => rfl

theorem mapTermsOf_mapTermsOf : ∀ statements : List Statement,
    mapTermsOf otherDeclaration otherDefinition (mapTermsOf onDeclaration onDefinition statements) =
      mapTermsOf (otherDeclaration ∘ onDeclaration) (otherDefinition ∘ onDefinition) statements
  | [] => rfl
  | statement :: rest => by
      simp only [mapTermsOf, statement.mapTerms_mapTerms, mapTermsOf_mapTermsOf rest]

end

section Stripped

variable (other : List Term → List Term)

theorem Block.withoutDefinitions_mapTerms (block : Block) :
    (block.mapTerms onDeclaration onDefinition).withoutDefinitions =
      block.withoutDefinitions.mapTerms onDeclaration other := by
  obtain ⟨items, span⟩ := block
  simp only [Block.withoutDefinitions, Block.mapTerms, Block.mk.injEq, and_true]
  induction items with
  | nil => rfl
  | cons item rest inductionHypothesis =>
      cases item <;>
        simpa [Item.mapTerms, Item.definition?] using inductionHypothesis

mutual

/-- Once the definitions are dropped, it does not matter what was done with them. -/
theorem Statement.withoutDefinitions_mapTerms : ∀ statement : Statement,
    (statement.mapTerms onDeclaration onDefinition).withoutDefinitions?.toList =
      mapTermsOf onDeclaration other statement.withoutDefinitions?.toList
  | .rule _ block _ => by
      simp [Statement.mapTerms, Statement.withoutDefinitions?, mapTermsOf,
        block.withoutDefinitions_mapTerms other]
  | .definition _ => rfl
  | .importing _ _ _ => rfl
  | .conditional _ _ statements _ => by
      simp [Statement.mapTerms, Statement.withoutDefinitions?, mapTermsOf,
        withoutDefinitionsOf_mapTermsOf statements]
  | .atRule _ _ none _ => rfl
  | .atRule _ _ (some (.declarations block)) _ => by
      simp [Statement.mapTerms, Statement.withoutDefinitions?, mapTermsOf,
        block.withoutDefinitions_mapTerms other]
  | .atRule _ _ (some (.raw _)) _ => rfl
  | .comment _ _ => rfl

theorem withoutDefinitionsOf_mapTermsOf : ∀ statements : List Statement,
    withoutDefinitionsOf (mapTermsOf onDeclaration onDefinition statements) =
      mapTermsOf onDeclaration other (withoutDefinitionsOf statements)
  | [] => rfl
  | statement :: rest => by
      simp only [mapTermsOf, withoutDefinitionsOf, mapTermsOf_append,
        statement.withoutDefinitions_mapTerms, withoutDefinitionsOf_mapTermsOf rest]

end

end Stripped

end Walks

namespace Stylesheet

variable (move : Relocation) (sheet : Stylesheet)

theorem items_relocate : (sheet.relocate move).items =
    sheet.items.map (Item.mapTerms (mapTargetsOf move.moved) (mapTargetsOf move.moved)) :=
  itemsOf_mapTermsOf sheet.statements

theorem definitions_relocate : (sheet.relocate move).definitions =
    sheet.definitions.map (Definition.mapTargets move.moved) := by
  unfold definitions
  rw [items_relocate, List.filterMap_map, List.map_filterMap]
  congr 1
  funext item
  cases item <;> rfl

theorem ofStylesheet_relocate : Definitions.ofStylesheet (sheet.relocate move) =
    (Definitions.ofStylesheet sheet).mapTargets move.moved := by
  unfold Definitions.ofStylesheet
  rw [definitions_relocate]
  exact Definitions.foldl_insert_mapTargets sheet.definitions .empty

theorem cycleMessages_relocate (definitions : Definitions) :
    (sheet.relocate move).cycleMessages (definitions.mapTargets move.moved) =
      sheet.cycleMessages definitions := by
  unfold cycleMessages
  rw [Definitions.cyclic_mapTargets, List.map_map]
  rfl

theorem declarations_relocate : (sheet.relocate move).declarations =
    sheet.declarations.map fun d =>
      { d with value.terms := mapTargetsOf move.moved d.value.terms } := by
  unfold declarations
  rw [items_relocate, List.filterMap_map, List.map_filterMap]
  congr 1
  funext item
  cases item <;> rfl

theorem unresolvedMessages_relocate (definitions : Definitions) :
    (sheet.relocate move).unresolvedMessages (definitions.mapTargets move.moved) =
      sheet.unresolvedMessages definitions := by
  unfold unresolvedMessages
  simp only [declarations_relocate, List.flatMap_map, unresolvedOf_mapTargetsOf]
  rfl

/-- References may be moved before the variables are resolved, with the definitions as they are then,
or after the usages are replaced and the definitions dropped: the tree that comes out is the same,
and so are the warnings. -/
theorem relocate_resolve_comm (reportUnresolved : Bool) :
    let definitions := Definitions.ofStylesheet sheet
    let moved := sheet.relocate move
    let movedDefinitions := Definitions.ofStylesheet moved
    (sheet.resolve definitions).withoutDefinitions.relocate move =
        (moved.resolve movedDefinitions).withoutDefinitions ∧
      sheet.variableMessages definitions reportUnresolved =
        moved.variableMessages movedDefinitions reportUnresolved := by
  intro definitions moved movedDefinitions
  have same : movedDefinitions = definitions.mapTargets move.moved :=
    sheet.ofStylesheet_relocate move
  rw [same]
  constructor
  · have commute : mapTargetsOf move.moved ∘ resolveAll definitions =
        resolveAll (definitions.mapTargets move.moved) ∘ mapTargetsOf move.moved := by
      funext terms
      exact (resolveAll_mapTargetsOf definitions terms).symm
    unfold resolve relocate withoutDefinitions mapTerms
    simp only [moved, relocate, mapTerms, mapTermsOf_mapTermsOf]
    rw [withoutDefinitionsOf_mapTermsOf id, mapTermsOf_mapTermsOf, commute,
      withoutDefinitionsOf_mapTermsOf (mapTargetsOf move.moved ∘ id)]
  · unfold variableMessages
    rw [sheet.cycleMessages_relocate, sheet.unresolvedMessages_relocate]

end Stylesheet

end ComponentStyles
