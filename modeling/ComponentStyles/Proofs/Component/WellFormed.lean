import ComponentStyles.Component.Compilation
import ComponentStyles.Proofs.Stylesheet.Traversal

/-!
# The tree that is written for a component

Every pass of the compilation keeps the tree well-formed, so the tree that is written at the end is
one that the parser could have made. It uses and defines no variables, its kept texts are those of
the source, and its names are those of the source in their scoped forms.
-/

namespace ComponentStyles

section Substitution

/-- What names are looked up to is well-formed. -/
def GivesWellFormed (look : Text → Chase) : Prop :=
  ∀ name terms, look name = .found terms → WellFormedTerms terms

theorem wellFormedTerms_append {terms others : List Term} :
    WellFormedTerms (terms ++ others) ↔ WellFormedTerms terms ∧ WellFormedTerms others := by
  simp only [wellFormedTerms_iff, List.forall_mem_append]

theorem wellFormedTerms_singleton {term : Term} (wellFormed : term.WellFormed) :
    WellFormedTerms [term] :=
  ⟨wellFormed, trivial⟩

variable {look : Text → Chase}

theorem StartsCustom.substituteAll {terms result : List Term} (custom : StartsCustom terms)
    (replaced : substituteAll look terms = some result) : StartsCustom result := by
  match terms, custom with
  | .literal text span :: rest, custom =>
      obtain ⟨first, others, replacedTerm, _, rfl⟩ := substituteAll_cons replaced
      rw [Term.substitute] at replacedTerm
      · cases replacedTerm
        exact custom
      · nofun
      · nofun

mutual

theorem Term.WellFormed.substitute (gives : GivesWellFormed look) : ∀ {term : Term}
    {result : List Term}, term.WellFormed → term.substitute look = some result →
      WellFormedTerms result
  | .literal _ _, _, wellFormed, replaced => by
      cases replaced
      exact wellFormedTerms_singleton wellFormed
  | .url _ _, _, wellFormed, replaced => by
      cases replaced
      exact wellFormedTerms_singleton wellFormed
  | .operator _ _, _, wellFormed, replaced => by
      cases replaced
      exact wellFormedTerms_singleton wellFormed
  | .call name arguments argumentsSpan span, result, ⟨named, custom, wellFormed⟩, replaced => by
      rw [Term.substitute, Option.map_eq_some_iff] at replaced
      obtain ⟨replacedArguments, found, rfl⟩ := replaced
      exact wellFormedTerms_singleton ⟨named, fun isVar => (custom isVar).substituteAll found,
        wellFormedTerms_substituteAll gives wellFormed found⟩
  | .usage name none span, result, _, replaced => by
      rcases Term.substitute_usage_cases replaced with looked | rfl
      · exact gives name _ looked
      · trivial
  | .usage name (some fallback) span, result, ⟨_, wellFormed⟩, replaced => by
      rcases Term.substitute_usage_fallback_cases replaced with looked | instead
      · exact gives name _ looked
      · exact wellFormed.substitute gives instead

theorem wellFormedTerms_substituteAll (gives : GivesWellFormed look) : ∀ {terms : List Term}
    {result : List Term}, WellFormedTerms terms → substituteAll look terms = some result →
      WellFormedTerms result
  | [], _, _, replaced => by
      cases replaced
      trivial
  | term :: rest, result, ⟨wellFormed, wellFormedToo⟩, replaced => by
      obtain ⟨first, others, replacedTerm, replacedRest, rfl⟩ := substituteAll_cons replaced
      exact wellFormedTerms_append.mpr ⟨wellFormed.substitute gives replacedTerm,
        wellFormedTerms_substituteAll gives wellFormedToo replacedRest⟩

end

namespace Definitions

/-- Every definition stands for well-formed terms. -/
def WellFormed (definitions : Definitions) : Prop :=
  ∀ d ∈ definitions.toList, WellFormedTerms d.value.terms

variable {definitions : Definitions}

theorem WellFormed.givesWellFormed_chase (wellFormed : definitions.WellFormed)
    (chasing : List Text) : GivesWellFormed (definitions.chase chasing) :=
  forall_found_chase
    (fun _ gives d listed _ replaced =>
      wellFormedTerms_substituteAll gives (wellFormed d listed) replaced) chasing

theorem mem_of_mem_insertInto {d other : Definition} {ds : List Definition}
    (listed : other ∈ insertInto d ds) : other = d ∨ other ∈ ds := by
  induction ds with
  | nil => exact .inl (List.mem_singleton.mp listed)
  | cons first rest inductionHypothesis =>
      rw [insertInto] at listed
      split at listed
      · rcases List.mem_cons.mp listed with rfl | later
        · exact .inl rfl
        · exact .inr (List.mem_cons_of_mem first later)
      · rcases List.mem_cons.mp listed with rfl | later
        · exact .inr List.mem_cons_self
        · exact (inductionHypothesis later).imp_right (List.mem_cons_of_mem first)

theorem mem_definitions_of_mem_ofStylesheet {sheet : Stylesheet} {d : Definition}
    (listed : d ∈ (ofStylesheet sheet).toList) : d ∈ sheet.definitions := by
  have known (ds : List Definition) (definitions : Definitions)
      (listed : d ∈ (ds.foldl insert definitions).toList) :
      d ∈ definitions.toList ∨ d ∈ ds := by
    induction ds generalizing definitions with
    | nil => exact .inl listed
    | cons first rest inductionHypothesis =>
        rcases inductionHypothesis _ listed with inserted | later
        · rcases mem_of_mem_insertInto inserted with rfl | old
          · exact .inr List.mem_cons_self
          · exact .inl old
        · exact .inr (List.mem_cons_of_mem first later)
  exact (known _ _ listed).resolve_left List.not_mem_nil

end Definitions

mutual

theorem Statement.WellFormed.items : ∀ {statement : Statement}, statement.WellFormed →
    ∀ item ∈ statement.items, item.WellFormed
  | .rule _ _ _, ⟨_, block⟩ => block
  | .definition d, ⟨_, _, wellFormed⟩ => by
      intro item listed
      obtain rfl := List.mem_singleton.mp listed
      exact wellFormed
  | .importing _ _ _, _ => nofun
  | .conditional _ _ _ _, ⟨_, _, _, inside⟩ => wellFormed_of_mem_itemsOf inside
  | .atRule _ _ none _, _ => nofun
  | .atRule _ _ (some (.declarations _)) _, ⟨_, _, _, _, body⟩ => (body _ rfl).2.2
  | .atRule _ _ (some (.raw _)) _, _ => nofun
  | .comment _ _, _ => nofun

theorem wellFormed_of_mem_itemsOf : ∀ {statements : List Statement},
    WellFormedStatements statements → ∀ item ∈ itemsOf statements, item.WellFormed
  | [], _ => nofun
  | _ :: _, ⟨wellFormed, wellFormedToo⟩ =>
      List.forall_mem_append.mpr ⟨wellFormed.items, wellFormed_of_mem_itemsOf wellFormedToo⟩

end

theorem Definitions.wellFormed_ofStylesheet {sheet : Stylesheet}
    (wellFormed : WellFormedStatements sheet.statements) :
    (Definitions.ofStylesheet sheet).WellFormed := by
  intro d listed
  obtain ⟨item, listed, isDefinition⟩ :=
    List.mem_filterMap.mp (mem_definitions_of_mem_ofStylesheet listed)
  cases item with
  | declaration => cases isDefinition
  | definition other =>
      cases isDefinition
      exact (wellFormed_of_mem_itemsOf wellFormed _ listed).2

section Resolution

variable {definitions : Definitions}

theorem StartsCustom.resolveAll {terms : List Term} (custom : StartsCustom terms) :
    StartsCustom (resolveAll definitions terms) := by
  match terms, custom with
  | .literal text span :: rest, custom => exact custom

mutual

theorem Term.WellFormed.resolve (wellFormed : definitions.WellFormed) : ∀ {term : Term},
    term.WellFormed → WellFormedTerms (term.resolve definitions)
  | .literal _ _, isLiteral => wellFormedTerms_singleton isLiteral
  | .url _ _, isUrl => wellFormedTerms_singleton isUrl
  | .operator _ _, isOperator => wellFormedTerms_singleton isOperator
  | .call _ _ _ _, ⟨named, custom, arguments⟩ =>
      wellFormedTerms_singleton ⟨named, fun isVar => (custom isVar).resolveAll,
        wellFormedTerms_resolveAll wellFormed arguments⟩
  | .usage name fallback span, isUsage => by
      rw [Term.resolve_usage]
      cases replaced : (Term.usage name fallback span).substitute (definitions.chase []) with
      | none => trivial
      | some terms => exact isUsage.substitute (wellFormed.givesWellFormed_chase []) replaced

theorem wellFormedTerms_resolveAll (wellFormed : definitions.WellFormed) : ∀ {terms : List Term},
    WellFormedTerms terms → WellFormedTerms (resolveAll definitions terms)
  | [], _ => trivial
  | _ :: _, ⟨term, terms⟩ =>
      wellFormedTerms_append.mpr ⟨term.resolve wellFormed, wellFormedTerms_resolveAll wellFormed terms⟩

end

end Resolution

end Substitution

section Relocation

variable {change : Text → Text}

theorem StartsCustom.mapTargetsOf {terms : List Term} (custom : StartsCustom terms) :
    StartsCustom (mapTargetsOf change terms) := by
  match terms, custom with
  | .literal text span :: rest, custom => exact custom

mutual

theorem Term.WellFormed.mapTargets : ∀ {term : Term}, term.WellFormed →
    (term.mapTargets change).WellFormed
  | .literal _ _, isLiteral => isLiteral
  | .url _ _, _ => trivial
  | .operator _ _, _ => trivial
  | .call _ _ _ _, ⟨named, custom, arguments⟩ =>
      ⟨named, fun isVar => (custom isVar).mapTargetsOf, wellFormedTerms_mapTargetsOf arguments⟩
  | .usage _ none _, isName => isName
  | .usage _ (some _) _, ⟨isName, fallback⟩ => ⟨isName, fallback.mapTargets⟩

theorem wellFormedTerms_mapTargetsOf : ∀ {terms : List Term}, WellFormedTerms terms →
    WellFormedTerms (mapTargetsOf change terms)
  | [], _ => trivial
  | _ :: _, ⟨term, terms⟩ => ⟨term.mapTargets, wellFormedTerms_mapTargetsOf terms⟩

end

mutual

theorem Term.usedNames_mapTargets : ∀ term : Term,
    (term.mapTargets change).usedNames = term.usedNames
  | .literal _ _ => rfl
  | .url _ _ => rfl
  | .operator _ _ => rfl
  | .call _ arguments _ _ => usedNamesOf_mapTargetsOf arguments
  | .usage _ none _ => rfl
  | .usage name (some fallback) _ => congrArg (name :: ·) fallback.usedNames_mapTargets

theorem usedNamesOf_mapTargetsOf : ∀ terms : List Term,
    usedNamesOf (mapTargetsOf change terms) = usedNamesOf terms
  | [] => rfl
  | term :: rest => by
      rw [mapTargetsOf, usedNamesOf, usedNamesOf, term.usedNames_mapTargets,
        usedNamesOf_mapTargetsOf rest]

end

end Relocation

section Scoping

open Token

/-- A tag that names can be scoped with. -/
def Scope.WellFormed (scope : Scope) : Prop :=
  ∀ tag ∈ scope.tag, Kind.identifier.Spells tag

variable {scope : Scope} {kind : NameKind} {name : Text}

theorem Scope.rename_eq_or (scope : Scope) (kind : NameKind) (name : Text) :
    scope.rename kind name = name ∨
      ∃ tag ∈ scope.tag, scope.rename kind name = scopedForm tag name := by
  rw [Scope.rename, Scope.rename?]
  cases tag : scope.tag with
  | none => exact .inl rfl
  | some tag =>
      cases has : scope.names.has kind name with
      | false => simp
      | true => simp

theorem isNamePart_of_spells (isName : Kind.identifier.Spells name) :
    ∀ c ∈ name, isNamePart c = true :=
  fun _ listed => isNamePart_of_matches_dashedName (spells_identifier_iff.mp isName) listed

theorem isNamePart_underscore : isNamePart '_' = true := by
  decide

theorem Scope.WellFormed.spells_class (wellFormed : scope.WellFormed)
    (isName : Kind.identifier.Spells name) :
    Kind.identifier.Spells (scope.rename .ofClass name) := by
  rcases scope.rename_eq_or .ofClass name with same | ⟨tag, isTag, same⟩
  · rwa [same]
  · rw [same, scopedForm, spells_identifier_iff]
    refine matches_dashedName_append (spells_identifier_iff.mp (wellFormed tag isTag)) ?_
    exact List.forall_mem_cons.mpr ⟨isNamePart_underscore, isNamePart_of_spells isName⟩

theorem Scope.WellFormed.spells_id (wellFormed : scope.WellFormed)
    (isHash : Kind.hash.Spells ('#' :: name)) :
    Kind.hash.Spells ('#' :: scope.rename .ofId name) := by
  rcases scope.rename_eq_or .ofId name with same | ⟨tag, isTag, same⟩
  · rwa [same]
  · rw [spells_hash_iff] at isHash ⊢
    rw [same, scopedForm]
    refine ⟨by simp, List.forall_mem_append.mpr ⟨isNamePart_of_spells (wellFormed tag isTag), ?_⟩⟩
    exact List.forall_mem_cons.mpr ⟨isNamePart_underscore, isHash.2⟩

/-- A text that is a name of this kind behind its sign. -/
def NameKind.Spells : NameKind → Text → Prop
  | ofClass, name => Kind.identifier.Spells name
  | ofId, name => Kind.hash.Spells ('#' :: name)

instance : (kind : NameKind) → (name : Text) → Decidable (kind.Spells name)
  | .ofClass, name => inferInstanceAs (Decidable (Kind.identifier.Spells name))
  | .ofId, name => inferInstanceAs (Decidable (Kind.hash.Spells ('#' :: name)))

theorem Scope.WellFormed.spells (wellFormed : scope.WellFormed) (spells : kind.Spells name) :
    kind.Spells (scope.rename kind name) := by
  cases kind with
  | ofClass => exact wellFormed.spells_class spells
  | ofId => exact wellFormed.spells_id spells

section Names

variable {demands : Demands}

mutual

theorem SimpleSelector.Meets.spells : ∀ {simple : SimpleSelector} {rest : Text},
    simple.Meets demands rest → ∀ entry ∈ simple.names, entry.1.Spells entry.2
  | .universal _, _, _ => nofun
  | .element _ _, _, _ => nofun
  | .byClass _ _, _, isName => List.forall_mem_singleton.mpr isName
  | .byId _ _, _, isHash => List.forall_mem_singleton.mpr isHash
  | .attribute _ _, _, _ => nofun
  | .pseudo _ _ .absent _, _, _ => nofun
  | .pseudo _ _ (.raw _) _, _, _ => nofun
  | .pseudo _ _ (.selectors _ _) _, _, ⟨_, _, _, meets⟩ => SelectorsMeet.spells meets

theorem SelectorsMeet.spells : ∀ {list : List Selector} {rest : Text},
    SelectorsMeet demands list rest → ∀ entry ∈ namesOfSelectors list, entry.1.Spells entry.2
  | [], _, _ => nofun
  | .mk _ _ :: _, _, ⟨_, parts, more⟩ =>
      List.forall_mem_append.mpr ⟨PartsMeet.spells parts, SelectorsMeet.spells more⟩

theorem PartsMeet.spells : ∀ {parts : List SelectorPart} {afterName : Bool} {rest : Text},
    PartsMeet demands afterName parts rest → ∀ entry ∈ namesOfParts parts, entry.1.Spells entry.2
  | [], _, _, _ => nofun
  | .mk _ _ :: _, _, _, ⟨simple, _, more⟩ =>
      List.forall_mem_append.mpr ⟨simple.spells, PartsMeet.spells more⟩

end

/-- The names that a parsed stylesheet selects on are names, whatever errors there are. -/
theorem Stylesheet.spells_of_parseAt {file : File} {offset : Nat} {text : Text} :
    ∀ entry ∈ (parseAt file offset text).tree.names, entry.1.Spells entry.2 := by
  intro entry listed
  obtain ⟨list, isList, named⟩ := List.mem_flatMap.mp listed
  have meets : list.Meets Outlook.blind.demands [] :=
    meets_of_parseAt (isCut_lexemes text) (fun _ => trivial) isList
  exact SelectorsMeet.spells meets.2 entry named

end Names

theorem endsInName_inSimple (simple : SimpleSelector) :
    (scope.inSimple simple).endsInName = simple.endsInName := by
  cases simple with
  | pseudo form name argument span => cases argument <;> rfl
  | _ => rfl

theorem isElement_inSimple (simple : SimpleSelector) :
    (scope.inSimple simple).isElement = simple.isElement := by
  cases simple with
  | pseudo form name argument span => cases argument <;> rfl
  | _ => rfl

theorem startsSelector_inParts {parts : List SelectorPart} (starts : StartsSelector parts) :
    StartsSelector (scope.inParts parts) := by
  match parts, starts with
  | .mk _ _ :: _, starts => exact starts

theorem inSelectors_ne_nil {list : List Selector} (notEmpty : list ≠ []) :
    scope.inSelectors list ≠ [] := by
  match list, notEmpty with
  | .mk _ _ :: _, _ => exact List.cons_ne_nil _ _

/-- The scoped form of every name in the list is a name. -/
def Scope.Spells (scope : Scope) (names : List (NameKind × Text)) : Prop :=
  ∀ entry ∈ names, entry.1.Spells (scope.rename entry.1 entry.2)

mutual

theorem SimpleSelector.WellFormed.inSimple : ∀ {simple : SimpleSelector}, simple.WellFormed →
    scope.Spells simple.names → (scope.inSimple simple).WellFormed
  | .universal _, _, _ => trivial
  | .element _ _, isName, _ => isName
  | .byClass _ _, _, spells => spells _ (List.mem_singleton_self _)
  | .byId _ _, _, spells => spells _ (List.mem_singleton_self _)
  | .attribute _ _, keeps, _ => keeps
  | .pseudo _ _ .absent _, isName, _ => isName
  | .pseudo _ _ (.raw _) _, argument, _ => argument
  | .pseudo _ _ (.selectors _ _) _, ⟨isName, takesList, notEmpty, list⟩, spells =>
      ⟨isName, takesList, inSelectors_ne_nil notEmpty, wellFormedSelectors_inSelectors list spells⟩

theorem wellFormedSelectors_inSelectors : ∀ {list : List Selector}, WellFormedSelectors list →
    scope.Spells (namesOfSelectors list) → WellFormedSelectors (scope.inSelectors list)
  | [], _, _ => trivial
  | .mk _ _ :: _, ⟨starts, parts, more⟩, spells =>
      have spells := List.forall_mem_append.mp spells
      ⟨startsSelector_inParts starts, wellFormedParts_inParts parts spells.1,
        wellFormedSelectors_inSelectors more spells.2⟩

theorem wellFormedParts_inParts : ∀ {parts : List SelectorPart} {afterName : Bool},
    WellFormedParts afterName parts → scope.Spells (namesOfParts parts) →
      WellFormedParts afterName (scope.inParts parts)
  | [], _, _, _ => trivial
  | .mk _ simple :: _, _, ⟨isSimple, apart, more⟩, spells => by
      have spells := List.forall_mem_append.mp spells
      refine ⟨isSimple.inSimple spells.1, ?_, ?_⟩
      · rwa [isElement_inSimple]
      · rw [endsInName_inSimple]
        exact wellFormedParts_inParts more spells.2

end

mutual

theorem keptTexts_inSimple : ∀ simple : SimpleSelector,
    (scope.inSimple simple).keptTexts = simple.keptTexts
  | .universal _ => rfl
  | .element _ _ => rfl
  | .byClass _ _ => rfl
  | .byId _ _ => rfl
  | .attribute _ _ => rfl
  | .pseudo _ _ .absent _ => rfl
  | .pseudo _ _ (.raw _) _ => rfl
  | .pseudo _ _ (.selectors list _) _ => keptTextsOfSelectors_inSelectors list

theorem keptTextsOfSelectors_inSelectors : ∀ list : List Selector,
    keptTextsOfSelectors (scope.inSelectors list) = keptTextsOfSelectors list
  | [] => rfl
  | .mk parts _ :: rest => by
      rw [Scope.inSelectors, keptTextsOfSelectors, keptTextsOfSelectors, keptTextsOfParts_inParts parts,
        keptTextsOfSelectors_inSelectors rest]

theorem keptTextsOfParts_inParts : ∀ parts : List SelectorPart,
    keptTextsOfParts (scope.inParts parts) = keptTextsOfParts parts
  | [] => rfl
  | .mk _ simple :: rest => by
      rw [Scope.inParts, keptTextsOfParts, keptTextsOfParts, keptTexts_inSimple simple,
        keptTextsOfParts_inParts rest]

end

end Scoping

end ComponentStyles
