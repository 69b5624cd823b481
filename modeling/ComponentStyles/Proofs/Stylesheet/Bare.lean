import ComponentStyles.Proofs.Scope.Names
import ComponentStyles.Proofs.Stylesheet.WellFormed

/-!
# What a written stylesheet keeps of a tree

The written form of a stylesheet says nothing of where its parts stood, a declaration without terms
has none, and a url may look like a call. A bare tree is what remains; trees with the same bare tree
select on the same names and define the same variables.
-/

namespace ComponentStyles

mutual

/-- A term without the places of its parts, where a url that is read as a call is one. -/
def Term.bare : Term → Term
  | .literal text _ => .literal text .detached
  | .usage name none _ => .usage name none .detached
  | .usage name (some fallback) _ => .usage name (some fallback.bare) .detached
  | .url target _ =>
      if CallsUrl target then
        .call "url".toList [.literal (quoteTarget target) .detached] .detached .detached
      else .url target .detached
  | .call name arguments _ _ => .call name (bareTerms arguments) .detached .detached
  | .operator op _ => .operator op .detached

def bareTerms : List Term → List Term
  | [] => []
  | term :: rest => term.bare :: bareTerms rest

end

theorem bareTerms_eq_map (terms : List Term) : bareTerms terms = terms.map Term.bare := by
  induction terms with
  | nil => rfl
  | cons term rest inductionHypothesis => rw [bareTerms, inductionHypothesis, List.map_cons]

def Value.bare (value : Value) : Value :=
  ⟨bareTerms value.terms, .detached⟩

mutual

/-- A simple selector without the places of its parts. -/
def SimpleSelector.bare : SimpleSelector → SimpleSelector
  | .universal _ => .universal .detached
  | .element name _ => .element name .detached
  | .byClass name _ => .byClass name .detached
  | .byId name _ => .byId name .detached
  | .attribute raw _ => .attribute raw .detached
  | .pseudo form name (.selectors list _) _ =>
      .pseudo form name (.selectors (bareSelectors list) .detached) .detached
  | .pseudo form name argument _ => .pseudo form name argument .detached

def bareSelectors : List Selector → List Selector
  | [] => []
  | .mk parts _ :: rest => .mk (bareParts parts) .detached :: bareSelectors rest

def bareParts : List SelectorPart → List SelectorPart
  | [] => []
  | .mk combinator simple :: rest => .mk combinator simple.bare :: bareParts rest

end

def SelectorList.bare (list : SelectorList) : SelectorList :=
  ⟨bareSelectors list.selectors, .detached⟩

def Definition.bare (d : Definition) : Definition :=
  ⟨d.name, d.value.bare, d.form, .detached⟩

def Declaration.bare (d : Declaration) : Declaration :=
  ⟨d.property, d.value.bare, d.important, .detached⟩

/-- The bare form of an entry, unless it is a declaration without terms. -/
def Item.bare? : Item → Option Item
  | declaration d => if d.value.terms.isEmpty then none else some (.declaration d.bare)
  | definition d => some (.definition d.bare)

def Block.bare (block : Block) : Block :=
  ⟨block.items.filterMap Item.bare?, .detached⟩

mutual

/-- A statement as far as its written form tells. -/
def Statement.bare : Statement → Statement
  | .rule selectors block _ => .rule selectors.bare block.bare .detached
  | .definition d => .definition d.bare
  | .importing target media _ => .importing target media .detached
  | .conditional name condition statements _ =>
      .conditional name condition (bareStatements statements) .detached
  | .atRule name prelude (some (.declarations block)) _ =>
      .atRule name prelude (some (.declarations block.bare)) .detached
  | .atRule name prelude body _ => .atRule name prelude body .detached
  | .comment text _ => .comment text .detached

def bareStatements : List Statement → List Statement
  | [] => []
  | statement :: rest => statement.bare :: bareStatements rest

end

theorem bareStatements_append (statements others : List Statement) :
    bareStatements (statements ++ others) = bareStatements statements ++ bareStatements others := by
  induction statements with
  | nil => rfl
  | cons statement rest inductionHypothesis =>
      rw [List.cons_append, bareStatements, inductionHypothesis, bareStatements, List.cons_append]

section Names

mutual

theorem SimpleSelector.names_bare : ∀ simple : SimpleSelector, simple.bare.names = simple.names
  | .universal _ => rfl
  | .element _ _ => rfl
  | .byClass _ _ => rfl
  | .byId _ _ => rfl
  | .attribute _ _ => rfl
  | .pseudo _ _ .absent _ => rfl
  | .pseudo _ _ (.raw _) _ => rfl
  | .pseudo _ _ (.selectors list _) _ => namesOfSelectors_bareSelectors list

theorem namesOfSelectors_bareSelectors : ∀ list : List Selector,
    namesOfSelectors (bareSelectors list) = namesOfSelectors list
  | [] => rfl
  | .mk parts _ :: rest => by
      rw [bareSelectors, namesOfSelectors, namesOfSelectors, namesOfParts_bareParts parts,
        namesOfSelectors_bareSelectors rest]

theorem namesOfParts_bareParts : ∀ parts : List SelectorPart,
    namesOfParts (bareParts parts) = namesOfParts parts
  | [] => rfl
  | .mk _ simple :: rest => by
      rw [bareParts, namesOfParts, namesOfParts, simple.names_bare, namesOfParts_bareParts rest]

end

mutual

theorem Statement.selectorLists_bare : ∀ statement : Statement,
    statement.bare.selectorLists = statement.selectorLists.map SelectorList.bare
  | .rule _ _ _ => rfl
  | .definition _ => rfl
  | .importing _ _ _ => rfl
  | .conditional _ _ statements _ => selectorListsOf_bareStatements statements
  | .atRule _ _ none _ => rfl
  | .atRule _ _ (some (.declarations _)) _ => rfl
  | .atRule _ _ (some (.raw _)) _ => rfl
  | .comment _ _ => rfl

theorem selectorListsOf_bareStatements : ∀ statements : List Statement,
    selectorListsOf (bareStatements statements) =
      (selectorListsOf statements).map SelectorList.bare
  | [] => rfl
  | statement :: rest => by
      rw [bareStatements, selectorListsOf, selectorListsOf, List.map_append,
        statement.selectorLists_bare, selectorListsOf_bareStatements rest]

end

/-- Trees with the same bare form select on the same names. -/
theorem Stylesheet.names_eq_of_bare {sheet other : Stylesheet}
    (same : bareStatements sheet.statements = bareStatements other.statements) :
    sheet.names = other.names := by
  have viaBare (sheet : Stylesheet) : sheet.names =
      (selectorListsOf (bareStatements sheet.statements)).flatMap fun list =>
        namesOfSelectors list.selectors := by
    rw [selectorListsOf_bareStatements, List.flatMap_map]
    exact congrArg (sheet.selectorLists.flatMap ·)
      (funext fun list => (namesOfSelectors_bareSelectors list.selectors).symm)
  rw [viaBare, viaBare, same]

end Names

section Definitions

theorem Block.definitions_bare (block : Block) :
    block.bare.items.filterMap Item.definition? =
      (block.items.filterMap Item.definition?).map Definition.bare := by
  rw [bare, List.filterMap_filterMap, List.map_filterMap]
  refine congrArg (List.filterMap · block.items) (funext fun item => ?_)
  cases item with
  | definition d => rfl
  | declaration d =>
      rw [Item.bare?]
      split <;> rfl

mutual

theorem Statement.definitions_bare : ∀ statement : Statement,
    statement.bare.items.filterMap Item.definition? =
      (statement.items.filterMap Item.definition?).map Definition.bare
  | .rule _ block _ => block.definitions_bare
  | .definition _ => rfl
  | .importing _ _ _ => rfl
  | .conditional _ _ statements _ => definitionsOf_bareStatements statements
  | .atRule _ _ none _ => rfl
  | .atRule _ _ (some (.declarations block)) _ => block.definitions_bare
  | .atRule _ _ (some (.raw _)) _ => rfl
  | .comment _ _ => rfl

theorem definitionsOf_bareStatements : ∀ statements : List Statement,
    (itemsOf (bareStatements statements)).filterMap Item.definition? =
      ((itemsOf statements).filterMap Item.definition?).map Definition.bare
  | [] => rfl
  | statement :: rest => by
      rw [bareStatements, itemsOf, itemsOf, List.filterMap_append, List.filterMap_append,
        List.map_append, statement.definitions_bare, definitionsOf_bareStatements rest]

end

/-- Trees with the same bare form define the same variables. -/
theorem Stylesheet.definitions_eq_of_bare {sheet other : Stylesheet}
    (same : bareStatements sheet.statements = bareStatements other.statements) :
    sheet.definitions.map Definition.bare = other.definitions.map Definition.bare := by
  rw [definitions, items, ← definitionsOf_bareStatements, same, definitionsOf_bareStatements]
  rfl

end Definitions

end ComponentStyles
