import ComponentStyles.Scope.Basic

/-!
The sets of names that a stylesheet selects on, as sets, and what renaming does to a name.
-/

namespace ComponentStyles

namespace SelectorNames

theorem mem_insertName {name other : Text} {names : List Text} :
    other ∈ insertName name names ↔ other = name ∨ other ∈ names := by
  induction names with
  | nil => simp [insertName]
  | cons first rest inductionHypothesis =>
      rw [insertName]
      split
      case isTrue same =>
        rw [List.mem_cons, same, or_self_left]
      case isFalse different =>
        split
        case isTrue before => rw [List.mem_cons]
        case isFalse behind =>
          rw [List.mem_cons, inductionHypothesis, List.mem_cons, or_left_comm]

theorem mem_inOrder {name : Text} {names : List Text} : name ∈ inOrder names ↔ name ∈ names := by
  induction names with
  | nil => rfl
  | cons first rest inductionHypothesis =>
      rw [inOrder, List.foldr_cons, mem_insertName, List.mem_cons, ← inductionHypothesis, inOrder]

/-- The catalog has the names that occur in selectors, each with its kind. -/
theorem has_ofStylesheet_iff {sheet : Stylesheet} {kind : NameKind} {name : Text} :
    (ofStylesheet sheet).has kind name = true ↔ (kind, name) ∈ sheet.names := by
  rw [has, List.contains_iff_mem]
  cases kind <;> simp [ofStylesheet, ofList, ofKind, mem_inOrder]

end SelectorNames

namespace Scope

theorem rename_of_has {names : SelectorNames} {tag name : Text} {kind : NameKind}
    (has : names.has kind name = true) :
    (Scope.mk names (some tag)).rename kind name = scopedForm tag name := by
  simp [rename, rename?, has]

theorem rename_of_not_has {scope : Scope} {name : Text} {kind : NameKind}
    (has : scope.names.has kind name = false) : scope.rename kind name = name := by
  cases tag : scope.tag <;> simp [rename, rename?, has, tag]

end Scope

mutual

theorem Statement.selectorLists_mapSelectors (change : SelectorList → SelectorList) :
    ∀ statement : Statement,
      (statement.mapSelectors change).selectorLists = statement.selectorLists.map change
  | .rule _ _ _ => rfl
  | .conditional _ _ statements _ => selectorListsOf_mapSelectorsOf change statements
  | .definition _ => rfl
  | .importing _ _ _ => rfl
  | .atRule _ _ _ _ => rfl
  | .comment _ _ => rfl

theorem selectorListsOf_mapSelectorsOf (change : SelectorList → SelectorList) :
    ∀ statements : List Statement,
      selectorListsOf (mapSelectorsOf change statements) =
        (selectorListsOf statements).map change
  | [] => rfl
  | statement :: rest => by
      rw [mapSelectorsOf, selectorListsOf, selectorListsOf, List.map_append,
        statement.selectorLists_mapSelectors change, selectorListsOf_mapSelectorsOf change rest]

end

/-- The rules keep their number and their order when their selectors change. -/
theorem Stylesheet.selectorLists_mapSelectors (change : SelectorList → SelectorList)
    (sheet : Stylesheet) :
    (sheet.mapSelectors change).selectorLists = sheet.selectorLists.map change :=
  selectorListsOf_mapSelectorsOf change sheet.statements

namespace Scope

/-- The name in an entry of a list of names, renamed. -/
def renameEntry (scope : Scope) (entry : NameKind × Text) : NameKind × Text :=
  (entry.1, scope.rename entry.1 entry.2)

variable (scope : Scope)

mutual

theorem names_inSimple : ∀ simple : SimpleSelector,
    (scope.inSimple simple).names = simple.names.map scope.renameEntry
  | .universal _ => rfl
  | .element _ _ => rfl
  | .byClass _ _ => rfl
  | .byId _ _ => rfl
  | .attribute _ _ => rfl
  | .pseudo _ _ .absent _ => rfl
  | .pseudo _ _ (.raw _) _ => rfl
  | .pseudo _ _ (.selectors list _) _ => namesOfSelectors_inSelectors list

theorem namesOfSelectors_inSelectors : ∀ list : List Selector,
    namesOfSelectors (scope.inSelectors list) = (namesOfSelectors list).map scope.renameEntry
  | [] => rfl
  | .mk parts _ :: rest => by
      rw [inSelectors, namesOfSelectors, namesOfSelectors, List.map_append,
        namesOfParts_inParts parts, namesOfSelectors_inSelectors rest]

theorem namesOfParts_inParts : ∀ parts : List SelectorPart,
    namesOfParts (scope.inParts parts) = (namesOfParts parts).map scope.renameEntry
  | [] => rfl
  | .mk _ simple :: rest => by
      rw [inParts, namesOfParts, namesOfParts, List.map_append, names_inSimple simple,
        namesOfParts_inParts rest]

end

theorem names_inStylesheet (sheet : Stylesheet) :
    (scope.inStylesheet sheet).names = sheet.names.map scope.renameEntry := by
  rw [Stylesheet.names, inStylesheet, Stylesheet.selectorLists_mapSelectors, List.flatMap_map,
    Stylesheet.names, List.map_flatMap]
  exact congrArg (sheet.selectorLists.flatMap ·)
    (funext fun list => scope.namesOfSelectors_inSelectors list.selectors)

end Scope

/-- Within one component no two names have the same scoped form. -/
theorem scopedForm_injective (tag : Text) : Function.Injective (scopedForm tag) := by
  intro first second same
  exact (List.cons.inj (List.append_cancel_left same)).2

end ComponentStyles
