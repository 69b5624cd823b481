import ComponentStyles.Proofs.Scope.Attributes
import ComponentStyles.Proofs.Stylesheet.Matching
import Mathlib.Data.List.Forall2

/-!
Selectors match the same elements after scoping.

Selectors and templates are renamed apart from each other. They stay in step as long as no name
that keeps its form looks like the new form of another: then an element has the new form of a
selected name exactly if it had the name, and everything else that matching looks at is as before.
-/

namespace ComponentStyles

/-- No name in the template that the stylesheet does not select on is the scoped form of one that
it does select on. -/
def KeepsApart (names : SelectorNames) (tag : Text) (nodes : List Node) : Prop :=
  ∀ kind, ∀ name ∈ namesOfNodes kind nodes, names.has kind name = false →
    ∀ selected ∈ names.ofKind kind, name ≠ scopedForm tag selected

/-- Elements have the new form of a selected name if they had the name, and only then. -/
theorem hasName_rename_iff {names : SelectorNames} {tag : Text} {nodes : List Node}
    (noBlank : ∀ c ∈ tag, Text.isBlank c = false) (apart : KeepsApart names tag nodes)
    {kind : NameKind} {name : Text} (selected : names.has kind name = true) (path : NodePath) :
    HasName (Scope.inNodes ⟨names, some tag⟩ nodes) path kind
        (Scope.rename ⟨names, some tag⟩ kind name) ↔
      HasName nodes path kind name := by
  have noBlankInTag : ∀ given ∈ some tag, ∀ c ∈ given, Text.isBlank c = false := by
    rintro given ⟨⟩
    exact noBlank
  rw [Scope.hasName_inNodes noBlankInTag]
  constructor
  · rintro ⟨old, has, renamed⟩
    rw [Scope.rename_of_has selected] at renamed
    cases oldSelected : names.has kind old with
    | true =>
        rw [Scope.rename_of_has oldSelected] at renamed
        rwa [← scopedForm_injective tag renamed]
    | false =>
        rw [Scope.rename_of_not_has oldSelected] at renamed
        exact absurd renamed (apart kind old (mem_namesOfNodes_of_hasName has) oldSelected name
          (List.contains_iff_mem.mp selected))
  · intro has
    exact ⟨name, has, rfl⟩

namespace Scope

variable (scope : Scope) (nodes : List Node)

theorem links_inNodes (combinator : Combinator) :
    combinator.Links (scope.inNodes nodes) = combinator.Links nodes := by
  funext first second
  cases combinator with
  | same | descendant | child | subsequent => rfl
  | next => simp only [Combinator.Links, inNodes_eq, isElementAt_mapAttributesOf]

theorem startOf_inParts (anchors : NodePath → Prop) (parts : List SelectorPart) :
    startOf anchors (scope.inParts parts) = startOf anchors parts := by
  cases parts with
  | nil => rfl
  | cons part rest =>
      cases part with
      | mk combinator simple => cases combinator <;> rfl

/-- The elements that have a listed name are those that have its new form afterwards. -/
def KeepsNames (names : List (NameKind × Text)) : Prop :=
  ∀ kind name, (kind, name) ∈ names → ∀ path,
    HasName (scope.inNodes nodes) path kind (scope.rename kind name) ↔
      HasName nodes path kind name

variable {scope nodes}

theorem keepsNames_append {first second : List (NameKind × Text)} :
    scope.KeepsNames nodes (first ++ second) ↔
      scope.KeepsNames nodes first ∧ scope.KeepsNames nodes second := by
  simp only [KeepsNames, List.mem_append, or_imp, forall_and]

mutual

theorem holds_inSimple (meaning : Interpretation) : ∀ {simple : SimpleSelector},
    scope.KeepsNames nodes simple.names →
      (scope.inSimple simple).Holds meaning (scope.inNodes nodes) = simple.Holds meaning nodes
  | .universal _, _ => rfl
  | .element name _, _ => by
      funext path
      simp only [inSimple, SimpleSelector.Holds, inNodes_eq, tagAt?_mapAttributesOf]
  | .byClass name _, keeps => by
      funext path
      exact propext (keeps .ofClass name List.mem_cons_self path)
  | .byId name _, keeps => by
      funext path
      exact propext (keeps .ofId name List.mem_cons_self path)
  | .attribute raw _, _ => by
      funext path
      exact propext (meaning.bracketed_ignores raw (withoutNames_inNodes nodes) path)
  | .pseudo form name .absent _, _ => by
      funext path
      exact propext (meaning.pseudo_ignores form name none (withoutNames_inNodes nodes) path)
  | .pseudo form name (.raw text) _, _ => by
      funext path
      exact propext
        (meaning.pseudo_ignores form name (some text) (withoutNames_inNodes nodes) path)
  | .pseudo form name (.selectors list _) _, keeps => by
      funext path
      simp only [inSimple, SimpleSelector.Holds, matchedBy_inSelectors meaning keeps]
      exact propext (meaning.nested_ignores form name _ (withoutNames_inNodes nodes) path)

theorem matchedBy_inSelectors (meaning : Interpretation) : ∀ {list : List Selector},
    scope.KeepsNames nodes (namesOfSelectors list) →
      MatchedBy meaning (scope.inNodes nodes) (scope.inSelectors list) =
        MatchedBy meaning nodes list
  | [], _ => rfl
  | .mk parts _ :: rest, keeps => by
      obtain ⟨keepsFirst, keepsRest⟩ := keepsNames_append.mp keeps
      funext anchors path
      rw [inSelectors, MatchedBy, MatchedBy, startOf_inParts,
        reachedBy_inParts meaning keepsFirst, matchedBy_inSelectors meaning keepsRest]

theorem reachedBy_inParts (meaning : Interpretation) : ∀ {parts : List SelectorPart},
    scope.KeepsNames nodes (namesOfParts parts) →
      ReachedBy meaning (scope.inNodes nodes) (scope.inParts parts) =
        ReachedBy meaning nodes parts
  | [], _ => rfl
  | .mk combinator simple :: rest, keeps => by
      obtain ⟨keepsFirst, keepsRest⟩ := keepsNames_append.mp keeps
      funext reached path
      rw [inParts, ReachedBy, ReachedBy, reachedBy_inParts meaning keepsRest,
        holds_inSimple meaning keepsFirst, links_inNodes]
      simp only [inNodes_eq, isElementAt_mapAttributesOf]

end

end Scope

/-- After scoping, the selectors select on scoped forms only, and each list of them matches an
element of the template exactly if it did before, whatever the interpretation. Every element is at
the place where it was. -/
theorem matches_iff_after_scoping (sheet : Stylesheet) (nodes : List Node) (tag : Text)
    (noBlank : ∀ c ∈ tag, Text.isBlank c = false)
    (apart : KeepsApart (SelectorNames.ofStylesheet sheet) tag nodes)
    (meaning : Interpretation) :
    let scope : Scope := ⟨SelectorNames.ofStylesheet sheet, some tag⟩
    (scope.inStylesheet sheet).names =
        sheet.names.map (fun (kind, name) => (kind, scopedForm tag name)) ∧
      List.Forall₂ (fun before after => ∀ anchors path,
          MatchedBy meaning nodes before.selectors anchors path ↔
            MatchedBy meaning (scope.inNodes nodes) after.selectors anchors path)
        sheet.selectorLists (scope.inStylesheet sheet).selectorLists ∧
      ∀ path, nodeAt? (scope.inNodes nodes) path = (nodeAt? nodes path).map scope.inNode := by
  intro scope
  refine ⟨?_, ?_, ?_⟩
  · rw [Scope.names_inStylesheet]
    refine List.map_congr_left ?_
    rintro ⟨kind, name⟩ listed
    rw [Scope.renameEntry, Scope.rename_of_has (SelectorNames.has_ofStylesheet_iff.mpr listed)]
  · rw [Scope.inStylesheet, Stylesheet.selectorLists_mapSelectors, List.forall₂_map_right_iff,
      List.forall₂_same]
    intro list membership anchors path
    have keeps : scope.KeepsNames nodes (namesOfSelectors list.selectors) := by
      intro kind name listed
      refine hasName_rename_iff noBlank apart (SelectorNames.has_ofStylesheet_iff.mpr ?_)
      exact List.mem_flatMap.mpr ⟨list, membership, listed⟩
    rw [Scope.matchedBy_inSelectors meaning keeps]
  · intro path
    rw [Scope.inNodes_eq, nodeAt?_mapAttributesOf]
    exact congrArg (Option.map · _) (funext fun node => (Scope.inNode_eq node).symm)

/-- `.card > :not(.title), #top [href]` -/
def cardSheet : Stylesheet where
  file := ⟨"card.css".toList, ⟨[0], 40⟩⟩
  statements :=
    [.rule
      ⟨[.mk [.mk .same (.byClass "card".toList .detached),
          .mk .child (.pseudo .ofClass "not".toList
            (.selectors [.mk [.mk .same (.byClass "title".toList .detached)] .detached] .detached)
            .detached)] .detached,
        .mk [.mk .same (.byId "top".toList .detached),
          .mk .descendant (.attribute "href".toList .detached)] .detached], .detached⟩
      ⟨[], .detached⟩ .detached]
  span := .detached

/-- `<div class="card  wide" id="top"><p></p><a class="title" href></a></div>` -/
def cardNodes : List Node :=
  [.element "div".toList
    [⟨"class".toList, some "card  wide".toList, .detached⟩,
      ⟨"id".toList, some "top".toList, .detached⟩]
    [.element "p".toList [] [] false .detached,
      .element "a".toList
        [⟨"class".toList, some "title".toList, .detached⟩, ⟨"href".toList, none, .detached⟩]
        [] false .detached]
    false .detached]

theorem matches_iff_after_scoping_card :
    (∀ c ∈ "x-card".toList, Text.isBlank c = false) ∧
    KeepsApart (SelectorNames.ofStylesheet cardSheet) "x-card".toList cardNodes ∧
    let scope : Scope := ⟨SelectorNames.ofStylesheet cardSheet, some "x-card".toList⟩
    (scope.inStylesheet cardSheet).names =
        cardSheet.names.map (fun (kind, name) => (kind, scopedForm "x-card".toList name)) ∧
      List.Forall₂ (fun before after => ∀ anchors path,
          MatchedBy .simple cardNodes before.selectors anchors path ↔
            MatchedBy .simple (scope.inNodes cardNodes) after.selectors anchors path)
        cardSheet.selectorLists (scope.inStylesheet cardSheet).selectorLists ∧
      ∀ path, nodeAt? (scope.inNodes cardNodes) path =
        (nodeAt? cardNodes path).map scope.inNode := by
  have noneBlank : ("x-card".toList.all fun c => !Text.isBlank c) = true := by decide +kernel
  have noBlank : ∀ c ∈ "x-card".toList, Text.isBlank c = false := by simpa using noneBlank
  have apart : KeepsApart (SelectorNames.ofStylesheet cardSheet) "x-card".toList cardNodes := by
    intro kind
    cases kind <;> decide +kernel
  exact ⟨noBlank, apart, matches_iff_after_scoping cardSheet cardNodes _ noBlank apart .simple⟩

end ComponentStyles
