import ComponentStyles.Component.Compilation
import ComponentStyles.Proofs.Scope.Names
import Mathlib.Data.List.Basic

/-!
# Scoped names of different components

A scoped form joins a tag and a name with an underscore, and both may hold underscores themselves.
So it can be cut at another underscore, and then it is also the scoped form of another name in the
component with another tag. That is the only way in which two components come to share a name.
-/

namespace ComponentStyles

/-- Equal texts with a cut each are cut at the same place, or one cut lies behind the other. -/
theorem scopedForm_eq_iff {tag otherTag name otherName : Text} :
    scopedForm tag name = scopedForm otherTag otherName ↔
      tag = otherTag ∧ name = otherName ∨
        (∃ piece, otherTag = scopedForm tag piece ∧ name = scopedForm piece otherName) ∨
        ∃ piece, tag = scopedForm otherTag piece ∧ otherName = scopedForm piece name := by
  simp only [scopedForm]
  constructor
  · intro same
    rcases List.append_eq_append_iff.mp same with ⟨piece, longer, rest⟩ | ⟨piece, longer, rest⟩
    · cases piece with
      | nil => simp_all
      | cons c piece =>
          obtain ⟨rfl, sameRest⟩ := List.cons.inj rest
          exact .inr (.inl ⟨piece, longer, sameRest⟩)
    · cases piece with
      | nil => simp_all
      | cons c piece =>
          obtain ⟨rfl, sameRest⟩ := List.cons.inj rest
          exact .inr (.inr ⟨piece, longer, sameRest⟩)
  · rintro (⟨rfl, rfl⟩ | ⟨piece, rfl, rfl⟩ | ⟨piece, rfl, rfl⟩) <;> simp

namespace Component

/-- The class and id names in the stylesheet that is used. -/
def names (component : Component) : List (NameKind × Text) :=
  (component.stylesheets.head?.map Stylesheet.names).getD []

/-- The scoped selectors that the map of a component leads to. -/
def scopedSelectors (options : CompileOptions) (places : Places) (component : Component) :
    List Text :=
  (component.compile options places).result.selectors.entries.map (·.2)

/-- The name of the second component, cut at an earlier underscore, is one of the first. -/
def Overlaps (first second : Component) : Prop :=
  ∃ piece kind name, second.tag = scopedForm first.tag piece ∧
    (kind, scopedForm piece name) ∈ first.names ∧ (kind, name) ∈ second.names

theorem mem_scopedSelectors_iff {options : CompileOptions} {places : Places}
    {component : Component} {selector : Text} (scoping : options.scoping = true) :
    selector ∈ component.scopedSelectors options places ↔
      ∃ kind name, (kind, name) ∈ component.names ∧
        selector = kind.sigil :: scopedForm component.tag name := by
  obtain ⟨tag, stylesheets, template, span⟩ := component
  cases stylesheets with
  | nil => simp [scopedSelectors, names, compile, SelectorMap.ofScope, SelectorMap.entriesOf,
      SelectorNames.ofKind]
  | cons sheet rest =>
      have mem_ofKind (kind : NameKind) (name : Text) :
          name ∈ (SelectorNames.ofStylesheet sheet).ofKind kind ↔ (kind, name) ∈ sheet.names := by
        rw [← SelectorNames.has_ofStylesheet_iff, SelectorNames.has, List.contains_iff_mem]
      have mem_entriesOf (kind : NameKind) :
          selector ∈ (SelectorMap.entriesOf ⟨.ofStylesheet sheet, some tag⟩ kind).map (·.2) ↔
            ∃ name, (kind, name) ∈ sheet.names ∧ selector = kind.sigil :: scopedForm tag name := by
        simp only [SelectorMap.entriesOf, List.map_map, List.mem_map, Function.comp_apply,
          mem_ofKind]
        refine exists_congr fun name => and_congr_right fun listed => ?_
        rw [Scope.rename_of_has (SelectorNames.has_ofStylesheet_iff.mpr listed), eq_comm]
      simp only [scopedSelectors, names, compile, scoping, if_true, SelectorMap.ofScope,
        List.map_append, List.mem_append, mem_entriesOf, List.head?_cons, Option.map_some,
        Option.getD_some]
      constructor
      · rintro (⟨name, found⟩ | ⟨name, found⟩)
        · exact ⟨_, name, found⟩
        · exact ⟨_, name, found⟩
      · rintro ⟨kind, name, found⟩
        cases kind with
        | ofId => exact .inl ⟨name, found⟩
        | ofClass => exact .inr ⟨name, found⟩

theorem sigil_injective : Function.Injective NameKind.sigil := by
  intro first second same
  cases first <;> cases second <;> first | rfl | simp [NameKind.sigil] at same

/-- Two components with different tags share a scoped selector exactly when one of them overlaps
the other, so never when no tag holds an underscore. -/
theorem share_scopedSelectors_iff_overlaps {options otherOptions : CompileOptions}
    (places otherPlaces : Places) {first second : Component}
    (scoping : options.scoping = true) (otherScoping : otherOptions.scoping = true)
    (different : first.tag ≠ second.tag) :
    ((∃ selector ∈ first.scopedSelectors options places,
        selector ∈ second.scopedSelectors otherOptions otherPlaces) ↔
      first.Overlaps second ∨ second.Overlaps first) ∧
    ('_' ∉ first.tag → '_' ∉ second.tag →
      List.Disjoint (first.scopedSelectors options places)
        (second.scopedSelectors otherOptions otherPlaces)) := by
  have shared_iff : (∃ selector ∈ first.scopedSelectors options places,
      selector ∈ second.scopedSelectors otherOptions otherPlaces) ↔
        first.Overlaps second ∨ second.Overlaps first := by
    simp only [mem_scopedSelectors_iff scoping, mem_scopedSelectors_iff otherScoping]
    constructor
    · rintro ⟨selector, ⟨kind, name, listed, rfl⟩, otherKind, otherName, otherListed, same⟩
      obtain ⟨sameSigil, sameForm⟩ := List.cons.inj same
      obtain rfl := sigil_injective sameSigil
      rcases scopedForm_eq_iff.mp sameForm with ⟨sameTag, _⟩ | ⟨piece, tag, rfl⟩ | ⟨piece, tag, rfl⟩
      · exact absurd sameTag different
      · exact .inl ⟨piece, kind, otherName, tag, listed, otherListed⟩
      · exact .inr ⟨piece, kind, name, tag, otherListed, listed⟩
    · rintro (⟨piece, kind, name, tag, listed, otherListed⟩ |
        ⟨piece, kind, name, tag, otherListed, listed⟩)
      · exact ⟨_, ⟨kind, _, listed, rfl⟩, kind, _, otherListed, by simp [tag, scopedForm]⟩
      · exact ⟨_, ⟨kind, _, listed, rfl⟩, kind, _, otherListed, by simp [tag, scopedForm]⟩
  refine ⟨shared_iff, ?_⟩
  intro plain otherPlain selector listed otherListed
  rcases shared_iff.mp ⟨selector, listed, otherListed⟩ with overlaps | overlaps
  · obtain ⟨piece, _, _, tag, _⟩ := overlaps
    exact otherPlain (by simp [tag, scopedForm])
  · obtain ⟨piece, _, _, tag, _⟩ := overlaps
    exact plain (by simp [tag, scopedForm])

/-- `.bar_baz { top: 0; }` in a component `x-foo` with an empty template. -/
def foo : Component :=
  ⟨"x-foo".toList, [(Stylesheet.parse [] ".bar_baz { top: 0; }".toList).tree], [], .detached⟩

/-- `.baz { top: 0; }` in a component `x-foo_bar` with an empty template. -/
def fooBar : Component :=
  ⟨"x-foo_bar".toList, [(Stylesheet.parse [] ".baz { top: 0; }".toList).tree], [], .detached⟩

def fooPlaces : Places :=
  ⟨⟨"src/x-foo.html".toList⟩, ⟨"build/x-foo.css".toList⟩⟩

theorem share_scopedSelectors_iff_overlaps_fooBar :
    (CompileOptions.scoping {} = true ∧ foo.tag ≠ fooBar.tag) ∧
      ((∃ selector ∈ foo.scopedSelectors {} fooPlaces, selector ∈ fooBar.scopedSelectors {} fooPlaces) ↔
        foo.Overlaps fooBar ∨ fooBar.Overlaps foo) ∧
      ('_' ∉ foo.tag → '_' ∉ fooBar.tag →
        List.Disjoint (foo.scopedSelectors {} fooPlaces) (fooBar.scopedSelectors {} fooPlaces)) := by
  have different : foo.tag ≠ fooBar.tag := by decide
  exact ⟨⟨rfl, different⟩, share_scopedSelectors_iff_overlaps fooPlaces fooPlaces rfl rfl different⟩

/-- Both components have a class `x-foo_bar_baz`. -/
theorem not_disjoint_scopedSelectors_fooBar :
    foo.tag ≠ fooBar.tag ∧
      ¬ List.Disjoint (foo.scopedSelectors {} fooPlaces) (fooBar.scopedSelectors {} fooPlaces) := by
  refine ⟨by decide, ?_⟩
  intro disjoint
  have listed : ".x-foo_bar_baz".toList ∈ foo.scopedSelectors {} fooPlaces := by decide +kernel
  have otherListed : ".x-foo_bar_baz".toList ∈ fooBar.scopedSelectors {} fooPlaces := by
    decide +kernel
  exact disjoint listed otherListed

end Component

end ComponentStyles
