import ComponentStyles.Build.Outputs
import ComponentStyles.Proofs.Component.InPlace
import ComponentStyles.Proofs.Json.Object
import ComponentStyles.Proofs.Scope.Map

/-!
# The selectors that are written for a component file

The selectors of a component file are written with a field for each tag, so there is room for one
map of each tag: that of the last component defined with it. What another component of that tag
selects on is written only as far as the last one selects on it too.
-/

namespace ComponentStyles

/-- Reads a map of selectors for each tag. -/
def Json.Reader.selectorTables : Json.Reader (List (Text × List (Text × Text))) :=
  object (object string)

/-- What a written text holds: a table for each of some tags, which has a value for each of some
selectors. -/
structure HoldsTables (text : Text) (tables : List (Text × List (Text × Text))) : Prop where
  reads : Json.Reader.selectorTables text = .ok (tables, [])
  tags : (tables.map (·.1)).Pairwise Text.Precedes
  selectors : ∀ entry ∈ tables, (entry.2.map (·.1)).Pairwise Text.Precedes

/-- The component is the last one of its tag. -/
def IsLastOfTag (components : List Compiled) (tag : Text) (last : Compiled) : Prop :=
  ∃ before behind, components = before ++ last :: behind ∧ last.tag = tag ∧
    ∀ other ∈ behind, other.tag ≠ tag

theorem isLastOfTag_cons_iff {first last : Compiled} {rest : List Compiled} {tag : Text} :
    IsLastOfTag (first :: rest) tag last ↔ IsLastOfTag rest tag last ∨
      first = last ∧ last.tag = tag ∧ ∀ other ∈ rest, other.tag ≠ tag := by
  constructor
  · rintro ⟨_ | ⟨_, before⟩, behind, row, named, noOther⟩
    · obtain ⟨rfl, rfl⟩ := List.cons.inj row
      exact .inr ⟨rfl, named, noOther⟩
    · obtain ⟨rfl, rfl⟩ := List.cons.inj row
      exact .inl ⟨before, behind, rfl, named, noOther⟩
  · rintro (⟨before, behind, rfl, named, noOther⟩ | ⟨rfl, named, noOther⟩)
    · exact ⟨first :: before, behind, rfl, named, noOther⟩
    · exact ⟨[], rest, rfl, named, noOther⟩

theorem IsLastOfTag.unique {components : List Compiled} {tag : Text} {last other : Compiled}
    (isLast : IsLastOfTag components tag last) (alsoLast : IsLastOfTag components tag other) :
    last = other := by
  induction components with
  | nil =>
      obtain ⟨before, behind, row, -⟩ := isLast
      simp at row
  | cons first rest inductionHypothesis =>
      have later {component : Compiled} (isLast : IsLastOfTag rest tag component)
          (noOther : ∀ other ∈ rest, other.tag ≠ tag) : False := by
        obtain ⟨before, behind, rfl, named, -⟩ := isLast
        exact noOther component (List.mem_append_right _ List.mem_cons_self) named
      rcases isLastOfTag_cons_iff.mp isLast with inRest | ⟨here, -, noOther⟩ <;>
        rcases isLastOfTag_cons_iff.mp alsoLast with alsoInRest | ⟨alsoHere, -, alsoNoOther⟩
      · exact inductionHypothesis inRest alsoInRest
      · exact (later inRest alsoNoOther).elim
      · exact (later alsoInRest noOther).elim
      · exact here.symm.trans alsoHere

namespace Outputs

variable {components : List Compiled} {component last : Compiled}

theorem exists_mem_lastOfEachTag (listed : component ∈ components) :
    ∃ other ∈ lastOfEachTag components, other.tag = component.tag := by
  induction components with
  | nil => cases listed
  | cons first rest inductionHypothesis =>
      rw [lastOfEachTag]
      rcases List.mem_cons.mp listed with rfl | later
      · split
        case isTrue found => simpa using found
        case isFalse => exact ⟨component, List.mem_cons_self, rfl⟩
      · obtain ⟨other, found, named⟩ := inductionHypothesis later
        split
        case isTrue => exact ⟨other, found, named⟩
        case isFalse => exact ⟨other, List.mem_cons_of_mem _ found, named⟩

theorem mem_of_mem_lastOfEachTag (listed : component ∈ lastOfEachTag components) :
    component ∈ components := by
  induction components with
  | nil => cases listed
  | cons first rest inductionHypothesis =>
      rw [lastOfEachTag] at listed
      split at listed
      case isTrue => exact List.mem_cons_of_mem _ (inductionHypothesis listed)
      case isFalse =>
        rcases List.mem_cons.mp listed with rfl | later
        · exact List.mem_cons_self
        · exact List.mem_cons_of_mem _ (inductionHypothesis later)

/-- A later component of the tag is found just when one is kept. -/
theorem any_lastOfEachTag_iff {tag : Text} :
    ((lastOfEachTag components).any fun other => other.tag = tag) = true ↔
      ∃ other ∈ components, other.tag = tag := by
  rw [List.any_eq_true]
  constructor
  · rintro ⟨other, kept, named⟩
    exact ⟨other, mem_of_mem_lastOfEachTag kept, of_decide_eq_true named⟩
  · rintro ⟨other, listed, named⟩
    obtain ⟨keptOne, kept, sameTag⟩ := exists_mem_lastOfEachTag listed
    exact ⟨keptOne, kept, decide_eq_true (sameTag.trans named)⟩

theorem mem_lastOfEachTag_iff :
    last ∈ lastOfEachTag components ↔ IsLastOfTag components last.tag last := by
  induction components with
  | nil => simp [lastOfEachTag, IsLastOfTag]
  | cons first rest inductionHypothesis =>
      rw [lastOfEachTag, isLastOfTag_cons_iff, ← inductionHypothesis]
      split
      case isTrue found =>
        obtain ⟨other, listed, named⟩ := any_lastOfEachTag_iff.mp found
        refine ⟨.inl, fun kept => kept.resolve_right ?_⟩
        rintro ⟨rfl, -, noOther⟩
        exact noOther other listed named
      case isFalse missing =>
        rw [any_lastOfEachTag_iff] at missing
        rw [List.mem_cons, or_comm]
        refine or_congr_right ⟨?_, fun kept => kept.1.symm⟩
        rintro rfl
        exact ⟨rfl, rfl, fun other listed named => missing ⟨other, listed, named⟩⟩

theorem nodup_tags_lastOfEachTag (components : List Compiled) :
    ((lastOfEachTag components).map (·.tag)).Nodup := by
  induction components with
  | nil => exact List.nodup_nil
  | cons first rest inductionHypothesis =>
      rw [lastOfEachTag]
      split
      case isTrue => exact inductionHypothesis
      case isFalse missing =>
        refine List.nodup_cons.mpr ⟨fun listed => missing ?_, inductionHypothesis⟩
        obtain ⟨other, kept, named⟩ := List.mem_map.mp listed
        exact List.any_eq_true.mpr ⟨other, kept, decide_eq_true named⟩

/-- The maps of selectors as they are written, in the order of the tags. -/
def selectorEntries (components : List Compiled) : List (Text × List (Text × Text)) :=
  ((lastOfEachTag components).mergeSort fun a b => Text.le a.tag b.tag).map
    fun component => (component.tag, component.selectors.entries)

theorem mem_selectorEntries_iff {tag : Text} {table : List (Text × Text)} :
    (tag, table) ∈ selectorEntries components ↔
      ∃ last, IsLastOfTag components tag last ∧ table = last.selectors.entries := by
  simp only [selectorEntries, List.mem_map, List.mem_mergeSort]
  constructor
  · rintro ⟨last, kept, same⟩
    obtain ⟨rfl, rfl⟩ := Prod.mk.inj same
    exact ⟨last, mem_lastOfEachTag_iff.mp kept, rfl⟩
  · rintro ⟨last, isLast, rfl⟩
    have named : last.tag = tag := by
      obtain ⟨-, -, -, named, -⟩ := isLast
      exact named
    subst named
    exact ⟨last, mem_lastOfEachTag_iff.mpr isLast, rfl⟩

theorem ordered_selectorEntries (components : List Compiled) :
    ((selectorEntries components).map (·.1)).Pairwise Text.Precedes := by
  rw [selectorEntries, List.map_map]
  have ordered := @List.pairwise_mergeSort Compiled (fun a b => Text.le a.tag b.tag)
    (fun _ _ _ => Text.le_trans) (fun a b => Bool.or_eq_true_iff.mpr (Text.le_total a.tag b.tag))
    (lastOfEachTag components)
  have distinct := (List.mergeSort_perm (lastOfEachTag components)
    fun a b => Text.le a.tag b.tag).map (·.tag) |>.nodup_iff.mpr (nodup_tags_lastOfEachTag components)
  refine List.pairwise_map.mpr ?_
  exact (ordered.and (List.pairwise_map.mp distinct)).imp fun ⟨le, different⟩ =>
    Text.precedes_of_le le different

theorem selectorsJson_eq (components : List Compiled) :
    selectorsJson components = .object (Json.Reader.written
      (fun table => .object (Json.Reader.written .string table)) (selectorEntries components)) := by
  rw [selectorsJson, selectorEntries, Json.Reader.written, List.map_map]
  rfl

theorem reads_selectorsJson (components : List Compiled) :
    Json.Reader.selectorTables (selectorsJson components).render =
      .ok (selectorEntries components, []) := by
  have readsBack := Json.Reader.readsBack_object
    (Json.Reader.readsBack_object Json.Reader.readsBack_string)
  rw [selectorsJson_eq, ← List.append_nil (Json.render _)]
  exact (readsBack 0 (selectorEntries components) []).1

end Outputs

/-- The selectors of a compiled component are in order, whether or not it has a stylesheet. -/
theorem Component.ordered_selectors_compile (options : CompileOptions) (places : Places)
    (component : Component) :
    ((component.compile options places).result.selectors.entries.map (·.1)).Pairwise
      Text.Precedes := by
  obtain ⟨tag, stylesheets, template, span⟩ := component
  cases stylesheets with
  | nil =>
      have ordered : SelectorNames.IsOrdered ⟨[], []⟩ := fun kind => by
        cases kind <;> exact List.Pairwise.nil
      exact (SelectorMap.lists_ofScope ordered _).ordered
  | cons sheet rest =>
      exact (SelectorMap.lists_ofScope (SelectorNames.isOrdered_ofStylesheet sheet) _).ordered

section Written

variable (workspace : Path) (settings : Settings) (source : Path) (text : Text)

theorem ordered_selectors_compileSource {component : Compiled}
    (listed : component ∈ (compileSource workspace settings source text).components) :
    (component.selectors.entries.map (·.1)).Pairwise Text.Precedes := by
  change component ∈ (compileNodes _ _ _ _).2.result at listed
  rw [(fits_compileNodes _).result] at listed
  obtain ⟨entry, -, rfl⟩ := List.mem_map.mp listed
  exact Component.ordered_selectors_compile _ _ entry.1

theorem holdsTables_selectors :
    HoldsTables (compileSource workspace settings source text).outputs.selectors
      (Outputs.selectorEntries (compileSource workspace settings source text).components) where
  reads := Outputs.reads_selectorsJson _
  tags := Outputs.ordered_selectorEntries _
  selectors := by
    rintro ⟨tag, table⟩ listed
    obtain ⟨last, ⟨before, behind, row, -⟩, rfl⟩ := Outputs.mem_selectorEntries_iff.mp listed
    refine ordered_selectors_compileSource workspace settings source text ?_
    rw [row]
    exact List.mem_append_right _ List.mem_cons_self

/-- The written selectors are those of the last component of each tag. So every entry of every
component is written just when no later component of its tag lacks it. -/
theorem written_selectors_keep_last_of_tag :
    ∃ tables,
      HoldsTables (compileSource workspace settings source text).outputs.selectors tables ∧
      (∀ tag table, (tag, table) ∈ tables ↔
        ∃ last, IsLastOfTag (compileSource workspace settings source text).components tag last ∧
          table = last.selectors.entries) ∧
      ((∀ component ∈ (compileSource workspace settings source text).components,
          ∀ entry ∈ component.selectors.entries,
            ∃ table, (component.tag, table) ∈ tables ∧ entry ∈ table) ↔
        ∀ component ∈ (compileSource workspace settings source text).components, ∀ last,
          IsLastOfTag (compileSource workspace settings source text).components component.tag
            last → component.selectors.entries ⊆ last.selectors.entries) := by
  refine ⟨_, holdsTables_selectors workspace settings source text,
    fun tag table => Outputs.mem_selectorEntries_iff, ?_⟩
  simp only [Outputs.mem_selectorEntries_iff]
  constructor
  · intro kept component listed last isLast entry held
    obtain ⟨table, ⟨other, alsoLast, rfl⟩, found⟩ := kept component listed entry held
    obtain rfl := isLast.unique alsoLast
    exact found
  · intro within component listed entry held
    obtain ⟨last, found, named⟩ := Outputs.exists_mem_lastOfEachTag listed
    have isLast := named ▸ Outputs.mem_lastOfEachTag_iff.mp found
    exact ⟨_, ⟨last, isLast, rfl⟩, within component listed last isLast held⟩

end Written

/-- Of two components of one tag, the one in front loses its selectors. -/
theorem not_written_selectors_keep_first_of_tag :
    let workspace : Path := ⟨"/ws".toList⟩
    let text := ("<element name=\"x-foo\"><style>.a { top: 0; }</style></element>" ++
      "<element name=\"x-foo\"><style>.b { top: 0; }</style></element>").toList
    let compiled := compileSource workspace (.ofArguments {} {}) ⟨"x.html".toList⟩ text
    ¬ ∃ tables, HoldsTables compiled.outputs.selectors tables ∧
      ∀ component ∈ compiled.components, ∀ entry ∈ component.selectors.entries,
        ∃ table, (component.tag, table) ∈ tables ∧ entry ∈ table := by
  rintro workspace text compiled ⟨tables, holds, kept⟩
  have first : ∃ component ∈ compiled.components, component.tag = "x-foo".toList ∧
      (".a".toList, ".x-foo_a".toList) ∈ component.selectors.entries := by
    decide +kernel
  have written : Outputs.selectorEntries compiled.components =
      [("x-foo".toList, [(".b".toList, ".x-foo_b".toList)])] := by
    decide +kernel
  obtain ⟨component, listed, named, held⟩ := first
  have read := (Outputs.reads_selectorsJson compiled.components).symm.trans holds.reads
  obtain ⟨table, found, inTable⟩ := kept component listed _ held
  rw [← (Prod.mk.inj (Except.ok.inj read)).1, written, named] at found
  obtain ⟨-, rfl⟩ := Prod.mk.inj (List.mem_singleton.mp found)
  revert inTable
  decide

end ComponentStyles
