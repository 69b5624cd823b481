import ComponentStyles.Proofs.Path.Address
import ComponentStyles.Reference.Relocation

/-!
# Moved references

A reference is moved by leading back from the new directory to the old one. What the two directories
have in common is left alone, and whatever the new one has beyond that is undone by steps up. Names can
be undone that way, but a step up cannot: so a move is right just when there is none to undo.
-/

namespace ComponentStyles

open ComponentStyles.Path

/-- A reference that a relocation leads back to the old directory. -/
def IsRelocatable (reference : Text) : Prop :=
  reference ≠ [] ∧ reference.head? ≠ some '#' ∧ ReferenceKind.of reference ≠ .elsewhere

/-- What a directory has beyond what it has in common with another one. -/
def Path.beyond (directory other : Path) : List Path.Component :=
  (dropCommon directory.normalize.components other.normalize.components).1

namespace Relocation

variable {move : Relocation} {reference : Text}

/-- A reference stays as it is only if it is written the way it would be moved to. -/
theorem moved?_eq (move : Relocation) (relocatable : IsRelocatable reference) :
    move.moved? reference =
      if ((move.base.join ⟨reference⟩).normalize).text = reference then none
      else some ((move.base.join ⟨reference⟩).normalize).text := by
  obtain ⟨some, notFragment, kind⟩ := relocatable
  rw [moved?, if_neg (by simp [some, notFragment]), if_neg kind]

theorem moved_eq (move : Relocation) (relocatable : IsRelocatable reference) :
    move.moved reference = ((move.base.join ⟨reference⟩).normalize).text := by
  rw [moved, moved?_eq move relocatable]
  split
  · exact ‹_ = reference›.symm
  · rfl

/-- A moved reference leads where the reference leads from the directory that the move leads back
to. -/
theorem walk_join_moved (directory : Path) (relative : move.base.isAbsolute = false)
    (relocatable : IsRelocatable reference) (seen : Path.isAbsolute ⟨reference⟩ = false) :
    walk [] (directory.join ⟨move.moved reference⟩).components =
      walk (walk (walk [] directory.components) move.base.components)
        (Path.mk reference).components := by
  have joined : (move.base.join ⟨reference⟩).isAbsolute = false := by
    rw [isAbsolute_join _ seen, relative]
  rw [moved_eq move relocatable]
  change walk [] (directory.join (move.base.join ⟨reference⟩).normalize).components = _
  rw [walk_join _ _ (isAbsolute_normalize_of_relative joined), walk_normalize, walk_join _ _ seen]

variable {directory other : Path}

/-- Where a move leads from one directory to another, references keep what they name. -/
theorem normalize_join_moved (relative : move.base.isAbsolute = false)
    (leads : walk (walk [] directory.components) move.base.components = walk [] other.components)
    (relocatable : IsRelocatable reference) :
    (directory.join ⟨move.moved reference⟩).normalize = (other.join ⟨reference⟩).normalize := by
  rw [normalize_eq_iff]
  cases rooted : Path.isAbsolute ⟨reference⟩ with
  | false => rw [walk_join_moved directory relative relocatable rooted, leads, walk_join [] other rooted]
  | true =>
      -- A reference to the root is not seen from any directory.
      rw [moved_eq move relocatable, join_of_isAbsolute move.base rooted]
      change walk [] (directory.join (Path.normalize ⟨reference⟩)).components = _
      rw [join_of_isAbsolute directory ((isAbsolute_normalize _).trans rooted),
        join_of_isAbsolute other rooted, walk_normalize]

theorem isRelocatable_name : IsRelocatable ['x'] := by
  refine ⟨by decide, by decide, ?_⟩
  decide +kernel

/-- One name tells where a move leads. -/
theorem leads_of_normalize_join_moved (relative : move.base.isAbsolute = false)
    (same : (directory.join ⟨move.moved ['x']⟩).normalize = (other.join ⟨['x']⟩).normalize) :
    walk (walk [] directory.components) move.base.components = walk [] other.components := by
  have lands := normalize_eq_iff.mp same
  rw [walk_join_moved directory relative isRelocatable_name rfl, walk_join [] other rfl] at lands
  exact (List.cons.inj lands).2

section Between

variable {source target : Path}

theorem beyond_eq (directory other : Path) :
    directory.beyond other = (dropCommon directory.canonical other.canonical).1 := by
  rw [beyond, components_normalize, components_normalize]

/-- Between directories below the root there are only names to undo. -/
theorem up_notMem_beyond_of_isAbsolute (first : target.isAbsolute = true)
    (second : source.isAbsolute = true) : .up ∉ target.beyond source := by
  obtain ⟨back, forth, -, split⟩ := exists_names_dropCommon first second
  rw [beyond_eq, split]
  simp

theorem leads_of_up_notMem (same : source.isAbsolute = target.isAbsolute)
    (down : .up ∉ target.beyond source) :
    walk (walk [] target.components) (target.relative source).components =
      walk [] source.components := by
  cases rooted : target.isAbsolute with
  | true => exact walk_relative_of_isAbsolute [] rooted (same.trans rooted)
  | false =>
      obtain ⟨common, whole, -⟩ := exists_common target.canonical source.canonical
      rw [beyond_eq] at down
      have areSteps : ∀ c ∈ (dropCommon target.canonical source.canonical).1, c.IsStep := by
        intro c listed
        refine isStep_of_mem_canonical rooted ?_
        rw [whole]
        exact List.mem_append_right _ listed
      obtain ⟨names, back⟩ := exists_names_of_steps areSteps down
      exact walk_relative names [] same.symm back

theorem dropCommon_append (common row others : List Path.Component) :
    dropCommon (common ++ row) (common ++ others) = dropCommon row others := by
  induction common with
  | nil => rfl
  | cons c rest inductionHypothesis =>
      rw [List.cons_append, List.cons_append, dropCommon, if_pos rfl, inductionHypothesis]

theorem walk_ups (below count : Nat) :
    walk (List.replicate below .up) (List.replicate count .up) =
      List.replicate (below + count) .up := by
  induction count generalizing below with
  | zero => rfl
  | succ count inductionHypothesis =>
      have step : Path.Component.up.push (List.replicate below .up) = List.replicate (below + 1) .up := by
        cases below <;> rfl
      rw [List.replicate_succ, Nat.add_comm count, ← Nat.add_assoc, ← inductionHypothesis, ← step]
      rfl

theorem walk_ups_names (below count : Nat) (names : List Text) :
    walk (List.replicate below .up) (List.replicate count .up ++ names.map .name) =
      names.reverse.map .name ++ List.replicate (below + count) .up := by
  rw [walk_append, walk_ups, walk_names]

/-- Where the new directory steps further up than the old one, undoing the steps leads up still
further. -/
theorem not_leads_of_further_up {above more : Nat} {names others : List Text}
    (targetRow : target.canonical = List.replicate (above + (more + 1)) .up ++ names.map .name)
    (sourceRow : source.canonical = List.replicate above .up ++ others.map .name) :
    walk (walk [] target.components) (lead target.canonical source.canonical) ≠
      walk [] source.components := by
  intro leads
  have way : lead target.canonical source.canonical =
      List.replicate (names.length + (more + 1)) .up ++ others.map .name := by
    rw [lead, targetRow, sourceRow, List.replicate_add, List.append_assoc, dropCommon_append,
      List.replicate_succ, List.cons_append, dropCommon_up]
    simp [Nat.add_left_comm, Nat.add_assoc]
  have start : walk [] target.components =
      names.reverse.map .name ++ List.replicate (above + (more + 1)) .up := by
    rw [← walk_canonical, targetRow]
    exact (walk_ups_names 0 _ names).trans (by rw [Nat.zero_add])
  have goal : walk [] source.components = others.reverse.map .name ++ List.replicate above .up := by
    rw [← walk_canonical, sourceRow]
    exact (walk_ups_names 0 _ others).trans (by rw [Nat.zero_add])
  rw [way, start, goal, List.replicate_add names.length, List.append_assoc, walk_append,
    ← List.length_reverse, walk_replicate_up, walk_ups_names, List.append_cancel_left_eq] at leads
  have lengths := congrArg List.length leads
  rw [List.length_replicate, List.length_replicate] at lengths
  omega

theorem up_notMem_of_leads (same : source.isAbsolute = target.isAbsolute)
    (leads : walk (walk [] target.components) (target.relative source).components =
      walk [] source.components) : .up ∉ target.beyond source := by
  cases rooted : target.isAbsolute with
  | true => exact up_notMem_beyond_of_isAbsolute rooted (same.trans rooted)
  | false =>
      rw [components_relative same.symm] at leads
      obtain ⟨above, names, targetRow⟩ := canonical_of_relative rooted
      obtain ⟨aboveToo, others, sourceRow⟩ := canonical_of_relative (same.trans rooted)
      intro up
      rcases Nat.lt_or_ge aboveToo above with further | inside
      · obtain ⟨more, rfl⟩ := Nat.exists_eq_add_of_lt further
        rw [Nat.add_assoc] at targetRow
        exact not_leads_of_further_up targetRow sourceRow leads
      · obtain ⟨more, rfl⟩ := Nat.exists_eq_add_of_le inside
        obtain ⟨back, undone⟩ := exists_names_back names (List.replicate more .up ++ others.map .name)
        rw [beyond_eq, targetRow, sourceRow, List.replicate_add, List.append_assoc, dropCommon_append,
          undone] at up
        simp at up

/-- A move keeps what references name just when the new directory has no step up beyond what it has in
common with the old one; and only a reference that is already written the way it would be moved to
stays as it is. -/
theorem between_keeps_targets_iff (same : source.isAbsolute = target.isAbsolute) :
    ((∀ reference, IsRelocatable reference →
        (target.join ⟨(between source target).moved reference⟩).normalize =
          (source.join ⟨reference⟩).normalize) ↔ .up ∉ target.beyond source) ∧
      ∀ reference, IsRelocatable reference → ((between source target).moved? reference = none ↔
        (((between source target).base.join ⟨reference⟩).normalize).text = reference) := by
  have relative : (between source target).base.isAbsolute = false := isAbsolute_relative same.symm
  refine ⟨⟨fun keeps => ?_, fun down reference relocatable => ?_⟩, fun reference relocatable => ?_⟩
  · exact up_notMem_of_leads same
      (leads_of_normalize_join_moved relative (keeps ['x'] isRelocatable_name))
  · exact normalize_join_moved relative (leads_of_up_notMem same down) relocatable
  · rw [moved?_eq _ relocatable]
    split <;> simp_all

/-- From `src/ui` to `src/../build/ui`, as for a component in a folder of its own. -/
theorem between_keeps_targets_iff_build :
    let source : Path := ⟨"src/ui".toList⟩
    let target : Path := ⟨"src/../build/ui".toList⟩
    let reference := "../shared/./x.png".toList
    source.isAbsolute = target.isAbsolute ∧ .up ∉ target.beyond source ∧ IsRelocatable reference ∧
      (between source target).moved reference = "../../src/shared/x.png".toList ∧
      (target.join ⟨(between source target).moved reference⟩).normalize =
        (source.join ⟨reference⟩).normalize := by
  intro source target reference
  have same : source.isAbsolute = target.isAbsolute := by decide +kernel
  have down : .up ∉ target.beyond source := by decide +kernel
  have proper : IsRelocatable reference := ⟨by decide +kernel, by decide +kernel, by decide +kernel⟩
  have moved : (between source target).moved reference = "../../src/shared/x.png".toList := by
    decide +kernel
  refine ⟨same, down, proper, moved, ?_⟩
  exact (between_keeps_targets_iff same).1.mpr down reference proper

end Between

end Relocation

end ComponentStyles
