import ComponentStyles.Proofs.Path.Address

/-!
# Paths in normal form

A row is in normal form when nothing in it undoes what stands in front of it: names follow the root
or, in a relative path, some steps up. Normalizing keeps just the paths that are written from such
rows, and takes every other path to one of them. As it only asks where a path leads, it does not
matter whether the parts of a joined path have been normalized before.
-/

namespace ComponentStyles.Path

/-- Names behind the root, or behind some steps up where the path is not absolute. -/
def IsNormal (absolute : Bool) (row : List Component) : Prop :=
  ∃ (ups : Nat) (names : List Text), (∀ name ∈ names, IsName name) ∧
    row = (if absolute then [.root] else List.replicate ups .up) ++ names.map .name

variable {absolute : Bool} {row : List Component} {path : Path}

theorem IsNormal.isRow (normal : IsNormal absolute row) : IsRow row := by
  obtain ⟨ups, names, proper, rfl⟩ := normal
  have areNames := isStep_of_mem_names proper
  cases absolute with
  | true => exact ⟨.inl rfl, areNames⟩
  | false =>
      refine isRow_of_steps fun c listed => ?_
      rcases List.mem_append.mp listed with up | name
      · rw [List.eq_of_mem_replicate up]
        trivial
      · exact areNames c name

theorem IsNormal.here_notMem (normal : IsNormal absolute row) : .here ∉ row := by
  obtain ⟨ups, names, -, rfl⟩ := normal
  cases absolute <;> simp [List.mem_replicate]

theorem isNormal_canonical (path : Path) : IsNormal path.isAbsolute path.canonical := by
  cases absolute : path.isAbsolute with
  | true =>
      obtain ⟨names, proper, row⟩ := canonical_of_isAbsolute absolute
      exact ⟨0, names, proper, row⟩
  | false =>
      obtain ⟨ups, names, row⟩ := canonical_of_relative absolute
      refine ⟨ups, names, fun name listed => ?_, row⟩
      apply isStep_of_mem_canonical absolute (c := .name name)
      rw [row]
      exact List.mem_append_right _ (List.mem_map_of_mem listed)

theorem walk_ups (ups : Nat) : walk [] (List.replicate ups .up) = List.replicate ups .up := by
  induction ups with
  | zero => rfl
  | succ ups inductionHypothesis =>
      rw [List.replicate_succ', walk_append, inductionHypothesis, ← List.replicate_succ',
        List.replicate_succ]
      -- A step up is undone by no other step up.
      cases ups <;> rfl

/-- Nothing is undone on the way along a row in normal form. -/
theorem IsNormal.walk_eq (normal : IsNormal absolute row) : walk [] row = row.reverse := by
  obtain ⟨ups, names, -, rfl⟩ := normal
  rw [walk_append, walk_names, List.reverse_append, List.map_reverse, List.append_cancel_left_eq]
  cases absolute with
  | true => rfl
  | false => exact (walk_ups ups).trans List.reverse_replicate.symm

theorem IsNormal.normalize_ofComponents (normal : IsNormal absolute row) :
    (ofComponents row).normalize = ofComponents row := by
  have read : (ofComponents row).components = row := components_ofComponents normal.isRow
  rw [normalize, canonical_eq, read, normal.walk_eq, List.reverse_reverse]

/-- What normalizing leaves as it is are the paths that are written from rows in normal form. -/
theorem normalize_eq_self_iff :
    path.normalize = path ↔ ∃ row, IsNormal path.isAbsolute row ∧ path = ofComponents row := by
  constructor
  · intro same
    exact ⟨path.canonical, isNormal_canonical path, same.symm⟩
  · rintro ⟨row, normal, written⟩
    rw [written]
    exact normal.normalize_ofComponents

section Join

variable (a b : Path)

theorem normalize_join_left : (a.normalize.join b).normalize = (a.join b).normalize := by
  cases absolute : b.isAbsolute with
  | true => rw [join_of_isAbsolute _ absolute, join_of_isAbsolute _ absolute]
  | false =>
      apply normalize_eq_iff.mpr
      rw [walk_join [] _ absolute, walk_join [] _ absolute, walk_normalize]

theorem normalize_join_right : (a.join b.normalize).normalize = (a.join b).normalize := by
  have same : b.normalize.isAbsolute = b.isAbsolute := isAbsolute_normalize b
  cases absolute : b.isAbsolute with
  | true =>
      rw [join_of_isAbsolute a absolute, join_of_isAbsolute a (same.trans absolute),
        normalize_normalize]
  | false =>
      apply normalize_eq_iff.mpr
      rw [walk_join [] a absolute, walk_join [] a (same.trans absolute), walk_normalize]

/-- A normalized path has no dots, steps up only in front and only if it is relative, and is
absolute just when the path was. Normalizing it again changes nothing, and a path that is joined from
two others has the same normal form when either of them is normalized first. -/
theorem normalize_isNormal_and_join_congr :
    (a.normalize = ofComponents a.normalize.components ∧
        IsNormal a.isAbsolute a.normalize.components ∧ .here ∉ a.normalize.components) ∧
      a.normalize.isAbsolute = a.isAbsolute ∧
      a.normalize.normalize = a.normalize ∧
      (a.join b).normalize = (a.normalize.join b).normalize ∧
      (a.join b).normalize = (a.join b.normalize).normalize := by
  have normal : IsNormal a.isAbsolute a.normalize.components := by
    rw [components_normalize]
    exact isNormal_canonical a
  have written : a.normalize = ofComponents a.normalize.components := by
    rw [components_normalize, normalize]
  exact ⟨⟨written, normal, normal.here_notMem⟩, isAbsolute_normalize a, normalize_normalize a,
    (normalize_join_left a b).symm, (normalize_join_right a b).symm⟩

end Join

-- The step out of `..` stays, the one out of a name does not.
example : (normalize ⟨"./../a/.././../b//./c/".toList⟩).text = "../../b/c".toList := by cbv

end ComponentStyles.Path
