import ComponentStyles.Proofs.FileTree.Place
import Mathlib.Data.List.Nodup

/-!
# The files of a tree

The files of a tree are listed with the names on the way to them. What lies below a place is listed
there too, behind the names on the way to that place.
-/

namespace ComponentStyles.FileTree

variable {tree inner : FileTree} {address : Address} {content : FileContent}

/-- A tree that a file system can hold: names can stand in paths, and no two files share a place. -/
structure IsProper (tree : FileTree) : Prop where
  names : ∀ entry ∈ tree.files, ∀ name ∈ entry.1, Path.IsName name
  apart : (tree.files.map (·.1)).Nodup

/-- A file of an inner tree, as seen from further out. -/
def under (front : Address) (entry : Address × FileContent) : Address × FileContent :=
  (front ++ entry.1, entry.2)

theorem files_sublist_filesOf {name : Text} {entries : List (Text × FileTree)}
    (listed : entries.lookup name = some inner) :
    (inner.files.map (under [name])).Sublist (filesOf entries) := by
  induction entries with
  | nil => cases listed
  | cons entry rest inductionHypothesis =>
      obtain ⟨other, found⟩ := entry
      rw [filesOf]
      by_cases same : name = other
      · subst same
        rw [List.lookup_cons_self] at listed
        obtain rfl := Option.some.inj listed
        exact List.sublist_append_left _ _
      · rw [List.lookup_cons, beq_false_of_ne same] at listed
        exact (inductionHypothesis listed).trans (List.sublist_append_right _ _)

theorem files_sublist_of_at? (stands : tree.at? address = some inner) :
    (inner.files.map (under address)).Sublist tree.files := by
  induction address generalizing tree with
  | nil =>
      obtain rfl := Option.some.inj stands
      have same : tree.files.map (under []) = tree.files := List.map_id _
      rw [same]
  | cons name address inductionHypothesis =>
      obtain ⟨next, listed, below⟩ := Option.bind_eq_some_iff.mp stands
      cases tree with
      | file content => cases listed
      | directory entries =>
          have outer := files_sublist_filesOf listed
          have nested := (inductionHypothesis below).map (under [name])
          rw [List.map_map] at nested
          exact nested.trans outer

theorem mem_files_of_content? (stands : tree.content? address = some content) :
    (address, content) ∈ tree.files := by
  have sublist := files_sublist_of_at? (content?_eq_some_iff.mp stands)
  have listed := sublist.subset (List.mem_map_of_mem List.mem_cons_self)
  rwa [under, List.append_nil] at listed

/-- What stands in a proper tree is a proper tree. -/
theorem IsProper.at? (proper : tree.IsProper) (stands : tree.at? address = some inner) :
    inner.IsProper := by
  have sublist := files_sublist_of_at? stands
  constructor
  · intro entry listed name member
    have outer := sublist.subset (List.mem_map_of_mem listed)
    exact proper.names _ outer name (List.mem_append_right _ member)
  · have apart := proper.apart.sublist (sublist.map (·.1))
    rw [List.map_map] at apart
    have split : ((·.1) ∘ under address : Address × FileContent → Address) =
        (address ++ ·) ∘ (·.1) := rfl
    rw [split, ← List.map_map] at apart
    exact List.Nodup.of_map _ apart

end ComponentStyles.FileTree
