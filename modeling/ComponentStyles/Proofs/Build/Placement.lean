import ComponentStyles.Build.Placement
import ComponentStyles.Proofs.Path.Extension
import ComponentStyles.Proofs.Reference.Relocation

/-!
# References in a written stylesheet

A stylesheet is written to another directory than it is read from, and its references to files are
changed so that they still name the same files. They do, unless the output directory is given by a
path that steps out of the workspace: such a path is taken for one into the workspace, and what lies
between the two directories is then not known.
-/

namespace ComponentStyles

open ComponentStyles.Path

/-- A reference to a file by a path that is seen from the stylesheet. -/
def IsFileReference (reference : Text) : Prop :=
  reference ≠ [] ∧ reference.head? ≠ some '#' ∧ ReferenceKind.of reference = .file ∧
    Path.isAbsolute ⟨reference⟩ = false

/-- The path of a file below a directory: names, the last of which is that of the file. -/
structure Path.IsFile (path : Path) : Prop where
  relative : path.isAbsolute = false
  some : path.named ≠ []
  names : ∀ c ∈ path.named, c ≠ .up

/-- The changed references of a component file name the same files from the place of the written
stylesheet as the references themselves do from the place of the component file. -/
def Placement.KeepsReferences (workspace outDir source : Path) : Prop :=
  ∀ reference, IsFileReference reference →
    let placement := Placement.ofSource workspace outDir source
    let move := Relocation.ofFiles placement.places.source placement.places.target
    (placement.sheet.parent.join ⟨move.moved reference⟩).normalize =
      ((workspace.join source.parent).join ⟨reference⟩).normalize

section Inside

variable {workspace path inside : Path}

theorem isAbsolute_of_inside (found : insideWorkspace? workspace path = some inside) :
    inside.isAbsolute = false := by
  rw [insideWorkspace?] at found
  split at found
  case isTrue => exact isAbsolute_of_below? found
  case isFalse relative =>
    obtain rfl := Option.some.inj found
    simpa using relative

theorem isAbsolute_of_outside (outside : insideWorkspace? workspace path = none) :
    path.isAbsolute = true := by
  rw [insideWorkspace?] at outside
  split at outside
  · assumption
  · cases outside

/-- A path leads to the same place when it is seen from the workspace. -/
theorem walk_join_of_inside (absolute : workspace.isAbsolute = true)
    (found : insideWorkspace? workspace path = some inside) :
    walk [] (workspace.join inside).components = walk [] (workspace.join path).components := by
  have relative := isAbsolute_of_inside found
  rw [insideWorkspace?] at found
  split at found
  case isFalse =>
    obtain rfl := Option.some.inj found
    rfl
  case isTrue fromRoot =>
    rw [join_of_isAbsolute workspace fromRoot, walk_join [] workspace relative, walk_components _ path, walk_components _ inside,
      walk_components _ workspace, named_of_below? found, walk_append, origin, origin, origin,
      fromRoot, absolute, relative]
    rfl

variable {outDir root : Path}

theorem eq_normalize_of_outputRoot (accepted : outputRoot? workspace outDir = some root) :
    root = (workspace.join outDir).normalize ∧ root ≠ workspace.normalize := by
  rw [outputRoot?] at accepted
  split at accepted
  case isTrue => cases accepted
  case isFalse other =>
    obtain rfl := Option.some.inj accepted
    refine ⟨rfl, fun same => other ?_⟩
    rw [same, Path.same]
    exact beq_self_eq_true _

theorem isAbsolute_join_of_isAbsolute (absolute : workspace.isAbsolute = true) (path : Path) :
    (workspace.join path).isAbsolute = true := by
  cases fromRoot : path.isAbsolute with
  | true => rwa [join, fromRoot]
  | false => rw [isAbsolute_join workspace fromRoot, absolute]

theorem isAbsolute_outputRoot (absolute : workspace.isAbsolute = true)
    (accepted : outputRoot? workspace outDir = some root) : root.isAbsolute = true := by
  rw [(eq_normalize_of_outputRoot accepted).1, isAbsolute_normalize,
    isAbsolute_join_of_isAbsolute absolute]

end Inside

section Reference

variable {reference : Text}

theorem IsFileReference.isRelocatable (isFile : IsFileReference reference) :
    IsRelocatable reference := by
  obtain ⟨some, notFragment, kind, -⟩ := isFile
  exact ⟨some, notFragment, by simp [kind]⟩

/-- References that are changed for one directory name the same files as they do from another one
just when the change leads from the one to the other. -/
theorem same_targets_iff {directory other : Path} {move : Relocation}
    (relative : move.base.isAbsolute = false) :
    (∀ reference, IsFileReference reference →
      (directory.join ⟨move.moved reference⟩).normalize = (other.join ⟨reference⟩).normalize) ↔
    walk (walk [] directory.components) move.base.components = walk [] other.components := by
  constructor
  · intro same
    have isFile : IsFileReference ['x'] := by
      refine ⟨by decide, by decide, ?_, rfl⟩
      decide +kernel
    exact Relocation.leads_of_normalize_join_moved relative (same ['x'] isFile)
  · intro leads reference isFile
    exact Relocation.normalize_join_moved relative leads isFile.isRelocatable

end Reference

section Source

variable {source : Path}

theorem Path.IsFile.exists_named (isFile : source.IsFile) : ∃ (folders : List Text) (name : Text),
    source.named = folders.map .name ++ [.name name] := by
  obtain ⟨names, named⟩ := exists_names_of_steps (fun c => isStep_of_mem_named)
    fun up => isFile.names _ up rfl
  have some : names ≠ [] := by
    rintro rfl
    exact isFile.some named
  refine ⟨names.dropLast, names.getLast some, ?_⟩
  rw [named, ← List.map_singleton, ← List.map_append, List.dropLast_append_getLast]

variable {folders : List Text} {name : Text}

theorem isExtension_css : IsExtension "css".toList := by
  constructor <;> decide

/-- The place of the written stylesheet in a directory that is like that of the source. -/
theorem walk_parent_sheet (place : List Path.Component) (directory : Path)
    (relative : source.isAbsolute = false) (ends : source.named = folders.map .name ++ [.name name]) :
    walk place (directory.join (source.withExtension "css".toList)).parent.components =
      walk (walk place directory.components) (folders.map .name) := by
  obtain ⟨last, named⟩ := named_withExtension isExtension_css ends
  have sheet := isAbsolute_withExtension isExtension_css ends relative
  rw [walk_parent_join place directory sheet named, walk_parent _ named, origin, sheet]
  rfl

theorem walk_parent_source (place : List Path.Component) (relative : source.isAbsolute = false)
    (ends : source.named = folders.map .name ++ [.name name]) :
    walk place source.parent.components = walk place (folders.map .name) := by
  rw [walk_parent _ ends, origin, relative]
  rfl

theorem canonical_parent_sheet (directory : Path) (relative : source.isAbsolute = false)
    (ends : source.named = folders.map .name ++ [.name name]) :
    (directory.join (source.withExtension "css".toList)).parent.canonical =
      directory.canonical ++ folders.map .name := by
  rw [canonical_eq, walk_parent_sheet [] directory relative ends, walk_names, List.reverse_append,
    ← List.map_reverse, List.reverse_reverse, canonical_eq]

theorem canonical_parent_source (relative : source.isAbsolute = false)
    (ends : source.named = folders.map .name ++ [.name name]) :
    source.parent.canonical = folders.map .name := by
  rw [canonical_eq, walk_parent_source [] relative ends, walk_names, List.append_nil,
    ← List.map_reverse, List.reverse_reverse]

end Source

namespace Placement

variable {workspace outDir source : Path}

/-- When the output directory is taken to lie outside, all paths are absolute. -/
theorem keepsReferences_of_outside (absolute : workspace.isAbsolute = true)
    (isFile : source.IsFile) (outside : insideWorkspace? workspace outDir = none) :
    KeepsReferences workspace outDir source := by
  obtain ⟨folders, name, ends⟩ := isFile.exists_named
  obtain ⟨last, named⟩ := named_withExtension isExtension_css ends
  have sheet := isAbsolute_withExtension isExtension_css ends isFile.relative
  have placed : ofSource workspace outDir source =
      ⟨⟨workspace.join source, outDir.join (source.withExtension "css".toList)⟩, ⟨[]⟩⟩ := by
    rw [ofSource, outside]
  have sourceRoot := (isAbsolute_parent_join workspace isFile.relative ends).trans absolute
  have targetRoot := (isAbsolute_parent_join outDir sheet named).trans
    (isAbsolute_of_outside outside)
  have relative : source.parent.isAbsolute = false := by
    rw [isAbsolute_parent ends, isFile.relative]
  rw [KeepsReferences, placed]
  simp only [Placement.sheet, Placement.absolute, join_empty]
  refine (same_targets_iff ?_).mpr ?_
  · exact isAbsolute_relative (targetRoot.trans sourceRoot.symm)
  · change walk _ (Path.relative _ _).components = _
    rw [walk_relative_of_isAbsolute [] targetRoot sourceRoot,
      walk_parent_join [] workspace isFile.relative ends, walk_join [] workspace relative]

/-- The way back from a directory in the output directory to the like directory in the workspace is
right if the output directory lies inside. -/
theorem walk_lead_iff {inside : Path} {folders : List Text} (absolute : workspace.isAbsolute = true)
    (relative : inside.isAbsolute = false) (areNames : ∀ name ∈ folders, IsName name) :
    walk (walk (walk [] workspace.components) (inside.canonical ++ folders.map .name))
        (lead (inside.canonical ++ folders.map .name) (folders.map .name)) =
      walk (walk [] workspace.components) (folders.map .name) ↔
    workspace.canonical = [.root] ∨ inside.canonical.head? ≠ some .up := by
  by_cases up : inside.canonical.head? = some .up
  · obtain ⟨names, proper, root⟩ := exists_names_of_isAbsolute absolute
    have atRoot : workspace.canonical = [.root] ↔ names = [] := by
      rw [canonical_eq, root]
      simp
    obtain ⟨rest, row⟩ := List.head?_eq_some_iff.mp up
    have areSteps : ∀ c ∈ rest ++ folders.map .name, c.IsStep := by
      intro c listed
      rcases List.mem_append.mp listed with front | below
      · refine isStep_of_mem_canonical relative ?_
        rw [row]
        exact List.mem_cons_of_mem _ front
      · obtain ⟨name, member, rfl⟩ := List.mem_map.mp below
        exact areNames name member
    rw [root, row, List.cons_append, walk_lead_up_iff areSteps proper, atRoot]
    simp
  · obtain ⟨names, row⟩ := exists_names_of_relative relative up
    obtain ⟨back, undone⟩ := exists_names_back (names ++ folders) (folders.map .name)
    rw [List.map_append, ← row] at undone
    exact iff_of_true (walk_lead _ undone) (.inr up)

/-- When the output directory is taken to lie inside, what counts is whether its path steps up. -/
theorem keepsReferences_iff_of_inside {inside : Path} (absolute : workspace.isAbsolute = true)
    (isFile : source.IsFile) (found : insideWorkspace? workspace outDir = some inside) :
    KeepsReferences workspace outDir source ↔
      workspace.canonical = [.root] ∨ inside.canonical.head? ≠ some .up := by
  obtain ⟨folders, name, ends⟩ := isFile.exists_named
  obtain ⟨last, named⟩ := named_withExtension isExtension_css ends
  have sheet := isAbsolute_withExtension isExtension_css ends isFile.relative
  have relative := isAbsolute_of_inside found
  have areNames : ∀ name ∈ folders, IsName name := by
    intro name listed
    have inSource : .name name ∈ source.named := by
      rw [ends]
      exact List.mem_append_left _ (List.mem_map_of_mem listed)
    exact isStep_of_mem_named inSource
  have placed : ofSource workspace outDir source =
      ⟨⟨source, inside.join (source.withExtension "css".toList)⟩, workspace⟩ := by
    rw [ofSource, found]
  have sourceRow := canonical_parent_source isFile.relative ends
  have targetRow := canonical_parent_sheet inside isFile.relative ends
  have sourceParent := (isAbsolute_parent ends).trans isFile.relative
  have targetParent := (isAbsolute_parent_join inside sheet named).trans relative
  have target := (isAbsolute_join inside sheet).trans relative
  have targetNamed := named_join_append inside sheet named
  generalize inside.join (source.withExtension "css".toList) = written at *
  have base : (Relocation.ofFiles source written).base =
      written.parent.relative source.parent := rfl
  have same := targetParent.trans sourceParent.symm
  rw [KeepsReferences, placed]
  simp only [Placement.sheet, Placement.absolute]
  rw [same_targets_iff (base ▸ isAbsolute_relative same), base,
    walk_parent_join [] workspace target targetNamed, walk_join [] workspace sourceParent,
    components_relative same, ← walk_canonical, ← walk_canonical _ source.parent, targetRow,
    sourceRow, walk_lead_iff absolute relative areNames]

/-- The references of a component file are kept right by a build, unless the workspace has a
directory around it and the output directory is given by a path that steps out of the workspace. -/
theorem keepsReferences_iff (absolute : workspace.isAbsolute = true) (isFile : source.IsFile) :
    KeepsReferences workspace outDir source ↔ workspace.canonical = [.root] ∨
      ∀ inside, insideWorkspace? workspace outDir = some inside →
        inside.canonical.head? ≠ some .up := by
  cases found : insideWorkspace? workspace outDir with
  | none =>
      have keeps := keepsReferences_of_outside absolute isFile found
      exact iff_of_true keeps (.inr (by simp))
  | some inside =>
      rw [keepsReferences_iff_of_inside absolute isFile found]
      simp

theorem keepsReferences_iff_build :
    let workspace : Path := ⟨"/home/site".toList⟩
    let source : Path := ⟨"pages/card.html".toList⟩
    workspace.isAbsolute = true ∧ source.IsFile ∧
      KeepsReferences workspace ⟨"build".toList⟩ source := by
  intro workspace source
  have isFile : source.IsFile := ⟨by decide +kernel, by decide +kernel, by decide +kernel⟩
  have inside : insideWorkspace? workspace ⟨"build".toList⟩ = some ⟨"build".toList⟩ := rfl
  refine ⟨rfl, isFile, (keepsReferences_iff rfl isFile).mpr (.inr ?_)⟩
  intro found same
  cases inside.symm.trans same
  decide +kernel

/-- An output directory beside the workspace is accepted, but the reference to a picture beside the
component file does not lead back to it. -/
theorem not_keepsReferences_beside :
    let workspace : Path := ⟨"/home/site".toList⟩
    let outDir : Path := ⟨"../build".toList⟩
    let source : Path := ⟨"pages/card.html".toList⟩
    let placement := Placement.ofSource workspace outDir source
    let move := Relocation.ofFiles placement.places.source placement.places.target
    outputRoot? workspace outDir = some ⟨"/home/build".toList⟩ ∧
      IsFileReference "photo.png".toList ∧
      (placement.sheet.parent.join ⟨move.moved "photo.png".toList⟩).normalize =
        ⟨"/pages/photo.png".toList⟩ ∧
      ((workspace.join source.parent).join ⟨"photo.png".toList⟩).normalize =
        ⟨"/home/site/pages/photo.png".toList⟩ := by
  refine ⟨by decide +kernel, ⟨by decide, by decide, by decide +kernel, rfl⟩, ?_, ?_⟩
  · decide +kernel
  · decide +kernel

end Placement

end ComponentStyles
