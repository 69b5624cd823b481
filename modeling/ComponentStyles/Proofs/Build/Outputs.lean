import ComponentStyles.Build.Outputs
import ComponentStyles.Proofs.Build.Sources
import ComponentStyles.Proofs.FileTree.Writing

/-!
# Where outputs are written

The three outputs of a component file stand in the folder of the output directory that is like its
own folder, under its name with other extensions. The old extension is lost on the way, so two
component files write to the same places just when they share the folder and the stem of the name.
-/

namespace ComponentStyles

open ComponentStyles.Path

/-- The extensions of the outputs of a component file, in the order in which they are written. -/
def outputExtensions : List Text :=
  ["html".toList, "css".toList, "selectors.json".toList]

/-- The places that the outputs of a component file are written to. -/
def Placement.outputs (placement : Placement) : List Path :=
  [placement.template, placement.sheet, placement.selectors]

/-- Whether some output of one component file is written where one of another file is. -/
def SharesOutput (workspace outDir source other : Path) : Prop :=
  ∃ p ∈ (Placement.ofSource workspace outDir source).outputs,
    ∃ q ∈ (Placement.ofSource workspace outDir other).outputs, p.normalize = q.normalize

/-- Whether two files differ at most in the extensions of their names. -/
def Path.HasSameStem (path other : Path) : Prop :=
  path.parent.normalize = other.parent.normalize ∧
    path.fileName?.map stem = other.fileName?.map stem

section Extensions

variable {ext other name otherName : Text}

theorem isExtension_of_output (listed : ext ∈ outputExtensions) : IsExtension ext := by
  constructor
  · rintro rfl
    revert listed
    decide
  · have apart : ∀ ext ∈ outputExtensions, '/' ∉ ext := by decide
    exact apart ext listed

/-- The name of an output tells its extension and the stem that it was made from. -/
theorem outputName_eq_iff (listed : ext ∈ outputExtensions) (otherListed : other ∈ outputExtensions) :
    outputName name ext = outputName otherName other ↔ stem name = stem otherName ∧ ext = other := by
  constructor
  · intro same
    have last (name : Text) : ∀ ext ∈ outputExtensions,
        (outputName name ext).getLast? = ext.getLast? := by
      intro ext listed
      have some := (isExtension_of_output listed).1
      rw [outputName, List.getLast?_append, List.getLast?_cons]
      cases ends : ext.getLast? with
      | none => exact absurd (List.getLast?_eq_none_iff.mp ends) some
      | some c => rfl
    have ends := congrArg List.getLast? same
    rw [last name ext listed, last otherName other otherListed] at ends
    have told : ∀ ext ∈ outputExtensions, ∀ other ∈ outputExtensions,
        ext.getLast? = other.getLast? → ext = other := by
      decide
    obtain rfl := told ext listed other otherListed ends
    exact ⟨List.append_cancel_right same, rfl⟩
  · rintro ⟨same, rfl⟩
    rw [outputName, outputName, same]

end Extensions

/-- The path of a component file in a workspace, by its folders and its name. A name whose stem is a
single dot leaves no name for the outputs. -/
structure Path.IsSource (source : Path) (folders : List Text) (name : Text) : Prop where
  path : source = ofNames (folders ++ [name])
  names : ∀ other ∈ folders ++ [name], IsName other
  stem : stem name ≠ ['.']

namespace Path.IsSource

variable {source : Path} {folders : List Text} {name : Text}

theorem isName (isSource : source.IsSource folders name) : IsName name :=
  isSource.names name (List.mem_append_right _ List.mem_cons_self)

theorem named (isSource : source.IsSource folders name) :
    source.named = folders.map .name ++ [.name name] := by
  rw [isSource.path, named_ofNames isSource.names, List.map_append]
  rfl

theorem relative (isSource : source.IsSource folders name) : source.isAbsolute = false := by
  rw [isSource.path, isAbsolute_ofNames isSource.names]

theorem named_withExtension {ext : Text} (isSource : source.IsSource folders name)
    (extension : IsExtension ext) :
    (source.withExtension ext).named = (folders ++ [outputName name ext]).map .name := by
  rw [named_withExtension_outputName extension isSource.named isSource.stem, List.map_append]
  rfl

/-- The path of an output in the output directory is spelled plainly. -/
theorem withExtension_eq {ext : Text} (isSource : source.IsSource folders name) :
    source.withExtension ext = ofNames (folders ++ [outputName name ext]) := by
  have segments : source.segments = folders ++ [name] := by
    rw [isSource.path, segments_ofNames (by simp) isSource.names]
  rw [Path.withExtension, fileName?_of_named isSource.named, segments, trimEnd_names isSource.names,
    List.dropLast_concat]
  change Path.mk (Text.join ['/'] (folders ++ [renamed name ext])) = _
  rw [renamed_eq_outputName isSource.stem]
  rfl

theorem canonical_parent (isSource : source.IsSource folders name) :
    source.parent.canonical = folders.map .name := by
  rw [canonical_eq, walk_parent [] isSource.named, origin, isSource.relative, if_neg (by simp),
    walk_names, List.append_nil, ← List.map_reverse, List.reverse_reverse]

theorem stem_sheetName (isSource : source.IsSource folders name) :
    Path.stem (outputName name "css".toList) = Path.stem name := by
  refine stem_append (stem_ne_nil ?_) (by decide)
  rintro rfl
  cases isSource.isName.1

end Path.IsSource

namespace Placement

variable {workspace outDir source root : Path} {folders : List Text} {name : Text}

/-- All stylesheets are written to one directory, which is led to by the path of the output
directory. -/
theorem exists_directory_sheet (outDir : Path) (absolute : workspace.isAbsolute = true) :
    ∃ directory : Path, directory.isAbsolute = true ∧
      directory.normalize = (workspace.join outDir).normalize ∧
      ∀ source : Path, (source.withExtension "css".toList).isAbsolute = false →
        (ofSource workspace outDir source).sheet =
          directory.join (source.withExtension "css".toList) := by
  cases seen : insideWorkspace? workspace outDir with
  | none =>
      have fromRoot := isAbsolute_of_outside seen
      refine ⟨outDir, fromRoot, by rw [join_of_isAbsolute workspace fromRoot],
        fun source relative => ?_⟩
      rw [ofSource, seen, sheet, Placement.absolute]
      exact join_empty _
  | some inside =>
      refine ⟨workspace.join inside, isAbsolute_join_of_isAbsolute absolute inside,
        normalize_eq_iff.mpr (walk_join_of_inside absolute seen), fun source relative => ?_⟩
      rw [ofSource, seen, sheet, Placement.absolute]
      exact join_assoc workspace (isAbsolute_of_inside seen) relative

variable (absolute : workspace.isAbsolute = true) (isSource : source.IsSource folders name)
include absolute isSource

theorem sheet_stands : (ofSource workspace outDir source).sheet.isAbsolute = true ∧
    (ofSource workspace outDir source).sheet.address =
      ((workspace.join outDir).address ++ folders) ++ [outputName name "css".toList] ∧
    ∃ front, (ofSource workspace outDir source).sheet.named =
      front ++ [.name (outputName name "css".toList)] := by
  have extension : IsExtension "css".toList := isExtension_of_output (by decide)
  have relative := isAbsolute_withExtension extension isSource.named isSource.relative
  have named := isSource.named_withExtension extension
  obtain ⟨directory, fromRoot, leads, sheets⟩ := exists_directory_sheet outDir absolute
  rw [sheets source relative]
  refine ⟨(isAbsolute_join directory relative).trans fromRoot, ?_, directory.named ++ folders.map .name, ?_⟩
  · rw [address_join directory fromRoot relative (canonical_of_named relative named),
      ← address_normalize directory, leads, address_normalize, List.append_assoc]
  · rw [named_join directory relative, named, List.map_append, List.append_assoc]
    rfl

theorem isAbsolute_outputs {p : Path} (listed : p ∈ (ofSource workspace outDir source).outputs) :
    p.isAbsolute = true := by
  obtain ⟨fromRoot, -, front, ends⟩ := sheet_stands absolute isSource
  have onward (ext : Text) (extension : IsExtension ext) :
      ((ofSource workspace outDir source).sheet.withExtension ext).isAbsolute = true :=
    isAbsolute_withExtension_of_isAbsolute extension ends fromRoot
  simp only [outputs, List.mem_cons, List.not_mem_nil, or_false] at listed
  rcases listed with rfl | rfl | rfl
  · exact onward _ (isExtension_of_output (by decide))
  · exact fromRoot
  · exact onward _ (isExtension_of_output (by decide))

/-- The outputs stand in the folders of their source, below the output directory. -/
theorem addresses_outputs (accepted : outputRoot? workspace outDir = some root) :
    (ofSource workspace outDir source).outputs.map Path.address =
      outputExtensions.map fun ext => root.address ++ (folders ++ [outputName name ext]) := by
  obtain ⟨fromRoot, place, front, ends⟩ := sheet_stands absolute isSource
  have sameStem := isSource.stem_sheetName
  have other : Path.stem (outputName name "css".toList) ≠ ['.'] := sameStem ▸ isSource.stem
  rw [← address_normalize (workspace.join outDir), ← (eq_normalize_of_outputRoot accepted).1] at place
  have onward (ext : Text) (extension : IsExtension ext) :
      ((ofSource workspace outDir source).sheet.withExtension ext).address =
        root.address ++ (folders ++ [outputName name ext]) := by
    have sameName : outputName (outputName name "css".toList) ext = outputName name ext :=
      congrArg (· ++ '.' :: ext) sameStem
    rw [address_withExtension extension fromRoot place ends other, sameName, List.append_assoc]
  rw [outputs, List.map_cons, List.map_cons, List.map_singleton, place, List.append_assoc, template,
    selectors, onward _ (isExtension_of_output (by decide)),
    onward _ (isExtension_of_output (by decide))]
  rfl

theorem nodup_addresses_outputs (accepted : outputRoot? workspace outDir = some root) :
    ((ofSource workspace outDir source).outputs.map Path.address).Nodup := by
  rw [addresses_outputs absolute isSource accepted]
  refine List.Nodup.map_on ?_ (by decide)
  intro ext listed other otherListed same
  have names := (List.append_inj' (List.append_cancel_left same) rfl).2
  exact ((outputName_eq_iff listed otherListed).mp (List.singleton_inj.mp names)).2

theorem below_outputs (accepted : outputRoot? workspace outDir = some root) {p : Path}
    (listed : p ∈ (ofSource workspace outDir source).outputs) :
    FileTree.Below root.address p.address := by
  have place : p.address ∈ (ofSource workspace outDir source).outputs.map Path.address :=
    List.mem_map_of_mem listed
  rw [addresses_outputs absolute isSource accepted] at place
  obtain ⟨ext, -, same⟩ := List.mem_map.mp place
  obtain ⟨first, rest, row⟩ := List.exists_cons_of_ne_nil
    (List.append_ne_nil_of_right_ne_nil folders (List.cons_ne_nil (outputName name ext) []))
  exact ⟨first, rest, by rw [← same, row]⟩

theorem exists_output_iff (accepted : outputRoot? workspace outDir = some root) {address : Address} :
    (∃ p ∈ (ofSource workspace outDir source).outputs, p.address = address) ↔
      ∃ ext ∈ outputExtensions, root.address ++ (folders ++ [outputName name ext]) = address := by
  rw [← List.mem_map, ← List.mem_map, addresses_outputs absolute isSource accepted]

end Placement

section Shared

variable {workspace outDir root source other : Path} {folders otherFolders : List Text}
  {name otherName : Text}

theorem Path.IsSource.hasSameStem_iff (isSource : source.IsSource folders name)
    (otherSource : other.IsSource otherFolders otherName) :
    source.HasSameStem other ↔
      folders = otherFolders ∧ Path.stem name = Path.stem otherName := by
  have injective : Function.Injective Component.name := fun _ _ => Component.name.inj
  rw [HasSameStem, fileName?_of_named isSource.named, fileName?_of_named otherSource.named,
    Option.map_some, Option.map_some, Option.some_inj]
  refine and_congr_left fun _ => ?_
  constructor
  · intro same
    have rows := congrArg canonical same
    rw [canonical_normalize, canonical_normalize, isSource.canonical_parent,
      otherSource.canonical_parent] at rows
    exact List.map_injective_iff.mpr injective rows
  · rintro rfl
    rw [normalize, normalize, isSource.canonical_parent, otherSource.canonical_parent]

/-- Outputs meet when the sources differ at most in their extensions, and only then. -/
theorem sharesOutput_iff_hasSameStem (absolute : workspace.isAbsolute = true)
    (accepted : outputRoot? workspace outDir = some root) (isSource : source.IsSource folders name)
    (otherSource : other.IsSource otherFolders otherName) :
    SharesOutput workspace outDir source other ↔ source.HasSameStem other := by
  rw [isSource.hasSameStem_iff otherSource]
  constructor
  · rintro ⟨p, listed, q, otherListed, same⟩
    have fromRoot := Placement.isAbsolute_outputs absolute isSource listed
    have otherRoot := Placement.isAbsolute_outputs absolute otherSource otherListed
    rw [normalize_eq_iff_address fromRoot otherRoot] at same
    obtain ⟨ext, isOutput, place⟩ :=
      (Placement.exists_output_iff absolute isSource accepted).mp ⟨p, listed, same⟩
    obtain ⟨otherExt, isOther, otherPlace⟩ :=
      (Placement.exists_output_iff absolute otherSource accepted).mp ⟨q, otherListed, rfl⟩
    rw [← otherPlace, List.append_cancel_left_eq] at place
    obtain ⟨sameFolders, sameName⟩ := List.append_inj' place rfl
    rw [List.singleton_inj, outputName_eq_iff isOutput isOther] at sameName
    exact ⟨sameFolders, sameName.1⟩
  · rintro ⟨rfl, sameStem⟩
    have isOutput : "css".toList ∈ outputExtensions := by decide
    obtain ⟨p, listed, place⟩ :=
      (Placement.exists_output_iff absolute isSource accepted).mpr ⟨_, isOutput, rfl⟩
    obtain ⟨q, otherListed, otherPlace⟩ :=
      (Placement.exists_output_iff absolute otherSource accepted).mpr ⟨_, isOutput, rfl⟩
    refine ⟨p, listed, q, otherListed, ?_⟩
    rw [normalize_eq_iff_address (Placement.isAbsolute_outputs absolute isSource listed)
      (Placement.isAbsolute_outputs absolute otherSource otherListed), place, otherPlace,
      outputName, outputName, sameStem]

example : SharesOutput ⟨"/ws".toList⟩ ⟨"build".toList⟩ ⟨"a.html".toList⟩ ⟨"a.htm".toList⟩ :=
  ⟨⟨"/ws/build/a.css".toList⟩, by decide +kernel, ⟨"/ws/build/a.css".toList⟩, by decide +kernel, rfl⟩

end Shared

section Written

variable {workspace outDir root source : Path} {settings : Settings} {text : Text}
  {tree after : FileTree}

/-- What compiling a component file writes, in order. -/
def CompiledSource.files (compiled : CompiledSource) : List (Path × Text) :=
  let { placement, outputs, .. } := compiled
  [(placement.template, outputs.template), (placement.sheet, outputs.sheet),
    (placement.selectors, outputs.selectors)]

theorem CompiledSource.write_eq (compiled : CompiledSource) (tree : FileTree) :
    compiled.write tree =
      compiled.files.foldlM (fun tree entry => tree.write entry.1 entry.2) tree := by
  simp only [write, files, List.foldlM_cons, List.foldlM_nil, bind_pure]

theorem CompiledSource.paths_files (compiled : CompiledSource) :
    compiled.files.map (·.1) = compiled.placement.outputs := rfl

theorem placement_compileSource (workspace source : Path) (settings : Settings) (text : Text) :
    (compileSource workspace settings source text).placement =
      .ofSource workspace settings.outDir source := rfl

/-- What is written of a component file stands where its outputs are placed. -/
theorem exists_mem_files_iff {workspace source p : Path} {settings : Settings} {text : Text} :
    (∃ content, (p, content) ∈ (compileSource workspace settings source text).files) ↔
      p ∈ (Placement.ofSource workspace settings.outDir source).outputs := by
  rw [← placement_compileSource workspace source settings text, ← CompiledSource.paths_files,
    List.mem_map]
  constructor
  · rintro ⟨content, listed⟩
    exact ⟨_, listed, rfl⟩
  · rintro ⟨⟨_, content⟩, listed, rfl⟩
    exact ⟨content, listed⟩

theorem Placement.sheet_mem_outputs (placement : Placement) : placement.sheet ∈ placement.outputs :=
  List.mem_cons_of_mem _ List.mem_cons_self

theorem FileTree.write_eq_ok_iff {path : Path} :
    tree.write path text = .ok after ↔ tree.write? path (.text text) = some after := by
  rw [write]
  split <;> simp_all

/-- Where a stylesheet can be written, its source has a name that outputs can be named by. -/
theorem exists_isSource_of_write? {names : List Text} {content : FileContent}
    (absolute : workspace.isAbsolute = true)
    (proper : ∀ name ∈ names, IsName name) (path : source = ofNames names)
    (written : tree.write? (Placement.ofSource workspace outDir source).sheet content = some after) :
    ∃ folders name, source.IsSource folders name := by
  obtain ⟨front, last, segments, isName⟩ := FileTree.isName_of_write? written
  have ends : (Placement.ofSource workspace outDir source).sheet.segments.getLast? = some last := by
    rw [segments, List.getLast?_concat]
  obtain ⟨directory, -, -, sheets⟩ := Placement.exists_directory_sheet outDir absolute
  rcases List.eq_nil_or_concat names with rfl | ⟨folders, name, rfl⟩
  · obtain rfl := path
    rw [sheets _ rfl] at segments
    exact absurd rfl (ne_nil_of_segments_join segments isName)
  · rw [List.concat_eq_append] at path proper
    refine ⟨folders, name, path, proper, fun dot => ?_⟩
    have named : source.named = folders.map .name ++ [.name name] := by
      rw [path, named_ofNames proper, List.map_append]
      rfl
    have relative : source.isAbsolute = false := path ▸ isAbsolute_ofNames proper
    have extension : IsExtension "css".toList := isExtension_of_output (by decide)
    have sheetRelative := isAbsolute_withExtension extension named relative
    obtain ⟨before, fillers, -, parts, -⟩ := segments_withExtension extension named
    rw [sheets _ sheetRelative, getLast?_segments_join directory sheetRelative, parts,
      List.getLast?_concat, renamed, if_pos dot] at ends
    exact isName.2.1 (Option.some.inj ends).symm

end Written

end ComponentStyles
