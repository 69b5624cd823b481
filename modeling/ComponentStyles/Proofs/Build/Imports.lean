import ComponentStyles.Proofs.Build.Schedule
import ComponentStyles.Proofs.Reference.Import

/-!
# Imported stylesheets in the output directory

The imports of a written stylesheet are not changed, so a browser looks for them from the place where
it is written. A stylesheet in the workspace is copied to the place in the output directory that is
like its own, and the directories there lie as those in the workspace do. So an import that leads to
a file of the workspace leads to its copy, however often the files import each other.
-/

namespace ComponentStyles

open ComponentStyles.Path

/-- Whether a reference of an import leads to a file of the workspace by a path that is seen from the
importing file and does not step out of the workspace. -/
structure Import.LeadsTo (tree : FileTree) (workspace : Path) (i : Import) (file : Path) : Prop where
  isFile : ReferenceKind.of i.target = .file
  relative : Path.isAbsolute ⟨i.target⟩ = false
  place : file = (i.source.parent.join ⟨i.target⟩).normalize
  inside : file.canonical.head? ≠ some .up
  stands : tree.isFile (workspace.join file) = true

/-- Whether an import is followed to a file of the workspace, however its reference is spelled. -/
def Import.IsFollowedTo (tree : FileTree) (workspace : Path) (i : Import) (file : Path) : Prop :=
  ∃ resolved, i.resolved = some resolved ∧ workspaceFile? tree workspace resolved = some file

/-- The stylesheets of a finished build: the first one of each component, and the copied ones, as far
as imports are followed from one to the next. A stylesheet is read from `source` and written to
`target`. -/
inductive Importing (workspace root : Path) (settings : Settings) (tree : FileTree)
    (compiled : List Path) (tasks : List Task) (follows : Import → Path → Prop) :
    Path → Path → Stylesheet → Prop where
  | component {source text imports written component sheet}
      (listed : .writing source text imports written [] ∈ tasks)
      (defined : component ∈ (Template.parse source.text text).tree.components.1)
      (first : component.stylesheets.head? = some sheet) :
      Importing workspace root settings tree compiled tasks follows source
        (Placement.ofSource workspace settings.outDir source).sheet sheet
  | copy {source target sheet i file text}
      (importing : Importing workspace root settings tree compiled tasks follows source target sheet)
      (listed : i ∈ sheet.imports source) (followed : follows i file) (fresh : file ∉ compiled)
      (read : tree.read? (workspace.join file).normalize = some text) :
      Importing workspace root settings tree compiled tasks follows file (root.join file)
        (Stylesheet.parse file.text text).tree

section Named

variable {workspace source : Path} {folders : List Text} {name : Text} {tree : FileTree}

/-- The paths of a component file are seen from the workspace, or they are absolute. -/
theorem Placement.source_cases (workspace outDir source : Path) :
    let placement := ofSource workspace outDir source
    placement.base = workspace ∧ placement.places.source = source ∨
      placement.base = ⟨[]⟩ ∧ placement.places.source = workspace.join source := by
  rw [ofSource]
  cases insideWorkspace? workspace outDir with
  | some inside => exact .inl ⟨rfl, rfl⟩
  | none => exact .inr ⟨rfl, rfl⟩

/-- From a component file, a reference leads to the same place however the workspace is seen. -/
theorem normalize_parent_join (isSource : source.IsSource folders name) (path : Path) :
    ((workspace.join source).parent.join path).normalize =
      (workspace.join (source.parent.join path).normalize).normalize := by
  cases fromRoot : path.isAbsolute with
  | true =>
      have same : path.normalize.isAbsolute = true := (isAbsolute_normalize path).trans fromRoot
      rw [join_of_isAbsolute _ fromRoot, join_of_isAbsolute _ fromRoot, join_of_isAbsolute _ same,
        normalize_normalize]
  | false =>
      have relative := (isAbsolute_parent isSource.named).trans isSource.relative
      have joined := (isAbsolute_join source.parent fromRoot).trans relative
      rw [normalize_eq_iff, walk_join [] _ fromRoot,
        walk_parent_join [] workspace isSource.relative isSource.named,
        walk_join [] workspace (isAbsolute_normalize_of_relative joined), walk_normalize,
        walk_join _ _ fromRoot]

/-- What a reference in a component file names is looked for where the reference leads from the
component file, seen from the workspace. -/
theorem Placement.absolute_cases (workspace outDir : Path) (isSource : source.IsSource folders name)
    (reference : Text) :
    let placement := ofSource workspace outDir source
    let looked := placement.absolute (placement.places.source.parent.join ⟨reference⟩).normalize
    let named := workspace.join (source.parent.join ⟨reference⟩).normalize
    looked = named ∨ looked = named.normalize := by
  intro placement looked named
  rcases source_cases workspace outDir source with ⟨base, same⟩ | ⟨base, same⟩
  · left
    change Path.join placement.base _ = _
    rw [base, same]
  · right
    change Path.join placement.base _ = _
    rw [base, same, join_empty, normalize_parent_join isSource]

/-- A file of the workspace is found where a path leads, however the path is spelled. -/
theorem workspaceFile?_of_cases {path named : Path} (absolute : workspace.isAbsolute = true)
    (same : path = workspace.join named ∨ path = (workspace.join named).normalize) :
    workspaceFile? tree workspace path = workspaceFile? tree workspace named := by
  have joined := isAbsolute_join_of_isAbsolute absolute named
  have leads : (workspace.join path).normalize = (workspace.join named).normalize := by
    rcases same with rfl | rfl
    · rw [join_of_isAbsolute _ joined]
    · rw [join_of_isAbsolute _ ((isAbsolute_normalize _).trans joined), normalize_normalize]
  rw [workspaceFile?, workspaceFile?, leads]

variable {i : Import} {file : Path}

theorem Import.LeadsTo.isPlain (leads : i.LeadsTo tree workspace file)
    (relative : i.source.parent.isAbsolute = false) : file.IsPlain := by
  have inside := leads.inside
  rw [leads.place, canonical_normalize] at inside
  rw [leads.place]
  exact isPlain_normalize ((isAbsolute_join _ leads.relative).trans relative) inside

/-- The file that an import leads to is what its reference is taken for. -/
theorem Import.LeadsTo.resolved (leads : i.LeadsTo tree workspace file)
    {sheet : Stylesheet} (listed : i ∈ sheet.imports source) : i.resolved = some file := by
  obtain ⟨rfl, resolves⟩ := named_of_mem_imports listed
  rw [resolves, resolveReference_eq_some_iff]
  exact ⟨leads.isFile, leads.place.symm⟩

theorem workspaceFile?_of_isFile (absolute : workspace.isAbsolute = true) (plain : file.IsPlain)
    (stands : tree.isFile (workspace.join file) = true) :
    workspaceFile? tree workspace file = some file := by
  obtain ⟨names, proper, rfl⟩ := plain
  refine (workspaceFile?_eq_some_iff absolute).mpr ⟨?_, names, ?_, rfl⟩
  · obtain ⟨content, found⟩ := FileTree.isFile_iff.mp stands
    exact FileTree.isFile_iff.mpr ⟨content,
      FileTree.find?_normalize_of_find? (isAbsolute_join_of_isAbsolute absolute _) found⟩
  · exact address_join_ofNames absolute proper

theorem Import.LeadsTo.isFollowedTo (leads : i.LeadsTo tree workspace file)
    (absolute : workspace.isAbsolute = true) {sheet : Stylesheet} (listed : i ∈ sheet.imports source)
    (relative : source.parent.isAbsolute = false) : i.IsFollowedTo tree workspace file := by
  have seen : i.source.parent.isAbsolute = false := (named_of_mem_imports listed).1 ▸ relative
  exact ⟨file, leads.resolved listed,
    workspaceFile?_of_isFile absolute (leads.isPlain seen) leads.stands⟩

/-- The files that are looked for in the first place are those that the first stylesheets of the
components import, as far as they are found. -/
theorem mem_checkImports_compileSource_iff {settings : Settings} {text : Text}
    (absolute : workspace.isAbsolute = true) (isSource : source.IsSource folders name) :
    let compiledSource := compileSource workspace settings source text
    let placement := Placement.ofSource workspace settings.outDir source
    file ∈ (checkImports tree workspace compiledSource.placement
        (compiledSource.components.flatMap (·.imports))).result ↔
      ∃ component ∈ (Template.parse source.text text).tree.components.1,
        ∃ sheet, component.stylesheets.head? = some sheet ∧ ∃ i ∈ sheet.imports source,
          i.IsFollowedTo tree workspace file ∧ tree.contains (placement.absolute
            (placement.places.source.parent.join ⟨i.target⟩).normalize) = true := by
  intro compiledSource placement
  have seen (reference : Text) : workspaceFile? tree workspace
      (placement.absolute (placement.places.source.parent.join ⟨reference⟩).normalize) =
        workspaceFile? tree workspace (source.parent.join ⟨reference⟩).normalize :=
    workspaceFile?_of_cases absolute
      (Placement.absolute_cases workspace settings.outDir isSource reference)
  rw [mem_checkImports_iff]
  constructor
  · rintro ⟨i, listed, resolved, resolves, stands, found⟩
    obtain ⟨component, defined, sheet, first, inSheet⟩ := mem_imports_compileSource_iff.mp listed
    obtain ⟨j, inSource, rfl⟩ := (mem_imports_iff_readFrom source _).mp inSheet
    refine ⟨component, defined, sheet, first, j, inSource, ?_⟩
    obtain ⟨isFile, rfl⟩ := resolveReference_eq_some_iff.mp resolves
    refine ⟨⟨(source.parent.join ⟨j.target⟩).normalize, ?_, (seen j.target).symm.trans found⟩, stands⟩
    rw [(named_of_mem_imports inSource).2, resolveReference_eq_some_iff]
    exact ⟨isFile, rfl⟩
  · rintro ⟨component, defined, sheet, first, i, inSheet, ⟨resolved, resolves, found⟩, stands⟩
    rw [(named_of_mem_imports inSheet).2, resolveReference_eq_some_iff] at resolves
    obtain ⟨isFile, rfl⟩ := resolves
    refine ⟨i.readFrom placement.places.source, ?_, _,
      resolveReference_eq_some_iff.mpr ⟨isFile, rfl⟩, stands, ?_⟩
    · exact mem_imports_compileSource_iff.mpr ⟨component, defined, sheet, first,
        (mem_imports_iff_readFrom source _).mpr ⟨i, inSheet, rfl⟩⟩
    · exact (seen i.target).trans found

/-- A file outside of the output directory that an import of a component file leads to is found while
outputs are written. -/
theorem mem_checkImports_of_leadsTo {settings : Settings} {text : Text} {root : Address}
    {during : FileTree} (absolute : workspace.isAbsolute = true)
    (isSource : source.IsSource folders name) {component : Component} {sheet : Stylesheet}
    (defined : component ∈ (Template.parse source.text text).tree.components.1)
    (isFirst : component.stylesheets.head? = some sheet) (listed : i ∈ sheet.imports source)
    (leads : i.LeadsTo tree workspace file)
    (changes : FileTree.ChangesBelow root tree during)
    (apart : ¬ FileTree.Below root (workspace.join file).address) :
    let compiledSource := compileSource workspace settings source text
    file ∈ (checkImports during workspace compiledSource.placement
      (compiledSource.components.flatMap (·.imports))).result := by
  have relative := (isAbsolute_parent isSource.named).trans isSource.relative
  have joined := isAbsolute_join_of_isAbsolute absolute file
  refine (mem_checkImports_compileSource_iff absolute isSource).mpr
    ⟨component, defined, sheet, isFirst, i, listed, ⟨file, leads.resolved listed, ?_⟩, ?_⟩
  · rw [workspaceFile?_of_changesBelow changes absolute apart]
    have seen : i.source.parent.isAbsolute = false := (named_of_mem_imports listed).1 ▸ relative
    exact workspaceFile?_of_isFile absolute (leads.isPlain seen) leads.stands
  · obtain ⟨content, before⟩ := FileTree.isFile_iff.mp leads.stands
    have found := changes.find? joined apart before
    have place := leads.place
    rw [(named_of_mem_imports listed).1] at place
    have looked := Placement.absolute_cases workspace settings.outDir isSource i.target
    dsimp only at looked
    rw [← place] at looked
    rw [FileTree.contains]
    rcases looked with same | same
    · rw [same, found]
      rfl
    · rw [same, FileTree.find?_normalize_of_find? joined found]
      rfl

end Named

namespace Importing

variable {workspace root source target : Path} {settings : Settings} {tree : FileTree}
  {compiled : List Path} {tasks : List Task} {sheet : Stylesheet}
  (absolute : workspace.isAbsolute = true)
  (areSources : ∀ task ∈ tasks, ∃ folders name, task.source.IsSource folders name)
include absolute areSources

/-- The stylesheets that paths seen from the importing files lead to are among those that are
followed. -/
theorem isFollowed
    (importing : Importing workspace root settings tree compiled tasks
      (Import.LeadsTo tree workspace) source target sheet) :
    Importing workspace root settings tree compiled tasks (Import.IsFollowedTo tree workspace)
        source target sheet ∧ source.parent.isAbsolute = false := by
  induction importing with
  | component listed defined first =>
      obtain ⟨folders, name, isSource⟩ := areSources _ listed
      exact ⟨.component listed defined first, (isAbsolute_parent isSource.named).trans isSource.relative⟩
  | copy importing listed followed fresh read inductionHypothesis =>
      obtain ⟨before, relative⟩ := inductionHypothesis
      have seen := (named_of_mem_imports listed).1 ▸ relative
      exact ⟨.copy before listed (followed.isFollowedTo absolute listed relative) fresh read,
        (followed.isPlain seen).isAbsolute_parent⟩

/-- The directory of a written stylesheet lies in the output directory as that of its source lies in
the workspace. -/
theorem walk_parent_target (accepted : outputRoot? workspace settings.outDir = some root)
    (importing : Importing workspace root settings tree compiled tasks
      (Import.LeadsTo tree workspace) source target sheet) :
    walk [] target.parent.components = walk (walk [] root.components) source.parent.components := by
  cases importing with
  | @component source _ _ _ _ _ listed defined first =>
      obtain ⟨folders, name, isSource⟩ := areSources _ listed
      change source.IsSource folders name at isSource
      have extension : IsExtension "css".toList := isExtension_of_output (by decide)
      have relative := isAbsolute_withExtension extension isSource.named isSource.relative
      obtain ⟨directory, -, leads, sheets⟩ :=
        Placement.exists_directory_sheet settings.outDir absolute
      rw [← (eq_normalize_of_outputRoot accepted).1] at leads
      rw [sheets source relative, walk_parent_sheet [] directory isSource.relative isSource.named,
        walk_parent_source _ isSource.relative isSource.named, ← walk_normalize [] directory, leads]
  | @copy before _ _ i file text importing listed followed =>
      obtain ⟨-, relative⟩ := isFollowed absolute areSources importing
      have seen := (named_of_mem_imports listed).1 ▸ relative
      obtain ⟨names, proper, rfl⟩ := followed.isPlain seen
      obtain ⟨content, found⟩ := FileTree.isFile_iff.mp followed.stands
      rcases List.eq_nil_or_concat names with rfl | ⟨front, last, rfl⟩
      · obtain ⟨_, _, segments, isName⟩ := FileTree.isName_of_find? found
        exact absurd rfl (ne_nil_of_segments_join segments isName)
      · have ends := named_ofNames proper
        rw [List.concat_eq_append, List.map_append] at ends
        exact walk_parent_join [] root (isAbsolute_ofNames proper) (by rwa [List.concat_eq_append])

end Importing

section Copied

variable {workspace root : Path} {settings : Settings} {first : FileTree} {compiled : List Path}
  {tasks : List Task} {visited : List Path} {state last : Copying}

/-- Whether a file is imported by a stylesheet of the build. -/
def IsImported (workspace root : Path) (settings : Settings) (tree : FileTree) (compiled : List Path)
    (tasks : List Task) (file : Path) : Prop :=
  ∃ source target sheet, Importing workspace root settings tree compiled tasks
      (Import.IsFollowedTo tree workspace) source target sheet ∧
    ∃ i ∈ sheet.imports source, i.IsFollowedTo tree workspace file

/-- Whether no stylesheet of the build imports a file from the output directory. -/
def ImportsOutside (workspace root : Path) (settings : Settings) (tree : FileTree)
    (compiled : List Path) (tasks : List Task) : Prop :=
  ∀ source target sheet, Importing workspace root settings tree compiled tasks
      (Import.IsFollowedTo tree workspace) source target sheet →
    ∀ i ∈ sheet.imports source, ∀ resolved, i.resolved = some resolved →
      ¬ (workspace.join resolved).LiesBelow root

variable (absolute : workspace.isAbsolute = true) (fromRoot : root.isAbsolute = true)
  (outside : ImportsOutside workspace root settings first compiled tasks)
include absolute fromRoot outside

theorem ImportsOutside.not_below {source target resolved : Path} {sheet : Stylesheet} {i : Import}
    (importing : Importing workspace root settings first compiled tasks
      (Import.IsFollowedTo first workspace) source target sheet)
    (listed : i ∈ sheet.imports source) (resolves : i.resolved = some resolved) :
    ¬ FileTree.Below root.address (workspace.join resolved).address := by
  have apart := outside source target sheet importing i listed resolved resolves
  rwa [liesBelow_iff_address (isAbsolute_join_of_isAbsolute absolute resolved) fromRoot] at apart

/-- An imported file is a file of the workspace outside of the output directory. -/
theorem IsImported.stands {file : Path}
    (imported : IsImported workspace root settings first compiled tasks file) :
    file.IsPlain ∧ first.isFile (workspace.join file).normalize = true ∧
      ¬ FileTree.Below root.address (workspace.join file).address := by
  obtain ⟨source, target, sheet, importing, i, listed, resolved, resolves, found⟩ := imported
  obtain ⟨place, isFile⟩ := stands_of_workspaceFile? absolute found
  refine ⟨isPlain_of_workspaceFile? absolute found, isFile, ?_⟩
  rw [← address_normalize (workspace.join file), place, address_normalize]
  exact outside.not_below absolute fromRoot importing listed resolves

/-- What is read of an imported file is what the file held before the build. -/
theorem IsImported.read?_normalize {file : Path} {text : Text} {tree : FileTree}
    (imported : IsImported workspace root settings first compiled tasks file)
    (changes : FileTree.ChangesBelow root.address first tree)
    (read : tree.read? (workspace.join file) = some text) :
    first.read? (workspace.join file).normalize = some text := by
  obtain ⟨-, isFile, apart⟩ := imported.stands absolute fromRoot outside
  have joined := isAbsolute_join_of_isAbsolute absolute file
  have held := FileTree.content?_of_read? joined read
  rw [changes.files _ apart] at held
  exact FileTree.read?_normalize joined isFile held

theorem isImported_of_copies
    (copies : Copying.Copies workspace root compiled state visited last)
    (changes : FileTree.ChangesBelow root.address first state.tree)
    (asked : ∀ file ∈ state.pending,
      IsImported workspace root settings first compiled tasks file) :
    (∀ file ∈ visited, IsImported workspace root settings first compiled tasks file) ∧
      ∀ file ∈ last.pending, IsImported workspace root settings first compiled tasks file := by
  induction copies with
  | stop state => exact ⟨List.forall_mem_nil _, asked⟩
  | @next state between last path pending visited unseen copied others inductionHypothesis =>
      have suffix := unseen ▸ Copying.unseen_suffix state
      have imported := asked path (suffix.subset List.mem_cons_self)
      have later : ∀ file ∈ pending, IsImported workspace root settings first compiled tasks file :=
        fun file listed => asked file (suffix.subset (List.mem_cons_of_mem _ listed))
      obtain ⟨plain, -⟩ := imported.stands absolute fromRoot outside
      have step := Copying.changesBelow_of_copy fromRoot plain copied
      have onward := changes.trans step
      have betweenAsked : ∀ file ∈ between.pending,
          IsImported workspace root settings first compiled tasks file := by
        rcases (Copying.copy_cases copied).2 with ⟨-, -, same⟩ | ⟨fresh, text, read, -, more⟩
        · rwa [same]
        · rw [more]
          intro file listed
          rcases List.mem_append.mp listed with found | before
          · obtain ⟨i, inSheet, resolved, resolves, inside⟩ :=
              mem_importsOfCopy_iff.mp (List.mem_reverse.mp found)
            have held := imported.read?_normalize absolute fromRoot outside changes read
            obtain ⟨source, target, sheet, importing, j, listed, followed⟩ := imported
            have next := Importing.copy importing listed followed fresh held
            have apart := outside.not_below absolute fromRoot next inSheet resolves
            rw [workspaceFile?_of_changesBelow onward absolute apart] at inside
            exact ⟨_, _, _, next, i, inSheet, resolved, resolves, inside⟩
          · exact later file before
      obtain ⟨visits, left⟩ := inductionHypothesis onward betweenAsked
      exact ⟨List.forall_mem_cons.mpr ⟨imported, visits⟩, left⟩

/-- There are no more imported files than files. -/
theorem length_le_of_imported {files : List Path} {tree : FileTree} (distinct : files.Nodup)
    (changes : FileTree.ChangesBelow root.address first tree)
    (imported : ∀ file ∈ files, IsImported workspace root settings first compiled tasks file) :
    files.length ≤ tree.files.length := by
  have places : (files.map fun file => (workspace.join file).address).Nodup := by
    refine distinct.map_on fun file listed other otherListed same => ?_
    obtain ⟨plain, -⟩ := (imported file listed).stands absolute fromRoot outside
    obtain ⟨otherPlain, -⟩ := (imported other otherListed).stands absolute fromRoot outside
    exact plain.eq_of_address otherPlain absolute same
  have held : (files.map fun file => (workspace.join file).address) ⊆ tree.files.map (·.1) := by
    intro address listed
    obtain ⟨file, member, rfl⟩ := List.mem_map.mp listed
    obtain ⟨-, isFile, apart⟩ := (imported file member).stands absolute fromRoot outside
    have joined := isAbsolute_join_of_isAbsolute absolute file
    have root := FileTree.isDirectory_of_isFile ((isAbsolute_normalize _).trans joined) isFile
    obtain ⟨-, content, stands⟩ := (FileTree.isFile_normalize_iff joined root).mp isFile
    rw [← changes.files _ apart] at stands
    exact List.mem_map_of_mem (FileTree.mem_files_of_content? stands)
  simpa using places.length_le_of_subset held

/-- Copying does not end before all files are seen. -/
theorem unseen_eq_nil_of_ended
    (copies : Copying.Copies workspace root compiled state visited last)
    (changes : FileTree.ChangesBelow root.address first state.tree)
    (asked : ∀ file ∈ state.pending,
      IsImported workspace root settings first compiled tasks file)
    (ended : last.unseen = [] ∨ visited.length = Copying.bound state.tree) : last.unseen = [] := by
  rcases ended with done | full
  · exact done
  · cases left : last.unseen with
    | nil => rfl
    | cons path pending =>
        obtain ⟨visits, asks⟩ := isImported_of_copies absolute fromRoot outside copies changes asked
        have next := asks path ((left ▸ Copying.unseen_suffix last).subset List.mem_cons_self)
        have fresh : path ∉ visited := fun visit =>
          Copying.sized_notMem_of_unseen left (copies.seen.2 path visit)
        have short := length_le_of_imported absolute fromRoot outside
          (List.nodup_cons.mpr ⟨fresh, copies.nodup.1⟩) changes
          (List.forall_mem_cons.mpr ⟨next, visits⟩)
        rw [List.length_cons, full, Copying.bound] at short
        omega

end Copied

section Visited

variable {workspace root : Path} {settings : Settings} {sources compiled visited : List Path}
  {first : FileTree} {state : Compiling} {last : Copying} (absolute : workspace.isAbsolute = true)
  (accepted : outputRoot? workspace settings.outDir = some root)
  (areSources : ∀ task ∈ state.tasks, ∃ folders name, task.source.IsSource folders name)
  (sound : state.IsSound workspace root settings sources first) (finished : state.IsFinished)
  (outside : ImportsOutside workspace root settings first compiled state.tasks)
include absolute accepted areSources sound outside

theorem isImported_of_mem_tasks (finished : state.IsFinished) :
    ∀ file ∈ (state.tasks.flatMap Task.imports).reverse,
      IsImported workspace root settings first compiled state.tasks file := by
  intro file asked
  obtain ⟨task, member, looked⟩ := List.mem_flatMap.mp (List.mem_reverse.mp asked)
  have right := sound.tasks task member
  have done := finished task member
  obtain ⟨folders, name, isSource⟩ := areSources task member
  cases task with
  | unread | compiled => cases looked
  | writing source text imports written left =>
      cases left with
      | cons => exact done.elim
      | nil =>
          obtain ⟨-, ⟨during, changes, same⟩, -⟩ := right
          change file ∈ imports at looked
          change source.IsSource folders name at isSource
          rw [same] at looked
          obtain ⟨component, defined, sheet, isFirst, i, listed, ⟨resolved, resolves, found⟩, -⟩ :=
            (mem_checkImports_compileSource_iff absolute isSource).mp looked
          have importing : Importing workspace root settings first compiled state.tasks
              (Import.IsFollowedTo first workspace) source _ sheet :=
            .component member defined isFirst
          have apart := outside.not_below absolute (isAbsolute_outputRoot absolute accepted)
            importing listed resolves
          rw [workspaceFile?_of_changesBelow changes absolute apart] at found
          exact ⟨_, _, _, importing, i, listed, resolved, resolves, found⟩

/-- What an import of the build leads to is visited. -/
theorem mem_visited_of_leadsTo
    (copies : Copying.Copies workspace root compiled
      ⟨state.tree, [], (state.tasks.flatMap Task.imports).reverse, []⟩ visited last)
    (seen : last.unseen = [])
    (asked : ∀ file ∈ (state.tasks.flatMap Task.imports).reverse,
      IsImported workspace root settings first compiled state.tasks file)
    {source target : Path} {sheet : Stylesheet}
    (importing : Importing workspace root settings first compiled state.tasks
      (Import.LeadsTo first workspace) source target sheet) :
    ∀ i ∈ sheet.imports source, ∀ file, i.LeadsTo first workspace file → file ∈ visited := by
  have fromRoot := isAbsolute_outputRoot absolute accepted
  have visits {file : Path} (listed : file ∈ (state.tasks.flatMap Task.imports).reverse) :
      file ∈ visited := (copies.visits seen listed).resolve_right (List.not_mem_nil)
  induction importing with
  | @component source text imports written component sheet listed defined isFirst =>
      intro i inSheet file leads
      obtain ⟨folders, name, isSource⟩ := areSources _ listed
      change source.IsSource folders name at isSource
      obtain ⟨-, ⟨during, changes, same⟩, -⟩ := sound.tasks _ listed
      have importing : Importing workspace root settings first compiled state.tasks
          (Import.IsFollowedTo first workspace) source _ sheet := .component listed defined isFirst
      have apart := outside.not_below absolute fromRoot importing inSheet (leads.resolved inSheet)
      refine visits (List.mem_reverse.mpr (List.mem_flatMap.mpr ⟨_, listed, ?_⟩))
      change file ∈ imports
      rw [same]
      exact mem_checkImports_of_leadsTo absolute isSource defined isFirst inSheet leads changes apart
  | @copy source target sheet j importer text importing listed leads fresh read inductionHypothesis =>
      intro i inSheet file leadsOn
      have visit := inductionHypothesis j listed importer leads
      obtain ⟨importing, relative⟩ := Importing.isFollowed absolute areSources importing
      have followed := leads.isFollowedTo absolute listed relative
      have imported : IsImported workspace root settings first compiled state.tasks importer :=
        ⟨_, _, _, importing, j, listed, followed⟩
      have next := Importing.copy importing listed followed fresh read
      have apart := outside.not_below absolute fromRoot next inSheet (leadsOn.resolved inSheet)
      have plains := fun file asks => ((asked file asks).stands absolute fromRoot outside).1
      obtain ⟨_, during, behind, before, changes, readAgain, -, asks⟩ :=
        copies.copied absolute fromRoot plains visit fresh
      have held := imported.read?_normalize absolute fromRoot outside
        (sound.changes.trans before) readAgain
      obtain rfl := Option.some.inj (read.symm.trans held)
      have onward : file ∈ (importsOfCopy behind workspace importer text).1 := by
        refine mem_importsOfCopy_iff.mpr ⟨i, inSheet, file, leadsOn.resolved inSheet, ?_⟩
        rw [workspaceFile?_of_changesBelow (sound.changes.trans changes) absolute apart]
        have plain := (imported.stands absolute fromRoot outside).1
        have seen := (named_of_mem_imports inSheet).1 ▸ plain.isAbsolute_parent
        exact workspaceFile?_of_isFile absolute (leadsOn.isPlain seen) leadsOn.stands
      exact (asks seen file onward).resolve_right List.not_mem_nil

end Visited

section Mirrored

variable {workspace root : Path} {settings : Settings} {sources : List Path}
  {first after : FileTree} {state : Compiling} {log : List Text}

/-- Whatever the schedule of the component files, copying the files that they import ends with every
file seen, however the files import each other, and takes each file once. If no stylesheet of the
build imports a file from the output directory, then each import that leads from a written stylesheet
to a file of the workspace, and to no output of a component file, leads in the output directory to a
copy of that file. -/
theorem Compiling.imports_mirrored (absolute : workspace.isAbsolute = true)
    (proper : first.IsProper) (found : findSources first workspace settings = .ok sources)
    (accepted : outputRoot? workspace settings.outDir = some root)
    (reaches : (Compiling.start first sources).Reaches workspace settings state)
    (finished : state.IsFinished)
    (copied : copyImports workspace root (sources.map fun source => source.withExtension "css".toList)
      (state.tasks.flatMap Task.imports) state.tree = .ok (after, log))
    (outside : ImportsOutside workspace root settings first
      (sources.map fun source => source.withExtension "css".toList) state.tasks) :
    let compiled := sources.map fun source => source.withExtension "css".toList
    ∃ visited last, Copying.Copies workspace root compiled
        ⟨state.tree, [], (state.tasks.flatMap Task.imports).reverse, []⟩ visited last ∧
      last.unseen = [] ∧ last.tree = after ∧ visited.Nodup ∧
      ∀ source target sheet, Importing workspace root settings first compiled state.tasks
          (Import.LeadsTo first workspace) source target sheet →
        ∀ i ∈ sheet.imports source, ∀ file, i.LeadsTo first workspace file → file ∉ compiled →
          file ∈ visited ∧ ∃ text, first.read? (workspace.join file) = some text ∧
            after.read? (target.parent.join ⟨i.target⟩).normalize = some text := by
  intro compiled
  have fromRoot := isAbsolute_outputRoot absolute accepted
  obtain ⟨distinct, plain⟩ := findSources_distinct proper absolute found
  have inSources : ∀ source ∈ sources, ∃ folders name, source.IsSource folders name :=
    fun source listed => isSource_of_finished absolute reaches finished listed (plain source listed)
  have sound := Reaches.isSound absolute accepted distinct inSources reaches
  have areSources : ∀ task ∈ state.tasks, ∃ folders name, task.source.IsSource folders name :=
    fun task member => inSources task.source (sound.same ▸ List.mem_map_of_mem member)
  have asked := isImported_of_mem_tasks absolute accepted areSources sound outside finished
  obtain ⟨visited, last, copies, rfl, ended⟩ := Copying.exists_copies_of_copyImports copied
  have seen := unseen_eq_nil_of_ended absolute fromRoot outside copies sound.changes asked ended
  refine ⟨visited, last, copies, seen, rfl, copies.nodup.1, ?_⟩
  intro source target sheet importing i inSheet file leads fresh
  have visit := mem_visited_of_leadsTo absolute accepted areSources sound outside copies seen asked
    importing i inSheet file leads
  obtain ⟨followed, relative⟩ := Importing.isFollowed absolute areSources importing
  have imported : IsImported workspace root settings first compiled state.tasks file :=
    ⟨_, _, _, followed, i, inSheet, leads.isFollowedTo absolute inSheet relative⟩
  have plains := fun file asks => ((asked file asks).stands absolute fromRoot outside).1
  obtain ⟨text, during, -, before, -, read, written, -⟩ :=
    copies.copied absolute fromRoot plains visit fresh
  have held := imported.read?_normalize absolute fromRoot outside (sound.changes.trans before) read
  have joined := isAbsolute_join_of_isAbsolute absolute file
  refine ⟨visit, text, ?_, ?_⟩
  · obtain ⟨content, stands⟩ := FileTree.isFile_iff.mp leads.stands
    rw [FileTree.read?, FileTree.find?_normalize_of_find? joined stands] at held
    rw [FileTree.read?, stands]
    exact held
  · have lands : (target.parent.join ⟨i.target⟩).normalize = (root.join file).normalize := by
      have place := leads.place
      rw [(named_of_mem_imports inSheet).1] at place
      have named := (isAbsolute_join source.parent leads.relative).trans relative
      rw [normalize_eq_iff, walk_join [] _ leads.relative,
        importing.walk_parent_target absolute areSources accepted, place,
        walk_join [] root (isAbsolute_normalize_of_relative named), walk_normalize,
        walk_join _ _ leads.relative]
    rw [lands]
    exact FileTree.read?_of_find? (FileTree.find?_normalize_of_find?
      (isAbsolute_join_of_isAbsolute fromRoot file) (FileTree.find?_of_read? written))

/-- The text of a component file that imports a stylesheet. -/
def importingSource : Text :=
  "<element name=\"x-a\"><style>@import \"b.css\";</style></element>".toList

/-- A workspace with a stylesheet that a component file imports and that imports itself. -/
def cyclicWorkspace : FileTree :=
  .directory [("ws".toList, .directory [("a.html".toList, .file (.text importingSource)),
    ("b.css".toList, .file (.text "@import \"b.css\";".toList))])]

theorem importsOutside_cyclicWorkspace (imports : List Path) (written : List (Path × Text)) :
    ImportsOutside ⟨"/ws".toList⟩ ⟨"/ws/build".toList⟩ (.ofArguments {} {}) cyclicWorkspace
      [⟨"a.css".toList⟩] [.writing ⟨"a.html".toList⟩ importingSource imports written []] := by
  intro source target sheet importing
  have same : ∀ i ∈ sheet.imports source, i.resolved = some ⟨"b.css".toList⟩ := by
    induction importing with
    | component listed defined isFirst =>
        cases List.mem_singleton.mp listed
        have all : ∀ component ∈ (Template.parse "a.html".toList importingSource).tree.components.1,
            ∀ sheet ∈ component.stylesheets.head?, ∀ i ∈ sheet.imports ⟨"a.html".toList⟩,
              i.resolved = some ⟨"b.css".toList⟩ := by decide +kernel
        exact all _ defined _ isFirst
    | copy importing listed followed fresh read inductionHypothesis =>
        obtain ⟨resolved, resolves, found⟩ := followed
        obtain rfl := Option.some.inj (resolves.symm.trans (inductionHypothesis _ listed))
        have only : workspaceFile? cyclicWorkspace ⟨"/ws".toList⟩ ⟨"b.css".toList⟩ =
            some ⟨"b.css".toList⟩ := by decide +kernel
        obtain rfl := Option.some.inj (only.symm.trans found)
        have holds : cyclicWorkspace.read? (Path.join ⟨"/ws".toList⟩ ⟨"b.css".toList⟩).normalize =
            some "@import \"b.css\";".toList := by decide +kernel
        obtain rfl := Option.some.inj (holds.symm.trans read)
        decide +kernel
  rintro i listed resolved resolves ⟨c, rest, whole⟩
  obtain rfl := Option.some.inj (resolves.symm.trans (same i listed))
  have third : (some (.name "b.css".toList) : Option Path.Component) = some (.name "build".toList) :=
    congrArg (fun row => row[2]?) whole
  revert third
  decide

/-- Building that workspace comes to the copying of imports with its component file written. -/
theorem exists_compiling_cyclicWorkspace :
    ∃ (state : Compiling) (after : FileTree) (log : List Text) (imports : List Path)
        (written : List (Path × Text)),
      (Compiling.start cyclicWorkspace [⟨"a.html".toList⟩]).Reaches ⟨"/ws".toList⟩
          (.ofArguments {} {}) state ∧
        state.IsFinished ∧
        state.tasks = [.writing ⟨"a.html".toList⟩ importingSource imports written []] ∧
        copyImports ⟨"/ws".toList⟩ ⟨"/ws/build".toList⟩
          ([(⟨"a.html".toList⟩ : Path)].map fun source => source.withExtension "css".toList)
          (state.tasks.flatMap Task.imports) state.tree = .ok (after, log) := by
  have accepted : outputRoot? ⟨"/ws".toList⟩ (Settings.ofArguments {} {}).outDir =
      some ⟨"/ws/build".toList⟩ := by decide +kernel
  have builds : (compileWorkspace ⟨"/ws".toList⟩ (.ofArguments {} {}) cyclicWorkspace
      [⟨"a.html".toList⟩]).toOption.map
        (fun result => result.1.map fun report => (report.path, report.source)) =
          some [(⟨"a.html".toList⟩, importingSource)] := by decide +kernel
  cases ran : compileWorkspace ⟨"/ws".toList⟩ (.ofArguments {} {}) cyclicWorkspace
      [⟨"a.html".toList⟩] with
  | error fault =>
      rw [ran] at builds
      cases builds
  | ok result =>
      rw [ran] at builds
      obtain ⟨report, listed, same⟩ := List.map_eq_singleton_iff.mp (Option.some.inj builds)
      obtain ⟨state, late, reaches, finished, tasks, copied⟩ :=
        exists_compiling_of_compileWorkspace accepted ran
      obtain ⟨path, text, components, messages, imports, trace⟩ := report
      obtain ⟨rfl, rfl⟩ := Prod.mk.inj same
      rw [listed, List.map_singleton, Task.ofReport] at tasks
      exact ⟨state, _, _, imports, _, reaches, finished, tasks, copied⟩

theorem Compiling.imports_mirrored_cyclic :
    let workspace : Path := ⟨"/ws".toList⟩
    let settings := Settings.ofArguments {} {}
    ∃ (state : Compiling) (after : FileTree) (log : List Text),
      (Compiling.start cyclicWorkspace [⟨"a.html".toList⟩]).Reaches workspace settings state ∧
      copyImports workspace ⟨"/ws/build".toList⟩ [⟨"a.css".toList⟩]
        (state.tasks.flatMap Task.imports) state.tree = .ok (after, log) ∧
      after.read? ⟨"/ws/build/b.css".toList⟩ = some "@import \"b.css\";".toList := by
  intro workspace settings
  have proper : cyclicWorkspace.IsProper := ⟨by decide +kernel, by decide +kernel⟩
  have found : findSources cyclicWorkspace workspace settings = .ok [⟨"a.html".toList⟩] := by
    decide +kernel
  have accepted : outputRoot? workspace settings.outDir = some ⟨"/ws/build".toList⟩ := by
    decide +kernel
  have sheets : [(⟨"a.html".toList⟩ : Path)].map (fun source => source.withExtension "css".toList) =
      [⟨"a.css".toList⟩] := by decide +kernel
  obtain ⟨state, after, log, imports, written, reaches, finished, alone, copied⟩ :=
    exists_compiling_cyclicWorkspace
  have outside : ImportsOutside workspace ⟨"/ws/build".toList⟩ settings cyclicWorkspace
      ([(⟨"a.html".toList⟩ : Path)].map fun source => source.withExtension "css".toList)
      state.tasks := by
    rw [sheets, alone]
    exact importsOutside_cyclicWorkspace imports written
  obtain ⟨_, _, -, -, -, -, mirrored⟩ :=
    imports_mirrored rfl proper found accepted reaches finished copied outside
  refine ⟨state, after, log, reaches, sheets ▸ copied, ?_⟩
  obtain ⟨component, defined, sheet, isFirst, i, inSheet, source, target⟩ :
      ∃ component ∈ (Template.parse "a.html".toList importingSource).tree.components.1,
        ∃ sheet ∈ component.stylesheets.head?, ∃ i ∈ sheet.imports ⟨"a.html".toList⟩,
          i.source = ⟨"a.html".toList⟩ ∧ i.target = "b.css".toList := by decide +kernel
  have leads : i.LeadsTo cyclicWorkspace workspace ⟨"b.css".toList⟩ := by
    constructor
    · rw [target]
      decide +kernel
    · rw [target]
      rfl
    · rw [source, target]
      decide +kernel
    · decide +kernel
    · decide +kernel
  have importing : Importing workspace ⟨"/ws/build".toList⟩ settings cyclicWorkspace
      ([(⟨"a.html".toList⟩ : Path)].map fun source => source.withExtension "css".toList)
      state.tasks (Import.LeadsTo cyclicWorkspace workspace) ⟨"a.html".toList⟩
      (Placement.ofSource workspace settings.outDir ⟨"a.html".toList⟩).sheet sheet := by
    rw [alone]
    exact .component List.mem_cons_self defined isFirst
  obtain ⟨-, text, held, copy⟩ := mirrored _ _ _ importing i inSheet _ leads (by decide +kernel)
  have holds : cyclicWorkspace.read? (workspace.join ⟨"b.css".toList⟩) =
      some "@import \"b.css\";".toList := by decide +kernel
  obtain rfl := Option.some.inj (holds.symm.trans held)
  have place : ((Placement.ofSource workspace settings.outDir ⟨"a.html".toList⟩).sheet.parent.join
      ⟨"b.css".toList⟩).normalize = ⟨"/ws/build/b.css".toList⟩ := by decide +kernel
  rw [target, place] at copy
  exact copy

end Mirrored

end ComponentStyles
