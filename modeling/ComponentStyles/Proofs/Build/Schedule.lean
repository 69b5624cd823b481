import ComponentStyles.Proofs.Build.Copying
import Mathlib.Logic.Relation

/-!
# Compiling component files side by side

The component files of a workspace are compiled in parallel, on one file tree. A schedule takes, one
after the other, the accesses of all of them to that tree in any order that keeps the order of each
file: it is read, its imports are looked for, and its outputs are written. Whatever the schedule, an
output is lost only to a component file with the same stem in the same folder, or to an imported file
that is copied over it afterwards.
-/

namespace ComponentStyles

open ComponentStyles.Path

/-- A component file between two accesses to the file tree. -/
inductive Task where
  | unread (source : Path)
  /-- The text is read and compiled. -/
  | compiled (source : Path) (text : Text)
  /-- The imports are looked for. Some outputs are written, others are left. -/
  | writing (source : Path) (text : Text) (imports : List Path) (written left : List (Path × Text))

namespace Task

def source : Task → Path
  | unread source => source
  | compiled source _ => source
  | writing source _ _ _ _ => source

/-- The imported files of the workspace, once they are looked for. -/
def imports : Task → List Path
  | writing _ _ imports _ _ => imports
  | _ => []

def IsFinished : Task → Prop
  | writing _ _ _ _ [] => True
  | _ => False

/-- One access of a task to the file tree. -/
inductive Step (workspace : Path) (settings : Settings) : FileTree → Task → FileTree → Task → Prop where
  | read {tree source text} (found : tree.read? (sourcePath workspace source) = some text) :
      Step workspace settings tree (.unread source) tree (.compiled source text)
  | look {tree source text compiledSource}
      (compiles : compileSource workspace settings source text = compiledSource) :
      Step workspace settings tree (.compiled source text) tree
        (.writing source text
          (checkImports tree workspace compiledSource.placement
            (compiledSource.components.flatMap (·.imports))).result
          [] compiledSource.files)
  | write {tree after source text imports written path content left}
      (stored : tree.write path content = .ok after) :
      Step workspace settings tree (.writing source text imports written ((path, content) :: left))
        after (.writing source text imports (written ++ [(path, content)]) left)

end Task

/-- The tasks of a build and the file tree that they share. -/
structure Compiling where
  tree : FileTree
  tasks : List Task

namespace Compiling

def start (tree : FileTree) (sources : List Path) : Compiling :=
  ⟨tree, sources.map .unread⟩

/-- Any task may be the next one to go on. -/
inductive Step (workspace : Path) (settings : Settings) : Compiling → Compiling → Prop where
  | of_task {tree after task next} (before behind : List Task)
      (step : Task.Step workspace settings tree task after next) :
      Step workspace settings ⟨tree, before ++ task :: behind⟩ ⟨after, before ++ next :: behind⟩

/-- A schedule: some accesses of the tasks, one after the other. -/
abbrev Reaches (workspace : Path) (settings : Settings) : Compiling → Compiling → Prop :=
  Relation.ReflTransGen (Step workspace settings)

def IsFinished (state : Compiling) : Prop :=
  ∀ task ∈ state.tasks, task.IsFinished

end Compiling

section Runs

variable {workspace : Path} {settings : Settings} {state next : Compiling}

theorem Task.Step.source_eq {tree after : FileTree} {task next : Task}
    (step : Task.Step workspace settings tree task after next) : next.source = task.source := by
  cases step <;> rfl

theorem Compiling.Reaches.sources_eq (reaches : state.Reaches workspace settings next) :
    next.tasks.map Task.source = state.tasks.map Task.source := by
  induction reaches with
  | refl => rfl
  | tail _ step inductionHypothesis =>
      cases step with
      | of_task before behind step =>
          rw [← inductionHypothesis, List.map_append, List.map_append, List.map_cons, List.map_cons,
            step.source_eq]

/-- What every access of a task keeps true of it is true of it after any schedule. -/
theorem Compiling.Reaches.forall_tasks {Holds : Task → Prop}
    (keeps : ∀ tree task after next, Task.Step workspace settings tree task after next →
      Holds task → Holds next)
    (reaches : state.Reaches workspace settings next) (holds : ∀ task ∈ state.tasks, Holds task) :
    ∀ task ∈ next.tasks, Holds task := by
  induction reaches with
  | refl => exact holds
  | tail _ step inductionHypothesis =>
      cases step with
      | of_task before behind step =>
          intro task listed
          rcases List.mem_append.mp listed with front | rest
          · exact inductionHypothesis task (List.mem_append_left _ front)
          · rcases List.mem_cons.mp rest with rfl | later
            · refine keeps _ _ _ _ step (inductionHypothesis _ ?_)
              exact List.mem_append_right _ List.mem_cons_self
            · refine inductionHypothesis task (List.mem_append_right _ ?_)
              exact List.mem_cons_of_mem _ later

/-- The outputs that a task has written stand in front of those that are left, and each of them
could be written. -/
def Task.HasWritten (workspace : Path) (settings : Settings) : Task → Prop
  | writing source text _ written left =>
      (compileSource workspace settings source text).files = written ++ left ∧
        ∀ entry ∈ written, ∃ before after : FileTree, before.write? entry.1 (.text entry.2) = some after
  | _ => True

theorem Task.Step.hasWritten {tree after : FileTree} {task next : Task}
    (step : Task.Step workspace settings tree task after next)
    (holds : task.HasWritten workspace settings) : next.HasWritten workspace settings := by
  cases step with
  | read => trivial
  | look compiles => exact ⟨by rw [compiles]; rfl, List.forall_mem_nil _⟩
  | write stored =>
      refine ⟨holds.1.trans (List.append_cons _ _ _), fun entry listed => ?_⟩
      rcases List.mem_append.mp listed with before | last
      · exact holds.2 entry before
      · rw [List.mem_singleton.mp last]
        exact ⟨_, _, FileTree.write_eq_ok_iff.mp stored⟩

theorem Compiling.hasWritten_of_start {tree : FileTree} {sources : List Path}
    (reaches : (Compiling.start tree sources).Reaches workspace settings state) :
    ∀ task ∈ state.tasks, task.HasWritten workspace settings := by
  refine reaches.forall_tasks (fun _ _ _ _ => Task.Step.hasWritten) fun task listed => ?_
  obtain ⟨source, -, rfl⟩ := List.mem_map.mp listed
  trivial

/-- Only component files whose names give names to outputs can be compiled to the end. -/
theorem Compiling.isSource_of_finished {tree : FileTree} {sources : List Path} {source : Path}
    (absolute : workspace.isAbsolute = true)
    (reaches : (Compiling.start tree sources).Reaches workspace settings state)
    (finished : state.IsFinished) (listed : source ∈ sources) (plain : source.IsPlain) :
    ∃ folders name, source.IsSource folders name := by
  have same := Compiling.Reaches.sources_eq reaches
  have started : (Compiling.start tree sources).tasks.map Task.source = sources := by
    rw [start, List.map_map]
    exact List.map_id sources
  rw [started] at same
  obtain ⟨task, member, rfl⟩ := List.mem_map.mp (same ▸ listed)
  have wrote := Compiling.hasWritten_of_start reaches task member
  obtain ⟨names, proper, path⟩ := plain
  cases task with
  | unread | compiled => exact (finished _ member).elim
  | writing source text imports written left =>
      cases left with
      | cons => exact (finished _ member).elim
      | nil =>
          obtain ⟨files, stored⟩ := wrote
          rw [List.append_nil] at files
          obtain ⟨content, sheet⟩ := exists_mem_files_iff.mpr (Placement.sheet_mem_outputs _)
          rw [files] at sheet
          obtain ⟨before, after, stored⟩ := stored _ sheet
          exact exists_isSource_of_write? absolute proper path stored

end Runs

section Outputs

variable {workspace root : Path} {settings : Settings} {sources : List Path}
  {first tree after : FileTree} {task next : Task}

/-- The text that is read of a source is what the file held before the build, unless the source lies
in the output directory. -/
def Task.HeldBefore (workspace root : Path) (first : FileTree) (source : Path) (text : Text) : Prop :=
  ¬ FileTree.Below root.address (sourcePath workspace source).address →
    first.content? (sourcePath workspace source).address = some (.text text)

/-- No other source has an output where this one has. -/
def IsAlone (workspace outDir : Path) (sources : List Path) (source : Path) : Prop :=
  ∀ other ∈ sources, other ≠ source → ¬ SharesOutput workspace outDir source other

/-- A task that is right about the text of its source and about its imports, and whose outputs stand
where it has written them if no other task writes there. -/
def Task.IsSound (workspace root : Path) (settings : Settings) (sources : List Path)
    (first tree : FileTree) : Task → Prop
  | unread _ => True
  | compiled source text => HeldBefore workspace root first source text
  | writing source text imports written left =>
      let compiledSource := compileSource workspace settings source text
      HeldBefore workspace root first source text ∧
        (∃ during, FileTree.ChangesBelow root.address first during ∧
          imports = (checkImports during workspace compiledSource.placement
            (compiledSource.components.flatMap (·.imports))).result) ∧
        compiledSource.files = written ++ left ∧
        (IsAlone workspace settings.outDir sources source →
          ∀ entry ∈ written, tree.read? entry.1 = some entry.2)

theorem Task.HeldBefore.of_read? {source : Path} {text : Text} (fromRoot : (sourcePath workspace source).isAbsolute = true)
    (changes : FileTree.ChangesBelow root.address first tree)
    (read : tree.read? (sourcePath workspace source) = some text) :
    HeldBefore workspace root first source text := by
  intro outside
  rw [← changes.files _ outside]
  exact FileTree.content?_of_read? fromRoot read

theorem mem_outputs_of_files {source : Path} {text : Text} {written left : List (Path × Text)}
    (files : (compileSource workspace settings source text).files = written ++ left)
    {entry : Path × Text} (listed : entry ∈ written ++ left) :
    entry.1 ∈ (Placement.ofSource workspace settings.outDir source).outputs := by
  rw [← files] at listed
  exact exists_mem_files_iff.mp ⟨entry.2, listed⟩

/-- A task only writes to the places of the outputs of its source. -/
theorem Task.Step.tree_cases (step : Task.Step workspace settings tree task after next)
    (sound : task.IsSound workspace root settings sources first tree) :
    after = tree ∨ ∃ path ∈ (Placement.ofSource workspace settings.outDir task.source).outputs,
      ∃ content, tree.write? path (.text content) = some after := by
  cases step with
  | read => exact .inl rfl
  | look => exact .inl rfl
  | @write _ source text imports written path content left stored =>
      obtain ⟨-, -, files, -⟩ := sound
      have listed := mem_outputs_of_files files (List.mem_append_right _ List.mem_cons_self)
      exact .inr ⟨path, listed, content, FileTree.write_eq_ok_iff.mp stored⟩

variable (absolute : workspace.isAbsolute = true)
  (accepted : outputRoot? workspace settings.outDir = some root)
  {folders : List Text} {name : Text}

/-- The outputs of one source stand apart. -/
theorem address_ne_of_files {source path : Path} {text content : Text}
    {written left : List (Path × Text)} (absolute : workspace.isAbsolute = true)
    (accepted : outputRoot? workspace settings.outDir = some root)
    (isSource : source.IsSource folders name)
    (files : (compileSource workspace settings source text).files = written ++ (path, content) :: left)
    {entry : Path × Text} (before : entry ∈ written) : entry.1.address ≠ path.address := by
  have distinct := Placement.nodup_addresses_outputs absolute isSource accepted
  rw [← placement_compileSource workspace source settings text, ← CompiledSource.paths_files, files,
    List.map_append, List.map_append, List.map_cons, List.map_cons] at distinct
  intro same
  exact List.disjoint_of_nodup_append distinct (List.mem_map_of_mem (List.mem_map_of_mem before))
    (same ▸ List.mem_cons_self)

section Step

variable (isSource : task.source.IsSource folders name)
  (sound : task.IsSound workspace root settings sources first tree)
  (step : Task.Step workspace settings tree task after next)
include absolute isSource sound step

theorem Task.Step.read? {path : Path} {text : Text} (fromRoot : path.isAbsolute = true)
    (apart : ∀ other ∈ (Placement.ofSource workspace settings.outDir task.source).outputs,
      path.normalize ≠ other.normalize)
    (read : tree.read? path = some text) : after.read? path = some text := by
  rcases step.tree_cases sound with rfl | ⟨other, listed, content, stored⟩
  · exact read
  · have otherRoot := Placement.isAbsolute_outputs absolute isSource listed
    have writes := FileTree.writes_of_write? otherRoot stored
    have elsewhere := mt (normalize_eq_iff_address fromRoot otherRoot).mpr (apart other listed)
    exact FileTree.read?_of_find? (FileTree.find?_file_of_keeps fromRoot writes.directories
      ((writes.files _).trans (if_neg elsewhere)) (FileTree.find?_of_read? read))

include accepted

theorem Task.Step.changesBelow : FileTree.ChangesBelow root.address tree after := by
  rcases step.tree_cases sound with rfl | ⟨path, listed, content, stored⟩
  · exact .refl _ _
  · exact (FileTree.writes_of_write? (Placement.isAbsolute_outputs absolute isSource listed)
      stored).changesBelow (Placement.below_outputs absolute isSource accepted listed)

/-- A task stays right about itself when it goes on. -/
theorem Task.Step.isSound (changes : FileTree.ChangesBelow root.address first tree)
    (fromRoot : (sourcePath workspace task.source).isAbsolute = true) :
    next.IsSound workspace root settings sources first after := by
  cases step with
  | read found => exact Task.HeldBefore.of_read? fromRoot changes found
  | look compiles =>
      refine ⟨sound, ⟨tree, changes, ?_⟩, ?_, fun _ => List.forall_mem_nil _⟩
      · rw [compiles]
      · rw [compiles, List.nil_append]
  | @write _ source text imports written path content left stored =>
      obtain ⟨held, looked, files, stand⟩ := sound
      refine ⟨held, looked, files.trans (List.append_cons _ _ _), fun alone entry listed => ?_⟩
      have pathRoot := Placement.isAbsolute_outputs absolute isSource
        (mem_outputs_of_files files (List.mem_append_right _ List.mem_cons_self))
      have stored := FileTree.write_eq_ok_iff.mp stored
      rcases List.mem_append.mp listed with before | last
      · -- The outputs of one source stand apart, so what was written before stays.
        have entryRoot := Placement.isAbsolute_outputs absolute isSource
          (mem_outputs_of_files files (List.mem_append_left _ before))
        have apart := address_ne_of_files absolute accepted isSource files before
        have writes := FileTree.writes_of_write? pathRoot stored
        exact FileTree.read?_of_find? (FileTree.find?_file_of_keeps entryRoot writes.directories
          ((writes.files _).trans (if_neg apart)) (FileTree.find?_of_read? (stand alone entry before)))
      · rw [List.mem_singleton.mp last]
        exact FileTree.read?_of_write? pathRoot stored

omit accepted in
/-- A task stays right while another one goes on. -/
theorem Task.Step.isSound_other {other : Task} {otherFolders : List Text} {otherName : Text}
    (otherSource : other.source.IsSource otherFolders otherName)
    (listed : task.source ∈ sources) (different : task.source ≠ other.source)
    (otherSound : other.IsSound workspace root settings sources first tree) :
    other.IsSound workspace root settings sources first after := by
  cases other with
  | unread => trivial
  | compiled => exact otherSound
  | writing source text imports written left =>
      obtain ⟨held, looked, files, stand⟩ := otherSound
      refine ⟨held, looked, files, fun alone entry member => ?_⟩
      have inOutputs := mem_outputs_of_files files (List.mem_append_left left member)
      refine step.read? absolute isSource sound
        (Placement.isAbsolute_outputs absolute otherSource inOutputs) ?_ (stand alone entry member)
      intro path own same
      exact alone task.source listed different ⟨entry.1, inOutputs, path, own, same⟩

end Step

/-- A build on its way: the tasks are those of the sources, each is right, and the files outside of
the output directory are as before. -/
structure Compiling.IsSound (workspace root : Path) (settings : Settings) (sources : List Path)
    (first : FileTree) (state : Compiling) : Prop where
  same : state.tasks.map Task.source = sources
  changes : FileTree.ChangesBelow root.address first state.tree
  tasks : ∀ task ∈ state.tasks, task.IsSound workspace root settings sources first state.tree

theorem Compiling.isSound_start (tree : FileTree) (sources : List Path) :
    (Compiling.start tree sources).IsSound workspace root settings sources tree := by
  refine ⟨?_, .refl _ _, fun task listed => ?_⟩
  · rw [start, List.map_map]
    exact List.map_id sources
  · obtain ⟨source, -, rfl⟩ := List.mem_map.mp listed
    trivial

variable (distinct : sources.Nodup)
  (areSources : ∀ source ∈ sources, ∃ folders name, source.IsSource folders name)
include absolute accepted distinct areSources

theorem Compiling.Step.isSound {state next : Compiling}
    (step : Compiling.Step workspace settings state next)
    (sound : state.IsSound workspace root settings sources first) :
    next.IsSound workspace root settings sources first := by
  obtain ⟨same, changes, tasks⟩ := sound
  cases step with
  | @of_task tree after task next before behind step =>
      have listed : task ∈ before ++ task :: behind := List.mem_append_right _ List.mem_cons_self
      have inSources {other : Task} (member : other ∈ before ++ task :: behind) :
          other.source ∈ sources := same ▸ List.mem_map_of_mem member
      obtain ⟨folders, name, isSource⟩ := areSources task.source (inSources listed)
      have sound := tasks task listed
      obtain ⟨names, areNames, path⟩ : task.source.IsPlain := ⟨_, isSource.names, isSource.path⟩
      have fromRoot : (sourcePath workspace task.source).isAbsolute = true :=
        path ▸ isAbsolute_sourcePath absolute areNames
      have different := same ▸ distinct
      rw [List.map_append, List.map_cons, List.nodup_middle, ← List.map_append,
        List.nodup_cons] at different
      refine ⟨?_, changes.trans (step.changesBelow absolute accepted isSource sound), ?_⟩
      · rw [← same, List.map_append, List.map_append, List.map_cons, List.map_cons, step.source_eq]
      · have others (other : Task) (member : other ∈ before ++ behind) :
            other.IsSound workspace root settings sources first after := by
          have inState : other ∈ before ++ task :: behind := by
            rcases List.mem_append.mp member with front | rest
            · exact List.mem_append_left _ front
            · exact List.mem_append_right _ (List.mem_cons_of_mem _ rest)
          obtain ⟨_, _, otherSource⟩ := areSources other.source (inSources inState)
          refine step.isSound_other absolute isSource sound otherSource (inSources listed) ?_
            (tasks other inState)
          intro again
          exact different.1 (List.mem_map.mpr ⟨other, member, again.symm⟩)
        intro other member
        rcases List.mem_append.mp member with front | rest
        · exact others other (List.mem_append_left _ front)
        · rcases List.mem_cons.mp rest with rfl | later
          · exact step.isSound absolute accepted isSource sound changes fromRoot
          · exact others other (List.mem_append_right _ later)

theorem Compiling.Reaches.isSound {state : Compiling}
    (reaches : (Compiling.start first sources).Reaches workspace settings state) :
    state.IsSound workspace root settings sources first := by
  induction reaches with
  | refl => exact Compiling.isSound_start first sources
  | tail _ step inductionHypothesis =>
      exact Compiling.Step.isSound absolute accepted distinct areSources step inductionHypothesis

end Outputs

section Sequence

variable {workspace root source : Path} {settings : Settings} {sources : List Path}
  {tree after : FileTree} {state next : Compiling}

/-- A schedule of some tasks is one of these among others that wait. -/
theorem Compiling.Reaches.among (before behind : List Task)
    (reaches : state.Reaches workspace settings next) :
    (Compiling.mk state.tree (before ++ state.tasks ++ behind)).Reaches workspace settings
      ⟨next.tree, before ++ next.tasks ++ behind⟩ := by
  induction reaches with
  | refl => exact .refl
  | tail _ step inductionHypothesis =>
      refine inductionHypothesis.tail ?_
      cases step with
      | of_task front rest step =>
          have onward := Compiling.Step.of_task (before ++ front) (rest ++ behind) step
          simpa only [List.append_assoc, List.cons_append] using onward

/-- One task after another can be written to the end. -/
theorem Compiling.reaches_writes {text : Text} {imports : List Path}
    (written left : List (Path × Text))
    (stored : left.foldlM (fun tree entry => tree.write entry.1 entry.2) tree = .ok after) :
    (Compiling.mk tree [.writing source text imports written left]).Reaches workspace settings
      ⟨after, [.writing source text imports (written ++ left) []]⟩ := by
  induction left generalizing tree written with
  | nil =>
      obtain rfl := Except.ok.inj stored
      rw [List.append_nil]
  | cons entry left inductionHypothesis =>
      rw [List.foldlM_cons] at stored
      obtain ⟨middle, first, stored⟩ := bind_eq_ok_iff.mp stored
      have others := inductionHypothesis (written ++ [entry]) stored
      rw [← List.append_cons] at others
      exact .head (.of_task [] [] (.write first)) others

/-- The task of a component file that has been reported on. -/
def Task.ofReport (workspace : Path) (settings : Settings) (report : FileReport) : Task :=
  .writing report.path report.source report.imports
    (compileSource workspace settings report.path report.source).files []

theorem reaches_of_buildSource {report : FileReport} {log : List Text}
    (built : buildSource workspace settings tree source = .ok (report, log, after)) :
    (Compiling.start tree [source]).Reaches workspace settings
      ⟨after, [.ofReport workspace settings report]⟩ := by
  obtain ⟨rfl, read, looked, -, stored⟩ := buildSource_cases built
  rw [CompiledSource.write_eq] at stored
  have reading : Compiling.Step workspace settings ⟨tree, [.unread report.path]⟩
      ⟨tree, [.compiled report.path report.source]⟩ := .of_task [] [] (.read read)
  have looking : Compiling.Step workspace settings ⟨tree, [.compiled report.path report.source]⟩
      ⟨tree, [.writing report.path report.source report.imports []
        (compileSource workspace settings report.path report.source).files]⟩ := by
    rw [looked]
    exact .of_task [] [] (.look rfl)
  exact .head reading (.head looking (Compiling.reaches_writes [] _ stored))

/-- Compiling the component files one after the other is a schedule. -/
theorem reaches_of_buildSources {reports : List FileReport} {log : List Text}
    (built : buildSources workspace settings tree sources = .ok (reports, log, after)) :
    (Compiling.start tree sources).Reaches workspace settings
      ⟨after, reports.map (Task.ofReport workspace settings)⟩ := by
  induction sources generalizing tree reports log with
  | nil =>
      cases built
      exact .refl
  | cons source rest inductionHypothesis =>
      obtain ⟨report, others, early, late, between, first, more, rfl⟩ := buildSources_cons built
      have start := Compiling.Reaches.among [] (rest.map .unread) (reaches_of_buildSource first)
      have finish := Compiling.Reaches.among [.ofReport workspace settings report] []
        (inductionHypothesis more)
      rw [List.append_nil, List.append_nil] at finish
      exact start.trans finish

theorem isFinished_ofReports (workspace : Path) (settings : Settings) (tree : FileTree)
    (reports : List FileReport) :
    (Compiling.mk tree (reports.map (Task.ofReport workspace settings))).IsFinished := by
  intro task member
  obtain ⟨report, -, rfl⟩ := List.mem_map.mp member
  trivial

/-- Compiling a workspace is a schedule, and then copying the files that are imported. -/
theorem exists_compiling_of_compileWorkspace {reports : List FileReport} {log : List Text}
    (accepted : outputRoot? workspace settings.outDir = some root)
    (ran : compileWorkspace workspace settings tree sources = .ok (reports, log, after)) :
    ∃ state late, (Compiling.start tree sources).Reaches workspace settings state ∧
      state.IsFinished ∧ state.tasks = reports.map (Task.ofReport workspace settings) ∧
      copyImports workspace root (sources.map fun source => source.withExtension "css".toList)
        (state.tasks.flatMap Task.imports) state.tree = .ok (after, late) := by
  obtain ⟨outputs, early, late, built, same, compiled, copied⟩ := compileWorkspace_cases ran
  obtain rfl := Option.some.inj (accepted.symm.trans same)
  have reaches := reaches_of_buildSources compiled
  have same := Compiling.Reaches.sources_eq reaches
  rw [Compiling.start, List.map_map, List.map_map] at same
  have paths : reports.map (·.path) = sources := same.trans (List.map_id sources)
  refine ⟨_, late, reaches, isFinished_ofReports workspace settings built reports, rfl, ?_⟩
  rw [List.flatMap_map, ← paths, List.map_map]
  exact copied

end Sequence

section Kept

variable {workspace root source : Path} {settings : Settings} {sources visited : List Path}
  {first : FileTree} {state : Compiling} {last : Copying}

/-- The imports that tasks have looked for are plain paths. -/
theorem Compiling.IsSound.isPlain_imports (absolute : workspace.isAbsolute = true)
    (sound : state.IsSound workspace root settings sources first) :
    ∀ file ∈ (state.tasks.flatMap Task.imports).reverse, file.IsPlain := by
  intro file asked
  obtain ⟨task, member, looked⟩ := List.mem_flatMap.mp (List.mem_reverse.mp asked)
  have right := sound.tasks task member
  cases task with
  | unread | compiled => cases looked
  | writing source text imports written left =>
      obtain ⟨-, ⟨during, -, same⟩, -⟩ := right
      change file ∈ imports at looked
      rw [same] at looked
      obtain ⟨i, -, resolved, -, -, inside⟩ := mem_checkImports_iff.mp looked
      exact isPlain_of_workspaceFile? absolute inside

/-- A file is only copied over an output if it is named like it. -/
theorem address_ne_of_copied {folders : List Text} {name : Text} {file path : Path}
    (absolute : workspace.isAbsolute = true)
    (accepted : outputRoot? workspace settings.outDir = some root)
    (isSource : source.IsSource folders name) (plain : file.IsPlain)
    (isOutput : path ∈ (Placement.ofSource workspace settings.outDir source).outputs)
    (other : ∀ ext ∈ outputExtensions, file ≠ source.withExtension ext) :
    path.address ≠ (root.join file).address := by
  intro same
  obtain ⟨ext, listed, place⟩ :=
    (Placement.exists_output_iff absolute isSource accepted).mp ⟨path, isOutput, same⟩
  obtain ⟨names, proper, rfl⟩ := plain
  rw [address_join_ofNames (isAbsolute_outputRoot absolute accepted) proper,
    List.append_cancel_left_eq] at place
  exact other ext listed (by rw [isSource.withExtension_eq, place])

/-- Two component files have an output in common just when they have the same stem in the same
folder. Whatever the schedule, the outputs of a file without such a companion hold in the end what
its text is compiled to, unless an imported file is copied over its template or its selectors. -/
theorem Compiling.outputs_of_finished (absolute : workspace.isAbsolute = true)
    (proper : first.IsProper) (found : findSources first workspace settings = .ok sources)
    (accepted : outputRoot? workspace settings.outDir = some root)
    (reaches : (Compiling.start first sources).Reaches workspace settings state)
    (finished : state.IsFinished)
    (copies : Copying.Copies workspace root (sources.map fun source => source.withExtension "css".toList)
      ⟨state.tree, [], (state.tasks.flatMap Task.imports).reverse, []⟩ visited last)
    (listed : source ∈ sources) :
    (∀ other ∈ sources,
      SharesOutput workspace settings.outDir source other ↔ source.HasSameStem other) ∧
    ((∀ other ∈ sources, other ≠ source → ¬ source.HasSameStem other) →
      (∀ file ∈ visited, ∀ ext ∈ ["html".toList, "selectors.json".toList],
        file ≠ source.withExtension ext) →
      ∃ text, Task.HeldBefore workspace root first source text ∧
        ∀ entry ∈ (compileSource workspace settings source text).files,
          last.tree.read? entry.1 = some entry.2) := by
  obtain ⟨distinct, plain⟩ := findSources_distinct proper absolute found
  have areSources : ∀ source ∈ sources, ∃ folders name, source.IsSource folders name :=
    fun source listed => isSource_of_finished absolute reaches finished listed (plain source listed)
  have fromRoot := isAbsolute_outputRoot absolute accepted
  obtain ⟨folders, name, isSource⟩ := areSources source listed
  have shares : ∀ other ∈ sources,
      SharesOutput workspace settings.outDir source other ↔ source.HasSameStem other := by
    intro other member
    obtain ⟨otherFolders, otherName, otherSource⟩ := areSources other member
    exact sharesOutput_iff_hasSameStem absolute accepted isSource otherSource
  refine ⟨shares, fun lonely spared => ?_⟩
  have sound := Reaches.isSound absolute accepted distinct areSources reaches
  obtain ⟨task, member, rfl⟩ := List.mem_map.mp (sound.same ▸ listed)
  have right := sound.tasks task member
  have done := finished task member
  cases task with
  | unread | compiled => exact done.elim
  | writing source text imports written left =>
      cases left with
      | cons => exact done.elim
      | nil =>
          obtain ⟨held, -, files, stand⟩ := right
          rw [List.append_nil] at files
          have alone : IsAlone workspace settings.outDir sources source :=
            fun other member different meet =>
              lonely other member different ((shares other member).mp meet)
          refine ⟨text, held, fun entry output => ?_⟩
          have isOutput := exists_mem_files_iff.mp ⟨entry.2, output⟩
          refine copies.read? fromRoot (Placement.isAbsolute_outputs absolute isSource isOutput)
            (fun file visit fresh => ?_) (stand alone entry (files ▸ output))
          have filePlain := (copies.changesBelow absolute fromRoot
            (sound.isPlain_imports absolute)).1 file visit
          refine address_ne_of_copied absolute accepted isSource filePlain isOutput ?_
          intro ext isExtension same
          simp only [outputExtensions, List.mem_cons, List.not_mem_nil, or_false] at isExtension
          rcases isExtension with rfl | rfl | rfl
          · exact spared file visit _ List.mem_cons_self same
          · exact fresh (same ▸ List.mem_map_of_mem listed)
          · exact spared file visit _ (List.mem_cons_of_mem _ List.mem_cons_self) same

theorem Compiling.outputs_of_finished_build :
    let workspace : Path := ⟨"/ws".toList⟩
    let settings := Settings.ofArguments {} {}
    let source : Path := ⟨"x.html".toList⟩
    ∃ state : Compiling, (Compiling.start builtWorkspace [source]).Reaches workspace settings state ∧
      state.IsFinished ∧ ∃ text, ∀ entry ∈ (compileSource workspace settings source text).files,
        state.tree.read? entry.1 = some entry.2 := by
  intro workspace settings source
  have proper : builtWorkspace.IsProper := ⟨by decide +kernel, by decide +kernel⟩
  have found : findSources builtWorkspace workspace settings = .ok [source] := by decide +kernel
  have accepted : outputRoot? workspace settings.outDir = some ⟨"/ws/build".toList⟩ := by
    decide +kernel
  have builds : (buildSources workspace settings builtWorkspace [source]).isOk = true := by
    decide +kernel
  cases built : buildSources workspace settings builtWorkspace [source] with
  | error fault =>
      rw [built] at builds
      cases builds
  | ok result =>
      have reaches := reaches_of_buildSources built
      have finished := isFinished_ofReports workspace settings result.2.2 result.1
      refine ⟨_, reaches, finished, ?_⟩
      obtain ⟨-, kept⟩ := outputs_of_finished rfl proper found accepted reaches finished (.stop _)
        List.mem_cons_self
      obtain ⟨text, -, stand⟩ := kept
        (fun other member different => absurd (List.mem_singleton.mp member) different)
        (List.forall_mem_nil _)
      exact ⟨text, stand⟩

/-- A workspace where one component file imports another one as a stylesheet. -/
def importingWorkspace : FileTree :=
  .directory [("ws".toList, .directory [
    ("a.html".toList,
      .file (.text "<element name=\"x-a\"><style>@import \"b.html\";</style></element>".toList)),
    ("b.html".toList, .file (.text "<element name=\"x-b\"><style></style></element>".toList))])]

/-- The imported component file itself is copied over the template that it was compiled to. -/
theorem not_outputs_kept_importedTemplate :
    let workspace : Path := ⟨"/ws".toList⟩
    let settings := Settings.ofArguments {} {}
    let source : Path := ⟨"b.html".toList⟩
    let text := "<element name=\"x-b\"><style></style></element>".toList
    let template : Path := ⟨"/ws/build/b.html".toList⟩
    importingWorkspace.read? (workspace.join source) = some text ∧
      (template, "<element name=\"x-b\"></element>".toList) ∈
        (compileSource workspace settings source text).files ∧
      ((compileWorkspace workspace settings importingWorkspace
        [⟨"a.html".toList⟩, source]).toOption.bind fun result => result.2.2.read? template) =
          some text := by
  refine ⟨by decide +kernel, by decide +kernel, by decide +kernel⟩

end Kept

end ComponentStyles
