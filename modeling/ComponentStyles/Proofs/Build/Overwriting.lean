import ComponentStyles.Proofs.Build.Schedule

/-!
# Copying over outputs

A file is copied to the place of an output only if it is named like that output, and a stylesheet
that a component file is compiled to is never copied over. So an output is overwritten just when a
file with the name of the template or of the selectors is imported and holds something else on its
turn.
-/

namespace ComponentStyles

open ComponentStyles.Path

namespace Copying

variable {workspace root file : Path} {compiled before behind visited : List Path}
  {start last : Copying}

theorem Copies.append_iff : Copies workspace root compiled start (before ++ behind) last ↔
    ∃ during, Copies workspace root compiled start before during ∧
      Copies workspace root compiled during behind last := by
  constructor
  · intro copies
    induction before generalizing start with
    | nil => exact ⟨start, .stop start, copies⟩
    | cons path before inductionHypothesis =>
        cases copies with
        | next first copied others =>
            obtain ⟨during, front, rest⟩ := inductionHypothesis others
            exact ⟨during, .next first copied front, rest⟩
  · rintro ⟨during, front, rest⟩
    induction front with
    | stop state => exact rest
    | next first copied others inductionHypothesis =>
        exact .next first copied (inductionHypothesis rest)

/-- What is visited leaves no choice. -/
theorem Copies.functional {other : Copying}
    (copies : Copies workspace root compiled start visited last)
    (again : Copies workspace root compiled start visited other) : last = other := by
  induction copies with
  | stop state =>
      cases again
      rfl
  | next first copied others inductionHypothesis =>
      cases again with
      | next firstAgain copiedAgain othersAgain =>
          rw [first] at firstAgain
          cases firstAgain
          rw [copied] at copiedAgain
          cases copiedAgain
          apply inductionHypothesis othersAgain

/-- A file is copied with the text that it holds on its turn. -/
def CopiedAs (workspace root : Path) (compiled : List Path) (start : Copying) (visited : List Path)
    (file : Path) (text : Text) : Prop :=
  ∃ before behind during, visited = before ++ file :: behind ∧
    Copies workspace root compiled start before during ∧
    during.tree.read? (workspace.join file) = some text

theorem exists_copiedAs (copies : Copies workspace root compiled start visited last)
    (fresh : file ∉ compiled) (visit : file ∈ visited) :
    ∃ text, CopiedAs workspace root compiled start visited file text := by
  obtain ⟨before, behind, rfl⟩ := List.append_of_mem visit
  obtain ⟨during, front, rest⟩ := Copies.append_iff.mp copies
  cases rest with
  | next first copied others =>
      rcases (copy_cases copied).2 with ⟨listed, -⟩ | ⟨-, text, held, -⟩
      · exact absurd listed fresh
      · exact ⟨text, before, behind, during, rfl, front, held⟩

section Output

variable {other : Path} {old text : Text} (absolute : workspace.isAbsolute = true)
  (fromRoot : root.isAbsolute = true) (copies : Copies workspace root compiled start visited last)
  (plain : ∀ path ∈ start.pending, path.IsPlain) (otherRoot : other.isAbsolute = true)
  (place : other.address = (root.join file).address) (read : start.tree.read? other = some old)
include absolute fromRoot copies plain otherRoot place read

/-- Where a file is copied to is read in the end what the file held on its turn. -/
theorem CopiedAs.read?_last (fresh : file ∉ compiled)
    (taken : CopiedAs workspace root compiled start visited file text) :
    last.tree.read? other = some text := by
  obtain ⟨before, behind, during, rfl, front, held⟩ := taken
  obtain ⟨again, sameFront, rest⟩ := Copies.append_iff.mp copies
  obtain rfl := front.functional sameFront
  have distinct := (copies.nodup).1
  have arePlain := (copies.changesBelow absolute fromRoot plain).1
  have filePlain : file.IsPlain := arePlain file (by simp)
  -- All that is visited is plain and different, so no other visited file goes to that place.
  have apart : ∀ path ∈ before ++ file :: behind, path ≠ file →
      other.address ≠ (root.join path).address := by
    intro path visit different same
    rw [place] at same
    exact different ((arePlain path visit).eq_of_address filePlain fromRoot same.symm)
  rw [List.nodup_append, List.nodup_cons] at distinct
  obtain ⟨-, ⟨notBehind, -⟩, notBefore⟩ := distinct
  have stands : during.tree.read? other = some old := by
    apply front.read? fromRoot otherRoot _ read
    intro path visit _
    apply apart path (by simp [visit])
    rintro rfl
    exact notBefore path visit path (by simp) rfl
  cases rest with
  | next first copied others =>
      apply others.read? fromRoot otherRoot
      · intro path visit _
        apply apart path (by simp [visit])
        rintro rfl
        exact notBehind visit
      · rcases (copy_cases copied).2 with ⟨listed, -⟩ | ⟨-, copy, copyRead, written, -⟩
        · exact absurd listed fresh
        · change during.tree.read? (workspace.join file) = some copy at copyRead
          change during.tree.write? (root.join file) (.text copy) = some _ at written
          rw [held] at copyRead
          cases copyRead
          apply FileTree.read?_of_write?_alike (isAbsolute_join_of_isAbsolute fromRoot file)
            otherRoot place stands written

/-- What stands where a file would be copied to is left as it is if the file is not copied, and else
just when the file holds the same. -/
theorem Copies.keeps_iff (filePlain : file.IsPlain) : last.tree.read? other = some old ↔
    file ∈ compiled ∨
      ∀ text, CopiedAs workspace root compiled start visited file text → text = old := by
  by_cases taken : file ∈ visited ∧ file ∉ compiled
  · obtain ⟨visit, fresh⟩ := taken
    obtain ⟨text, copiedAs⟩ := exists_copiedAs copies fresh visit
    have lastRead {text : Text}
        (copiedAs : CopiedAs workspace root compiled start visited file text) :
        last.tree.read? other = some text :=
      copiedAs.read?_last absolute fromRoot copies plain otherRoot place read fresh
    constructor
    · intro kept
      right
      intro text copiedAs
      rw [lastRead copiedAs] at kept
      exact Option.some.inj kept
    · rintro (listed | alike)
      · exact absurd listed fresh
      · rw [lastRead copiedAs, alike text copiedAs]
  · have kept : last.tree.read? other = some old := by
      apply copies.read? fromRoot otherRoot _ read
      intro path visit fresh same
      have pathPlain := (copies.changesBelow absolute fromRoot plain).1 path visit
      have named := filePlain.eq_of_address pathPlain fromRoot (place.symm.trans same)
      exact taken ⟨named ▸ visit, named ▸ fresh⟩
    apply iff_of_true kept
    by_cases listed : file ∈ compiled
    · exact .inl listed
    · right
      rintro text ⟨before, behind, during, rfl, -⟩
      exact absurd ⟨by simp, listed⟩ taken

end Output

end Copying

section Written

variable {workspace root : Path} {settings : Settings} {sources : List Path}
  {first tree after : FileTree} {state next : Compiling} {task nextTask : Task}

/-- The outputs that a task has written. -/
def Task.written : Task → List (Path × Text)
  | writing _ _ _ written _ => written
  | _ => []

theorem Task.Step.written_cases (step : Task.Step workspace settings tree task after nextTask) :
    after = tree ∧ nextTask.written = task.written ∨
      ∃ path content, tree.write? path (.text content) = some after ∧
        nextTask.written = task.written ++ [(path, content)] := by
  cases step with
  | read found => exact .inl ⟨rfl, rfl⟩
  | look compiles => exact .inl ⟨rfl, rfl⟩
  | write stored => exact .inr ⟨_, _, FileTree.write_eq_ok_iff.mp stored, rfl⟩

/-- At the place of each output that has been written, the file tree holds one of those that have
been written there. -/
def Compiling.HoldsWritten (state : Compiling) : Prop :=
  ∀ entry ∈ state.tasks.flatMap Task.written, ∃ other ∈ state.tasks.flatMap Task.written,
    other.1.address = entry.1.address ∧ state.tree.read? entry.1 = some other.2

theorem Compiling.Step.holdsWritten (step : Compiling.Step workspace settings state next)
    (absolute : ∀ entry ∈ next.tasks.flatMap Task.written, entry.1.isAbsolute = true)
    (holds : state.HoldsWritten) : next.HoldsWritten := by
  cases step with
  | @of_task tree after task nextTask before behind step =>
      unfold HoldsWritten at holds ⊢
      simp only [List.flatMap_append, List.flatMap_cons] at absolute holds ⊢
      rcases step.written_cases with ⟨rfl, same⟩ | ⟨path, content, stored, more⟩
      · rwa [same]
      · rw [more] at absolute ⊢
        have mem_iff (entry : Path × Text) :
            entry ∈ before.flatMap Task.written ++
                ((task.written ++ [(path, content)]) ++ behind.flatMap Task.written) ↔
              entry ∈ before.flatMap Task.written ++
                (task.written ++ behind.flatMap Task.written) ∨ entry = (path, content) := by
          simp only [List.mem_append, List.mem_singleton]
          tauto
        have pathRoot : path.isAbsolute = true := absolute (path, content) (by simp)
        have writes := FileTree.writes_of_write? pathRoot stored
        intro entry listed
        have entryRoot := absolute entry listed
        rcases (mem_iff entry).mp listed with earlier | rfl
        · obtain ⟨other, otherListed, place, stands⟩ := holds entry earlier
          by_cases same : entry.1.address = path.address
          · refine ⟨(path, content), (mem_iff _).mpr (.inr rfl), same.symm, ?_⟩
            apply FileTree.read?_of_write?_alike pathRoot entryRoot same stands stored
          · refine ⟨other, (mem_iff _).mpr (.inl otherListed), place, ?_⟩
            apply FileTree.read?_of_find?
            apply FileTree.find?_file_of_keeps entryRoot writes.directories
            · rw [writes.files, if_neg same]
            · exact FileTree.find?_of_read? stands
        · exact ⟨_, (mem_iff _).mpr (.inr rfl), rfl, FileTree.read?_of_write? pathRoot stored⟩

theorem Task.IsSound.written_subset
    (sound : task.IsSound workspace root settings sources first tree) :
    ∀ entry ∈ task.written,
      entry.1 ∈ (Placement.ofSource workspace settings.outDir task.source).outputs := by
  intro entry listed
  cases task with
  | unread | compiled => cases listed
  | writing source text imports written left =>
      obtain ⟨-, -, files, -⟩ := sound
      apply mem_outputs_of_files files (List.mem_append_left left listed)

section Finished

variable (absolute : workspace.isAbsolute = true)
  (accepted : outputRoot? workspace settings.outDir = some root) (distinct : sources.Nodup)
  (areSources : ∀ source ∈ sources, ∃ folders name, source.IsSource folders name)
  (reaches : (Compiling.start first sources).Reaches workspace settings state)
include absolute accepted distinct areSources reaches

theorem Compiling.Reaches.isAbsolute_written :
    ∀ entry ∈ state.tasks.flatMap Task.written, entry.1.isAbsolute = true := by
  have sound := Compiling.Reaches.isSound absolute accepted distinct areSources reaches
  intro entry listed
  obtain ⟨task, member, written⟩ := List.mem_flatMap.mp listed
  obtain ⟨folders, name, isSource⟩ :=
    areSources task.source (sound.same ▸ List.mem_map_of_mem member)
  exact Placement.isAbsolute_outputs absolute isSource
    ((sound.tasks task member).written_subset entry written)

theorem Compiling.Reaches.holdsWritten : state.HoldsWritten := by
  have all := reaches
  induction reaches with
  | refl =>
      intro entry listed
      simp [start, Task.written] at listed
  | tail reaches step inductionHypothesis =>
      apply step.holdsWritten _ (inductionHypothesis reaches)
      apply Compiling.Reaches.isAbsolute_written absolute accepted distinct areSources all

/-- Once all is compiled, each output holds what some component file was compiled to. -/
theorem Compiling.Reaches.exists_output (finished : state.IsFinished) {source path : Path}
    (listed : source ∈ sources)
    (isOutput : path ∈ (Placement.ofSource workspace settings.outDir source).outputs) :
    ∃ other ∈ sources, ∃ text, Task.HeldBefore workspace root first other text ∧
      ∃ entry ∈ (compileSource workspace settings other text).files,
        entry.1.address = path.address ∧ state.tree.read? path = some entry.2 := by
  have sound := Compiling.Reaches.isSound absolute accepted distinct areSources reaches
  have holds := Compiling.Reaches.holdsWritten absolute accepted distinct areSources reaches
  -- A finished task has written all that its source is compiled to.
  have whole : ∀ task ∈ state.tasks, ∃ text, Task.HeldBefore workspace root first task.source text ∧
      task.written = (compileSource workspace settings task.source text).files := by
    intro task member
    have right := sound.tasks task member
    have done := finished task member
    cases task with
    | unread | compiled => exact done.elim
    | writing source text imports written left =>
        cases left with
        | cons => exact done.elim
        | nil =>
            obtain ⟨held, -, files, -⟩ := right
            rw [List.append_nil] at files
            exact ⟨text, held, files.symm⟩
  obtain ⟨task, member, rfl⟩ := List.mem_map.mp (sound.same ▸ listed)
  obtain ⟨text, -, all⟩ := whole task member
  obtain ⟨content, written⟩ := exists_mem_files_iff.mpr isOutput
  obtain ⟨entry, entryListed, place, stands⟩ :=
    holds (path, content) (List.mem_flatMap.mpr ⟨task, member, all ▸ written⟩)
  obtain ⟨other, otherMember, entryWritten⟩ := List.mem_flatMap.mp entryListed
  obtain ⟨otherText, held, otherAll⟩ := whole other otherMember
  refine ⟨other.source, sound.same ▸ List.mem_map_of_mem otherMember, otherText, held, entry, ?_,
    place, stands⟩
  rw [← otherAll]
  exact entryWritten

end Finished

end Written

section Named

variable {workspace root source path : Path} {folders : List Text} {name ext : Text}

theorem Path.IsSource.isName_output (isSource : source.IsSource folders name)
    (listed : ext ∈ outputExtensions) :
    ∀ other ∈ folders ++ [outputName name ext], IsName other := by
  intro other member
  rcases List.mem_append.mp member with folder | last
  · exact isSource.names other (List.mem_append_left _ folder)
  · rw [List.mem_singleton.mp last]
    exact isName_outputName isSource.isName (isExtension_of_output listed)

theorem Path.IsSource.isPlain_withExtension (isSource : source.IsSource folders name)
    (listed : ext ∈ outputExtensions) : (source.withExtension ext).IsPlain :=
  ⟨_, isSource.isName_output listed, isSource.withExtension_eq⟩

theorem Path.IsSource.eq_of_withExtension {other : Path} {otherFolders : List Text}
    {otherName otherExt : Text} (isSource : source.IsSource folders name)
    (otherSource : other.IsSource otherFolders otherName) (listed : ext ∈ outputExtensions)
    (otherListed : otherExt ∈ outputExtensions)
    (same : source.withExtension ext = other.withExtension otherExt) : ext = otherExt := by
  have named := isSource.named_withExtension (isExtension_of_output listed)
  rw [same, otherSource.named_withExtension (isExtension_of_output otherListed)] at named
  have injective : Function.Injective Component.name := fun _ _ => Component.name.inj
  have rows := injective.list_map named
  have last := (List.append_inj' rows rfl).2
  exact ((outputName_eq_iff otherListed listed).mp (List.singleton_inj.mp last)).2.symm

/-- Of the outputs of a source, only the stylesheet is among all stylesheets. -/
theorem Path.IsSource.mem_sheets_iff {sources : List Path} (isSource : source.IsSource folders name)
    (areSources : ∀ source ∈ sources, ∃ folders name, source.IsSource folders name)
    (listed : source ∈ sources) (extListed : ext ∈ outputExtensions) :
    (source.withExtension ext ∈ sources.map fun source => source.withExtension "css".toList) ↔
      ext = "css".toList := by
  constructor
  · intro member
    obtain ⟨sheetSource, sheetListed, same⟩ := List.mem_map.mp member
    obtain ⟨sheetFolders, sheetName, isSheet⟩ := areSources sheetSource sheetListed
    exact (isSheet.eq_of_withExtension isSource (by decide) extListed same).symm
  · rintro rfl
    exact List.mem_map_of_mem listed

theorem Placement.exists_extension (absolute : workspace.isAbsolute = true) {outDir : Path}
    (accepted : outputRoot? workspace outDir = some root) (isSource : source.IsSource folders name)
    (isOutput : path ∈ (ofSource workspace outDir source).outputs) :
    ∃ ext ∈ outputExtensions, path.address = (root.join (source.withExtension ext)).address := by
  obtain ⟨ext, listed, place⟩ :=
    (exists_output_iff absolute isSource accepted).mp ⟨path, isOutput, rfl⟩
  refine ⟨ext, listed, ?_⟩
  rw [isSource.withExtension_eq, address_join_ofNames (isAbsolute_outputRoot absolute accepted)
    (isSource.isName_output listed), place]

end Named

section Copied

variable {workspace root : Path} {settings : Settings} {sources : List Path}
  {first after : FileTree} {state : Compiling} {log : List Text}

/-- Once all is compiled, each output holds what some component file was compiled to. Copying the
imported files never changes a stylesheet of these, and it changes a template or its selectors just
when a file that is named like it is copied and holds something else on its turn. -/
theorem Compiling.copying_keeps_output_iff (absolute : workspace.isAbsolute = true)
    (proper : first.IsProper) (found : findSources first workspace settings = .ok sources)
    (accepted : outputRoot? workspace settings.outDir = some root)
    (reaches : (Compiling.start first sources).Reaches workspace settings state)
    (finished : state.IsFinished)
    (copied : copyImports workspace root
      (sources.map fun source => source.withExtension "css".toList)
      (state.tasks.flatMap Task.imports) state.tree = .ok (after, log)) :
    let compiled := sources.map fun source => source.withExtension "css".toList
    let start : Copying := ⟨state.tree, [], (state.tasks.flatMap Task.imports).reverse, []⟩
    ∃ visited last, Copying.Copies workspace root compiled start visited last ∧ last.tree = after ∧
      ∀ source ∈ sources, ∀ path ∈ (Placement.ofSource workspace settings.outDir source).outputs,
        ∃ other ∈ sources, ∃ text, Task.HeldBefore workspace root first other text ∧
        ∃ entry ∈ (compileSource workspace settings other text).files,
          entry.1.address = path.address ∧ state.tree.read? path = some entry.2 ∧
          ∃ ext ∈ outputExtensions, path.address = (root.join (source.withExtension ext)).address ∧
            (after.read? path = some entry.2 ↔ ext = "css".toList ∨
              ∀ copy, Copying.CopiedAs workspace root compiled start visited
                (source.withExtension ext) copy → copy = entry.2) := by
  intro compiled start
  obtain ⟨distinct, plain⟩ := findSources_distinct proper absolute found
  have areSources : ∀ source ∈ sources, ∃ folders name, source.IsSource folders name :=
    fun source listed => isSource_of_finished absolute reaches finished listed (plain source listed)
  have fromRoot := isAbsolute_outputRoot absolute accepted
  have sound := Reaches.isSound absolute accepted distinct areSources reaches
  have importsPlain := sound.isPlain_imports absolute
  obtain ⟨visited, last, copies, rfl, -⟩ := Copying.exists_copies_of_copyImports copied
  refine ⟨visited, last, copies, rfl, ?_⟩
  intro source listed path isOutput
  obtain ⟨folders, name, isSource⟩ := areSources source listed
  obtain ⟨other, otherListed, text, held, entry, written, place, stands⟩ :=
    Reaches.exists_output absolute accepted distinct areSources reaches finished listed isOutput
  obtain ⟨ext, extListed, lands⟩ := Placement.exists_extension absolute accepted isSource isOutput
  refine ⟨other, otherListed, text, held, entry, written, place, stands, ext, extListed, lands, ?_⟩
  have pathRoot := Placement.isAbsolute_outputs absolute isSource isOutput
  have filePlain := isSource.isPlain_withExtension extListed
  rw [copies.keeps_iff absolute fromRoot importsPlain pathRoot lands stands filePlain,
    isSource.mem_sheets_iff areSources listed extListed]

/-- A component file that imports a file with the name of its own selectors. -/
def selectorsWorkspace : FileTree :=
  .directory [("ws".toList, .directory [
    ("x.html".toList, .file (.text
      "<element name=\"x-a\"><style>@import \"x.selectors.json\";</style></element>".toList)),
    ("x.selectors.json".toList, .file (.text "none".toList))])]

theorem Compiling.copying_keeps_output_iff_selectors :
    let workspace : Path := ⟨"/ws".toList⟩
    let settings := Settings.ofArguments {} {}
    ∃ (state : Compiling) (after : FileTree) (log : List Text) (content : Text),
      (Compiling.start selectorsWorkspace [⟨"x.html".toList⟩]).Reaches workspace settings state ∧
      copyImports workspace ⟨"/ws/build".toList⟩
        ([(⟨"x.html".toList⟩ : Path)].map fun source => source.withExtension "css".toList)
        (state.tasks.flatMap Task.imports) state.tree = .ok (after, log) ∧
      state.tree.read? ⟨"/ws/build/x.css".toList⟩ = some content ∧
      after.read? ⟨"/ws/build/x.css".toList⟩ = some content := by
  intro workspace settings
  have proper : selectorsWorkspace.IsProper := ⟨by decide +kernel, by decide +kernel⟩
  have found : findSources selectorsWorkspace workspace settings = .ok [⟨"x.html".toList⟩] := by
    decide +kernel
  have accepted : outputRoot? workspace settings.outDir = some ⟨"/ws/build".toList⟩ := by
    decide +kernel
  have builds : (compileWorkspace workspace settings selectorsWorkspace
      [⟨"x.html".toList⟩]).isOk = true := by
    decide +kernel
  have isOutput : (⟨"/ws/build/x.css".toList⟩ : Path) ∈
      (Placement.ofSource workspace settings.outDir ⟨"x.html".toList⟩).outputs := by
    decide +kernel
  have elsewhere : ∀ ext ∈ outputExtensions, (⟨"/ws/build/x.css".toList⟩ : Path).address =
      (Path.join ⟨"/ws/build".toList⟩ (Path.withExtension ⟨"x.html".toList⟩ ext)).address →
        ext = "css".toList := by
    decide +kernel
  cases ran : compileWorkspace workspace settings selectorsWorkspace [⟨"x.html".toList⟩] with
  | error fault =>
      rw [ran] at builds
      cases builds
  | ok result =>
      obtain ⟨state, log, reaches, finished, -, copied⟩ :=
        exists_compiling_of_compileWorkspace accepted ran
      obtain ⟨visited, last, -, -, kept⟩ :=
        copying_keeps_output_iff rfl proper found accepted reaches finished copied
      obtain ⟨other, -, text, -, entry, -, -, stands, ext, listed, lands, kept_iff⟩ :=
        kept _ List.mem_cons_self _ isOutput
      have sheet := elsewhere ext listed lands
      exact ⟨state, result.2.2, log, entry.2, reaches, copied, stands, kept_iff.mpr (.inl sheet)⟩

/-- The imported file is copied over the selectors that the component file was compiled to. -/
theorem not_copying_keeps_output_selectors :
    let workspace : Path := ⟨"/ws".toList⟩
    let settings := Settings.ofArguments {} {}
    let source : Path := ⟨"x.html".toList⟩
    let text :=
      "<element name=\"x-a\"><style>@import \"x.selectors.json\";</style></element>".toList
    let selectors : Path := ⟨"/ws/build/x.selectors.json".toList⟩
    selectorsWorkspace.read? (workspace.join source) = some text ∧
      (selectors, "\x7b\n  \"x-a\": \x7b\x7d\n\x7d".toList) ∈
        (compileSource workspace settings source text).files ∧
      ((compileWorkspace workspace settings selectorsWorkspace [source]).toOption.bind fun result =>
        result.2.2.read? selectors) = some "none".toList := by
  refine ⟨by decide +kernel, by decide +kernel, by decide +kernel⟩

end Copied

end ComponentStyles
