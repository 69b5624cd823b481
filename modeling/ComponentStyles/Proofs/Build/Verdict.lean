import ComponentStyles.Proofs.Build.Run
import ComponentStyles.Proofs.Component.Located

/-!
# The verdict of a build

Every message is raised as a warning, and a build that fails on warnings makes errors of all of them
before anything is shown. So what is shown decides how a report looks, but not whether the build has
failed: it fails when it shall fail on warnings and some message was raised.
-/

namespace ComponentStyles

section Severities

variable {message : Message}

theorem Component.severity_of_mem_ofChildren {file : File} {tag : Text} {children : List Node}
    {span : Span} (raised : message ∈ (Component.ofChildren file tag children span).2) :
    message.severity = .warning := by
  obtain ⟨parsed, -, listed⟩ := List.mem_flatMap.mp raised
  obtain ⟨e, -, rfl⟩ := List.mem_map.mp listed
  rfl

theorem Component.severity_of_mem_compile {component : Component} {options : CompileOptions}
    {places : Places} (raised : message ∈ (component.compile options places).messages) :
    message.severity = .warning := by
  rcases Component.mem_messages_compile_cases raised with ⟨_, _, rfl⟩ | ⟨_, _, unfit⟩
  · rfl
  · rcases Stylesheet.mem_variableMessages_cases unfit with ⟨_, _, rfl⟩ | ⟨_, _, _, _, rfl⟩ <;> rfl

theorem Template.severity_of_mem_compile {template : Template} {options : CompileOptions}
    {places : Places} (raised : message ∈ (template.compile options places).2.messages) :
    message.severity = .warning := by
  rw [Template.messages_compile] at raised
  obtain ⟨entry, found, raised⟩ := List.mem_flatMap.mp raised
  rw [componentsOf_eq] at found
  obtain ⟨definition, -, taken⟩ := List.mem_filterMap.mp found
  obtain ⟨tag, -, rfl⟩ := Option.map_eq_some_iff.mp taken
  rcases List.mem_append.mp raised with warned | compiled
  · exact Component.severity_of_mem_ofChildren warned
  · exact Component.severity_of_mem_compile compiled

theorem severity_of_mem_compileSource {workspace source : Path} {settings : Settings} {text : Text}
    (raised : message ∈ (compileSource workspace settings source text).messages) :
    message.severity = .warning := by
  rcases List.mem_append.mp raised with unread | compiled
  · obtain ⟨e, -, rfl⟩ := List.mem_map.mp unread
    rfl
  · exact Template.severity_of_mem_compile compiled

theorem severity_of_mem_checkImports {tree : FileTree} {workspace : Path} {placement : Placement}
    {imports : List Import}
    (raised : message ∈ (checkImports tree workspace placement imports).messages) :
    message.severity = .warning := by
  obtain ⟨outcome, listed, raised⟩ := List.mem_flatMap.mp raised
  obtain ⟨i, -, rfl⟩ := List.mem_map.mp listed
  unfold checkImport at raised
  cases resolves : i.resolved with
  | none => simp [resolves] at raised
  | some resolved =>
      simp only [resolves] at raised
      split at raised
      · simp only [List.mem_singleton] at raised
        rw [raised]
      · split at raised <;> cases raised

end Severities

section Counts

/-- The messages as they are reported: as errors, if the build fails on warnings. -/
def Message.reported (failOnWarnings : Bool) (messages : List Message) : List Message :=
  if failOnWarnings then messages.map promote else messages

variable {raised : List Message} {threshold : Threshold} {failOnWarnings : Bool}

theorem Message.count_error_add_count_warning (messages : List Message) :
    count .error messages + count .warning messages = messages.length := by
  unfold count
  rw [List.length_eq_countP_add_countP (fun message : Message => message.severity = .error)]
  congr 1
  apply List.countP_congr
  intro message _
  cases message.severity <;> simp

theorem Threshold.visible_eq_self {messages : List Message}
    (errors : ∀ message ∈ messages, message.severity = .error) :
    threshold.visible messages = messages := by
  apply List.filter_eq_self.mpr
  intro message listed
  cases threshold <;> simp [shows, errors message listed]

variable (warnings : ∀ message ∈ raised, message.severity = .warning)
include warnings

/-- Either all that is reported is shown, or nothing. -/
theorem Threshold.visible_reported : threshold.visible (Message.reported failOnWarnings raised) =
    if failOnWarnings = true ∨ threshold = .warning then Message.reported failOnWarnings raised
    else [] := by
  cases failOnWarnings with
  | true =>
      rw [if_pos (.inl rfl)]
      apply visible_eq_self
      intro message listed
      obtain ⟨before, -, rfl⟩ := List.mem_map.mp listed
      rfl
  | false =>
      cases threshold with
      | warning => simp [visible, shows]
      | error =>
          simp only [visible, shows, Message.reported, Bool.false_eq_true, reduceCtorEq, or_self,
            if_false, List.filter_eq_nil_iff]
          intro message listed
          simp [warnings message listed]

theorem Message.length_visible_reported :
    (threshold.visible (reported failOnWarnings raised)).length =
      if failOnWarnings = true ∨ threshold = .warning then raised.length else 0 := by
  rw [Threshold.visible_reported warnings]
  split
  · cases failOnWarnings <;> simp [reported]
  · rfl

theorem Message.count_error_visible_reported :
    count .error (threshold.visible (reported failOnWarnings raised)) =
      if failOnWarnings = true then raised.length else 0 := by
  rw [Threshold.visible_reported warnings]
  cases failOnWarnings with
  | true => simp [reported, count, promote, List.countP_map, Function.comp_def]
  | false =>
      have noError : count .error raised = 0 := by
        apply List.countP_eq_zero.mpr
        intro message listed
        simp [warnings message listed]
      simp only [reported, Bool.false_eq_true, if_false]
      split
      · exact noError
      · rfl

end Counts

section Visits

/-- A component file on its turn in a build: its text, and the file tree in which its imports are
looked for. -/
structure Visit where
  source : Path
  text : Text
  tree : FileTree

/-- The messages that are raised for a file: about reading it, about its components, and about its
imports. -/
def Visit.raised (workspace : Path) (settings : Settings) (visit : Visit) : List Message :=
  let compiled := compileSource workspace settings visit.source visit.text
  compiled.messages ++
    (checkImports visit.tree workspace compiled.placement
      (compiled.components.flatMap (·.imports))).messages

/-- The turns of the component files of a build. Each file is read from the tree that the outputs of
those in front of it have been written to. -/
inductive Visits (workspace : Path) (settings : Settings) :
    FileTree → List Visit → FileTree → Prop where
  | stop (tree : FileTree) : Visits workspace settings tree [] tree
  | next {source : Path} {text : Text} {tree between after : FileTree} {visits : List Visit}
      (read : tree.read? (sourcePath workspace source) = some text)
      (written : (compileSource workspace settings source text).write tree = .ok between)
      (others : Visits workspace settings between visits after) :
      Visits workspace settings tree (⟨source, text, tree⟩ :: visits) after

variable {workspace : Path} {settings : Settings} {tree after : FileTree} {sources : List Path}
  {reports : List FileReport} {log : List Text} {visits : List Visit}

theorem Visit.severity_of_mem_raised {visit : Visit} {message : Message}
    (raised : message ∈ visit.raised workspace settings) : message.severity = .warning := by
  rcases List.mem_append.mp raised with compiled | imported
  · exact severity_of_mem_compileSource compiled
  · exact severity_of_mem_checkImports imported

/-- A report tells the messages that were raised on the turn of its file. -/
theorem exists_visit_of_buildSource {source : Path} {report : FileReport}
    (built : buildSource workspace settings tree source = .ok (report, log, after)) :
    ∃ text, tree.read? (sourcePath workspace source) = some text ∧
      (compileSource workspace settings source text).write tree = .ok after ∧
      report.messages = Message.reported settings.failOnWarnings
        (Visit.raised workspace settings ⟨source, text, tree⟩) := by
  obtain ⟨rfl, read, -, messages, stored⟩ := buildSource_cases built
  exact ⟨report.source, read, stored, messages⟩

theorem exists_visits_of_buildSources
    (built : buildSources workspace settings tree sources = .ok (reports, log, after)) :
    ∃ visits, Visits workspace settings tree visits after ∧ visits.map (·.source) = sources ∧
      reports.flatMap (·.messages) = Message.reported settings.failOnWarnings
        (visits.flatMap (Visit.raised workspace settings)) := by
  induction sources generalizing tree reports log with
  | nil =>
      cases built
      refine ⟨[], .stop _, rfl, ?_⟩
      cases settings.failOnWarnings <;> rfl
  | cons source rest inductionHypothesis =>
      obtain ⟨report, others, early, late, between, first, more, rfl⟩ := buildSources_cons built
      obtain ⟨text, read, written, messages⟩ := exists_visit_of_buildSource first
      obtain ⟨visits, turns, same, told⟩ := inductionHypothesis more
      refine ⟨⟨source, text, tree⟩ :: visits, .next read written turns, ?_, ?_⟩
      · simp [same]
      · rw [List.flatMap_cons, List.flatMap_cons, messages, told]
        cases settings.failOnWarnings <;> simp [Message.reported]

end Visits

section Verdicts

variable {threshold : Threshold} {failOnWarnings : Bool} {reports : List FileReport}
  {raised : List Message}

theorem Summary.shown_eq
    (told : reports.flatMap (·.messages) = Message.reported failOnWarnings raised) :
    (reports.flatMap fun report => threshold.visible report.messages) =
      threshold.visible (Message.reported failOnWarnings raised) := by
  simp only [← told, Threshold.visible, List.filter_flatMap]

section Raised

variable (told : reports.flatMap (·.messages) = Message.reported failOnWarnings raised)
  (warnings : ∀ message ∈ raised, message.severity = .warning)
include told warnings

/-- All messages that are raised are counted, unless none is shown. -/
theorem Summary.errors_add_warnings_ofReports :
    (ofReports threshold failOnWarnings reports).errors +
        (ofReports threshold failOnWarnings reports).warnings =
      if failOnWarnings = true ∨ threshold = .warning then raised.length else 0 := by
  simp only [ofReports, Message.count_error_add_count_warning, shown_eq told]
  apply Message.length_visible_reported warnings

theorem Summary.failed_ofReports_iff :
    (ofReports threshold failOnWarnings reports).failed = true ↔
      failOnWarnings = true ∧ raised ≠ [] := by
  have errors : (ofReports threshold failOnWarnings reports).errors =
      if failOnWarnings = true then raised.length else 0 := by
    simp only [ofReports, shown_eq told]
    apply Message.count_error_visible_reported warnings
  have counted : (ofReports threshold failOnWarnings reports).errors +
      (ofReports threshold failOnWarnings reports).warnings =
        if failOnWarnings = true ∨ threshold = .warning then raised.length else 0 :=
    errors_add_warnings_ofReports told warnings
  have told : (ofReports threshold failOnWarnings reports).failOnWarnings = failOnWarnings := rfl
  unfold failed
  cases failOnWarnings with
  | false => simp [errors, told]
  | true =>
      -- All that is counted is an error, so what is raised is either counted as one or absent.
      have noWarning : (ofReports threshold true reports).warnings = 0 := by
        simp only [errors, true_or, if_true] at counted
        omega
      simp [errors, noWarning, List.length_pos_iff]

end Raised

variable {tree : FileTree} {here : Path} {arguments : Arguments} {result : BuildResult}

theorem exists_build {config : Config} {sources : List Path} {log : List Text} {after : FileTree}
    (loaded : loadConfig tree (here.join arguments.workspaceOrHere) arguments.config = .ok config)
    (found : findSources tree (here.join arguments.workspaceOrHere)
      (Settings.ofArguments arguments config) = .ok sources)
    (compiled : compileWorkspace (here.join arguments.workspaceOrHere)
      (Settings.ofArguments arguments config) tree sources = .ok (reports, log, after)) :
    ∃ shown, build tree here arguments = .ok shown ∧
      shown.summary = Summary.ofReports arguments.leastSeverity
        (Settings.ofArguments arguments config).failOnWarnings reports := by
  unfold build
  simp only [loaded, found, compiled, bind, Except.bind]
  exact ⟨_, rfl, rfl⟩

/-- A build with other wishes about what is shown, and in which form, does the same and differs only
in its summary and its output. -/
theorem exists_reports_of_build (ran : build tree here arguments = .ok result) :
    let workspace := here.join arguments.workspaceOrHere
    ∃ config sources reports log after,
      let settings := Settings.ofArguments arguments config
      loadConfig tree workspace arguments.config = .ok config ∧
      findSources tree workspace settings = .ok sources ∧
      buildSources workspace settings tree sources = .ok (reports, log, after) ∧
      ∀ threshold format, ∃ shown,
        build tree here { arguments with threshold, format } = .ok shown ∧
        shown.summary =
          Summary.ofReports (threshold.getD .warning) settings.failOnWarnings reports := by
  intro workspace
  obtain ⟨config, loaded, ran⟩ := bind_eq_ok_iff.mp ran
  obtain ⟨sources, found, ran⟩ := bind_eq_ok_iff.mp ran
  obtain ⟨⟨reports, log, last⟩, compiled, -⟩ := bind_eq_ok_iff.mp ran
  obtain ⟨root, early, late, built, -, ordered, -⟩ := compileWorkspace_cases compiled
  refine ⟨config, sources, reports, early, built, loaded, found, ordered, ?_⟩
  intro threshold format
  exact exists_build loaded found compiled

/-- A build fails just when it shall fail on warnings and some message was raised. Neither this nor
the number of the messages that are counted depends on the form of the report, and the threshold
only matters to a build that does not fail on warnings: it decides whether all messages are counted
or none. -/
theorem build_fails_iff_raised (ran : build tree here arguments = .ok result) :
    let workspace := here.join arguments.workspaceOrHere
    ∃ config visits after,
      let settings := Settings.ofArguments arguments config
      let raised := visits.flatMap (Visit.raised workspace settings)
      loadConfig tree workspace arguments.config = .ok config ∧
      findSources tree workspace settings = .ok (visits.map (·.source)) ∧
      Visits workspace settings tree visits after ∧
      ∀ threshold format, ∃ shown,
        build tree here { arguments with threshold, format } = .ok shown ∧
        (shown.summary.failed = true ↔ settings.failOnWarnings = true ∧ raised ≠ []) ∧
        shown.summary.errors + shown.summary.warnings =
          if settings.failOnWarnings = true ∨ threshold.getD .warning = .warning then raised.length
          else 0 := by
  intro workspace
  obtain ⟨config, sources, reports, log, after, loaded, found, ordered, showing⟩ :=
    exists_reports_of_build ran
  obtain ⟨visits, turns, rfl, told⟩ := exists_visits_of_buildSources ordered
  have warnings : ∀ message ∈ visits.flatMap
      (Visit.raised workspace (Settings.ofArguments arguments config)),
      message.severity = .warning := by
    intro message raised
    obtain ⟨visit, -, raised⟩ := List.mem_flatMap.mp raised
    apply Visit.severity_of_mem_raised raised
  refine ⟨config, visits, after, loaded, found, turns, ?_⟩
  intro threshold format
  obtain ⟨shown, built, summary⟩ := showing threshold format
  refine ⟨shown, built, ?_, ?_⟩
  · rw [summary]
    apply Summary.failed_ofReports_iff told warnings
  · rw [summary]
    apply Summary.errors_add_warnings_ofReports told warnings

/-- A component that imports a stylesheet which is not there. -/
def danglingWorkspace : FileTree :=
  .directory [("ws".toList, .directory [("a.html".toList,
    .file (.text "<element name=\"x-a\"><style>@import \"b.css\";</style></element>".toList))])]

theorem build_fails_iff_raised_dangling :
    let arguments : Arguments :=
      { workspace := some ⟨"/ws".toList⟩, switches := [.failOnWarnings] }
    ∀ threshold format, ∃ shown,
      build danglingWorkspace ⟨['/']⟩ { arguments with threshold, format } = .ok shown ∧
        shown.summary.failed = true := by
  intro arguments threshold format
  have fails : (build danglingWorkspace ⟨['/']⟩ arguments).toOption.map (·.summary.failed) =
      some true := by
    decide +kernel
  cases ran : build danglingWorkspace ⟨['/']⟩ arguments with
  | error fault =>
      rw [ran] at fails
      cases fails
  | ok result =>
      obtain ⟨config, visits, after, -, -, -, showing⟩ := build_fails_iff_raised ran
      obtain ⟨same, again, sameIff, -⟩ := showing arguments.threshold arguments.format
      obtain ⟨shown, built, shownIff, -⟩ := showing threshold format
      rw [ran] at again fails
      cases again
      exact ⟨shown, built, shownIff.mpr (sameIff.mp (Option.some.inj fails))⟩

end Verdicts

end ComponentStyles
