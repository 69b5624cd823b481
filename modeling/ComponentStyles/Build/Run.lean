import ComponentStyles.Build.Imports
import ComponentStyles.Build.Sources
import ComponentStyles.Report.Summary

/-!
A whole build: read the config, find the component files, compile each of them, copy the
stylesheets that they ask for, and report.

A build works on a file tree and gives a new one; the sources are read from the tree as it is
when their turn comes.
-/

namespace ComponentStyles

def configName : Path :=
  ⟨"scoped-styles.json".toList⟩

/-- What a config file says. Without a config file, unless one is asked for, it says nothing. -/
def loadConfig (tree : FileTree) (workspace : Path) (asked : Option Path) :
    Except BuildFault Config :=
  let path := workspace.join (asked.getD configName)
  if asked.isNone && !tree.contains path then .ok {}
  else
    match tree.read? path with
    | none => .error (.unreadableConfig path)
    | some text => (Config.parse text).mapError (BuildFault.invalidConfig path)

structure FileReport where
  /-- The path in the workspace. -/
  path : Path
  source : Text
  components : Nat
  messages : List Message
  /-- The imported files of the workspace. -/
  imports : List Path
  /-- The steps of the compilation. -/
  trace : List Text
deriving Repr

/-- Compiles a component file and writes its outputs. -/
def buildSource (workspace : Path) (settings : Settings) (tree : FileTree) (source : Path) :
    Except BuildFault (FileReport × List Text × FileTree) := do
  let path := sourcePath workspace source
  match tree.read? path with
  | none => .error (.unreadable path)
  | some text =>
      let compiled := compileSource workspace settings source text
      let imports := checkImports tree workspace compiled.placement
        (compiled.components.flatMap (·.imports))
      let messages := compiled.messages ++ imports.messages
      let messages := if settings.failOnWarnings then messages.map Message.promote else messages
      let tree ← compiled.write tree
      let report : FileReport :=
        ⟨source, text, compiled.components.length, messages, imports.result, compiled.log⟩
      return (report, imports.log, tree)

def buildSources (workspace : Path) (settings : Settings) (tree : FileTree) :
    List Path → Except BuildFault (List FileReport × List Text × FileTree)
  | [] => .ok ([], [], tree)
  | source :: rest => do
      let (report, log, tree) ← buildSource workspace settings tree source
      let (reports, more, tree) ← buildSources workspace settings tree rest
      return (report :: reports, log ++ more, tree)

/-- Compiles the component files of a workspace and copies the stylesheets that they import. -/
def compileWorkspace (workspace : Path) (settings : Settings) (tree : FileTree)
    (sources : List Path) : Except BuildFault (List FileReport × List Text × FileTree) :=
  match outputRoot? workspace settings.outDir with
  | none => .error (.outputIsWorkspace settings.outDir)
  | some root => do
      let (reports, log, built) ← buildSources workspace settings tree sources
      let (built, more) ← copyImports workspace root
        (reports.map fun report => report.path.withExtension "css".toList)
        (reports.flatMap (·.imports)) built
      return (reports, log ++ more, built)

structure BuildResult where
  summary : Summary
  output : Text
  log : List Text
  /-- The steps of the compilations. -/
  trace : List Text
  tree : FileTree
deriving Repr

def Summary.ofReports (threshold : Threshold) (failOnWarnings : Bool)
    (reports : List FileReport) : Summary :=
  let shown := reports.flatMap fun report => threshold.visible report.messages
  { files := reports.length
    components := reports.foldr (fun report count => report.components + count) 0
    errors := Message.count .error shown
    warnings := Message.count .warning shown
    failOnWarnings }

/-- The report of a build. In JSON it is one list of all messages; in all other forms, a summary
ends it. -/
def renderReport (format : ReportFormat) (threshold : Threshold) (summary : Summary)
    (reports : List FileReport) : Text :=
  match format with
  | .json =>
      (Json.list (reports.flatMap fun report =>
        (threshold.visible report.messages).map
          (Message.toJson (.ofText report.source)))).render ++ ['\n']
  | format =>
      (reports.flatMap fun report =>
        Message.renderAll format report.source (threshold.visible report.messages)) ++
        summary.render ++ ['\n']

/-- Builds a workspace, which is seen from the working directory. -/
def build (tree : FileTree) (workingDirectory : Path) (arguments : Arguments) :
    Except BuildFault BuildResult := do
  let workspace := workingDirectory.join arguments.workspaceOrHere
  let config ← loadConfig tree workspace arguments.config
  let settings := Settings.ofArguments arguments config
  let sources ← findSources tree workspace settings
  let (reports, log, built) ← compileWorkspace workspace settings tree sources
  let unread := if tree.contains workspace then [] else ["skipping unreadable path".toList]
  let threshold := arguments.leastSeverity
  let summary := Summary.ofReports threshold settings.failOnWarnings reports
  return {
    summary
    output := renderReport arguments.reportFormat threshold summary reports
    log := unread ++ log
    trace := reports.flatMap (·.trace)
    tree := built }

/-- The paths that a build may look at besides those in the workspace: the config file, the
output directory and what the component files import. -/
def pathsOutside (tree : FileTree) (workingDirectory : Path) (arguments : Arguments) :
    List Path :=
  let workspace := workingDirectory.join arguments.workspaceOrHere
  let config := workspace.join (arguments.config.getD configName)
  let settings := Settings.ofArguments arguments
    ((loadConfig tree workspace arguments.config).toOption.getD {})
  let sources := (findSources tree workspace settings).toOption.getD []
  let imported := sources.flatMap fun source =>
    match tree.read? (sourcePath workspace source) with
    | none => []
    | some text =>
        let compiled := compileSource workspace settings source text
        (compiled.components.flatMap (·.imports)).filterMap fun i =>
          i.resolved.map compiled.placement.absolute
  config :: (workspace.join settings.outDir) :: imported

end ComponentStyles
