import ComponentStyles.Build.Fault
import ComponentStyles.Build.Placement
import ComponentStyles.Build.Settings
import ComponentStyles.FileTree
import ComponentStyles.Glob.Language

/-!
The component files of a workspace.

Files are ignored by globs over their paths in the workspace. Besides the globs of the settings
there is one for installed packages and one for the output directory.
-/

namespace ComponentStyles

/-- The globs that are always ignored. One that is no glob is left out. -/
def standardGlobs (workspace outDir : Path) : List Glob :=
  let outputs := (insideWorkspace? workspace outDir).map fun path =>
    (path.text.reverse.dropWhile (· = '/')).reverse ++ "/**".toList
  (["**/node_modules/**".toList] ++ outputs.toList).filterMap fun text =>
    (Glob.ofText text).toOption

/-- The globs of the settings. -/
def Settings.globs (settings : Settings) : Except BuildFault (List Glob) :=
  settings.ignore.mapM fun text => (Glob.ofText text).mapError (BuildFault.invalidGlob text)

/-- The path of a source. The source of a workspace that is a file is the workspace itself. -/
def sourcePath (workspace source : Path) : Path :=
  if source.text.isEmpty then workspace else workspace.join source

/-- The component files of a workspace in the order of their paths, each as seen from there. -/
def findSources (tree : FileTree) (workspace : Path) (settings : Settings) :
    Except BuildFault (List Path) := do
  let globs := (← settings.globs) ++ standardGlobs workspace settings.outDir
  let found := ((tree.find? workspace).map FileTree.files).getD []
  let paths := found.map fun (address, _) => Path.mk (Text.join ['/'] address)
  let sources := paths.filter fun path =>
    settings.isComponentFile ((sourcePath workspace path).fileName?.getD []) &&
      !globs.any fun glob => glob.describes path.text
  .ok (sources.mergeSort Path.le)

end ComponentStyles
