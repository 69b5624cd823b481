import ComponentStyles.Glob.Basic
import ComponentStyles.Json.Reader
import ComponentStyles.Path

/-!
What stops a build.
-/

namespace ComponentStyles

inductive BuildFault where
  /-- The config file cannot be read. -/
  | unreadableConfig (path : Path)
  /-- The config file does not hold a config. -/
  | invalidConfig (path : Path) (fault : Json.Fault)
  /-- A pattern of files to ignore is no glob. -/
  | invalidGlob (text : Text) (fault : Glob.Fault)
  /-- The outputs would replace the sources. -/
  | outputIsWorkspace (outDir : Path)
  /-- A source cannot be read. -/
  | unreadable (path : Path)
  /-- An output cannot be written. -/
  | unwritable (path : Path)
deriving DecidableEq, Repr

def Json.Fault.reason : Json.Fault → Text
  | malformed => "not JSON".toList
  | mismatch => "not a config".toList
  | ended => "the text ends too early".toList

def BuildFault.message : BuildFault → Text
  | unreadableConfig path => "failed to read ".toList ++ path.text
  | invalidConfig path fault => "invalid config ".toList ++ path.text ++ ": ".toList ++ fault.reason
  | invalidGlob text fault => "invalid glob pattern: ".toList ++ fault.message text
  | outputIsWorkspace outDir =>
      "output directory ".toList ++ outDir.text ++
        " is the workspace; choose a separate directory".toList
  | unreadable path => "failed to read ".toList ++ path.text
  | unwritable path => "failed to write ".toList ++ path.text

end ComponentStyles
