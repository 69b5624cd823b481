import ComponentStyles.Build.Arguments
import ComponentStyles.Build.Config
import ComponentStyles.Component.Compilation

/-!
The settings of a build, from its config file and its command line.

The command line wins over the config file, except that a switch only switches one way and that
the patterns of both count.
-/

namespace ComponentStyles

structure Settings where
  /-- The output directory, absolute or seen from the workspace. -/
  outDir : Path
  ignore : List Text
  /-- The endings of the names of component files. -/
  extensions : List Text
  failOnWarnings : Bool
  compiling : CompileOptions
deriving DecidableEq, Repr

namespace Settings

def defaultOutDir : Path :=
  ⟨"build".toList⟩

def dotted (ext : Text) : Text :=
  if ext.head? = some '.' then ext else '.' :: ext

/-- The endings of component files for the given extensions. -/
def endings (extensions : List Text) : List Text :=
  if extensions.isEmpty then [".html".toList] else extensions.map dotted

/-- The settings that the command line and the config file make together. -/
def ofArguments (arguments : Arguments) (config : Config) : Settings :=
  { outDir := (arguments.outDir.or config.outDir).getD defaultOutDir
    ignore := config.ignore ++ arguments.ignore
    extensions :=
      endings (if arguments.extensions.isEmpty then config.extensions else arguments.extensions)
    failOnWarnings := arguments.has .failOnWarnings || config.failOnWarnings.getD false
    compiling :=
      { scoping := !arguments.has .noScope && config.scoping.getD true
        reportUnresolved := arguments.has .reportUnresolved || config.reportUnresolved.getD false
        trace := arguments.has .trace
        layout := if arguments.has .compact then .compact else .lines } }

/-- Whether a file with the given name is a component file. -/
def isComponentFile (settings : Settings) (name : Text) : Bool :=
  settings.extensions.any fun ext => Text.endsWith name ext

end Settings

end ComponentStyles
