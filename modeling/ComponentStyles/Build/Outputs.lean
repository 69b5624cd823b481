import ComponentStyles.Build.Fault
import ComponentStyles.Build.Placement
import ComponentStyles.Build.Settings
import ComponentStyles.FileTree
import ComponentStyles.Template.Parser
import ComponentStyles.Template.Printer

/-!
Compiling one component file to its three outputs: the template, the stylesheets of its
components as one, and the selectors of each component.
-/

namespace ComponentStyles

structure Outputs where
  template : Text
  sheet : Text
  selectors : Text
deriving DecidableEq, Repr

namespace Outputs

/-- The stylesheets of components as one, which ends with a line end unless it is empty. -/
def joinSheets (components : List Compiled) : Text :=
  let joined := Text.join ['\n'] ((components.map (·.css)).filter fun css => !css.isEmpty)
  if joined.isEmpty || joined.getLast? = some '\n' then joined else joined ++ ['\n']

/-- The last component of each tag, in the order of the tags. -/
def lastOfEachTag : List Compiled → List Compiled
  | [] => []
  | component :: rest =>
      let others := lastOfEachTag rest
      if others.any fun other => other.tag = component.tag then others else component :: others

/-- The selectors of components as a JSON object with a field for each tag. -/
def selectorsJson (components : List Compiled) : Json :=
  .object (((lastOfEachTag components).mergeSort fun a b => Text.le a.tag b.tag).map
    fun component => (component.tag, component.selectors.toJson))

def ofTemplate (template : Template) (components : List Compiled) : Outputs :=
  ⟨renderNodes template.nodes, joinSheets components, (selectorsJson components).render⟩

end Outputs

/-- A component file that is compiled, with the paths that its outputs go to. -/
structure CompiledSource where
  placement : Placement
  components : List Compiled
  outputs : Outputs
  messages : List Message
  log : List Text
deriving Repr

/-- Compiles the component file at a path in the workspace. -/
def compileSource (workspace : Path) (settings : Settings) (source : Path) (text : Text) :
    CompiledSource :=
  let placement := Placement.ofSource workspace settings.outDir source
  let parsed := Template.parse source.text text
  let (template, outcome) := parsed.tree.compile settings.compiling placement.places
  { placement
    components := outcome.result
    outputs := .ofTemplate template outcome.result
    messages := parsed.errors.map (Message.ofParseError parsed.tree.file) ++ outcome.messages
    log := outcome.log }

/-- Writes a file, or tells that it cannot be written. -/
def FileTree.write (tree : FileTree) (path : Path) (text : Text) : Except BuildFault FileTree :=
  match tree.write? path (.text text) with
  | some tree => .ok tree
  | none => .error (.unwritable path)

def CompiledSource.write (compiled : CompiledSource) (tree : FileTree) :
    Except BuildFault FileTree := do
  let { placement, outputs, .. } := compiled
  let tree ← tree.write placement.template outputs.template
  let tree ← tree.write placement.sheet outputs.sheet
  tree.write placement.selectors outputs.selectors

end ComponentStyles
