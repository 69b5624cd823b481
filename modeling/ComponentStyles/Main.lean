import ComponentStyles.Build.Run

/-!
The program: reads the files that a build looks at, builds, and writes what has changed.
-/

open ComponentStyles

/-- Adds what stands at an absolute path to a tree, directories with all that they hold. Links to
directories would make this endless; the depth of paths bounds it. -/
partial def readInto (tree : FileTree) (path : Path) : IO FileTree := do
  let place := (← IO.currentDir) / String.ofList path.text
  if !FileTree.isNameable path then
    return tree
  else if ← place.isDir then
    let mut tree := (tree.makeDirectories? path).getD tree
    for entry in ← place.readDir do
      tree ← readInto tree (path.join ⟨entry.fileName.toList⟩)
    return tree
  else if ← place.pathExists then
    let bytes ← IO.FS.readBinFile place
    let content := match String.fromUTF8? bytes with
      | some text => FileContent.text text.toList
      | none => .binary
    return (tree.write? path content).getD tree
  else
    return tree

/-- Writes the files that a build has changed. -/
def writeChanges (changes : List (Address × Text)) : IO Unit := do
  for (address, text) in changes do
    let place := (← IO.currentDir) / String.ofList ('/' :: Text.join ['/'] address)
    if let some directory := place.parent then
      IO.FS.createDirAll directory
    IO.FS.writeFile place (String.ofList text)

/-- What the program says about a command line that starts no build. -/
def faultText : ArgumentFault → String
  | .unknown => "error: unexpected argument"
  | .invalidValue => "error: missing or invalid value"
  | .repeated => "error: an argument cannot be used multiple times"
  | .surplusValue => "error: unexpected value"
  | .help => "Compiles component-scoped stylesheets\n\nUsage: scoped-styles [OPTIONS]"
  | .version => "scoped-styles"

/-- Builds as the arguments say, and gives the exit code. -/
def buildWith (arguments : Arguments) : IO UInt32 := do
  let here : Path := ⟨(← IO.currentDir).toString.toList⟩
  let tree ← readInto .empty (here.join arguments.workspaceOrHere)
  -- The config file tells of further paths, so they are looked for once more when it is read.
  let tree ← (pathsOutside tree here arguments).foldlM readInto tree
  let tree ← (pathsOutside tree here arguments).foldlM readInto tree
  match build tree here arguments with
  | .error fault =>
      IO.eprintln (String.ofList ("Error: ".toList ++ fault.message))
      return 1
  | .ok result =>
      writeChanges (result.tree.changesFrom tree)
      if arguments.has .trace then
        for line in result.trace do
          IO.eprintln (String.ofList line)
      for line in result.log do
        IO.eprintln (String.ofList line)
      IO.print (String.ofList result.output)
      return if result.summary.failed then 1 else 0

def main (arguments : List String) : IO UInt32 := do
  match Arguments.read (arguments.map String.toList) with
  | .ok arguments => buildWith arguments
  | .error fault =>
      let asked := fault = .help || fault = .version
      if asked then IO.println (faultText fault) else IO.eprintln (faultText fault)
      return if asked then 0 else 2
