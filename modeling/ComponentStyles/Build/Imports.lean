import ComponentStyles.Build.Outputs

/-!
The imported stylesheets of a build.

A stylesheet that an output imports is copied to the same place in the output directory, and so
are those that it imports in turn. An import of a file that does not exist is reported; a file
outside the workspace is left where it is.
-/

namespace ComponentStyles

/-- A path as seen from the workspace, if it leads to a file there. -/
def workspaceFile? (tree : FileTree) (workspace path : Path) : Option Path :=
  let absolute := (workspace.join path).normalize
  if tree.isFile absolute then absolute.below? workspace.normalize else none

/-- Looks for the file that an import of a component names. -/
def checkImport (tree : FileTree) (workspace : Path) (placement : Placement) (i : Import) :
    Outcome (Option Path) :=
  match i.resolved with
  | none => ⟨none, [], []⟩
  | some resolved =>
      let absolute := placement.absolute resolved
      if !tree.contains absolute then
        let text := "cannot find imported stylesheet ".toList ++ i.target ++
          " (".toList ++ resolved.text ++ [')']
        ⟨none, [⟨.importUnresolved, .warning, text, i.location⟩], []⟩
      else
        match workspaceFile? tree workspace absolute with
        | some file => ⟨some file, [], []⟩
        | none =>
            ⟨none, [], [absolute.text ++ " is outside the workspace and is not copied".toList]⟩

/-- Looks for the files that the imports of components name. -/
def checkImports (tree : FileTree) (workspace : Path) (placement : Placement)
    (imports : List Import) : Outcome (List Path) :=
  let outcomes := imports.map (checkImport tree workspace placement)
  ⟨outcomes.filterMap (·.result), outcomes.flatMap (·.messages), outcomes.flatMap (·.log)⟩

/-- The files that a copied stylesheet imports, and log lines about those not found. -/
def importsOfCopy (tree : FileTree) (workspace copy : Path) (text : Text) :
    List Path × List Text :=
  let imports := (Stylesheet.parse copy.text text).tree.imports copy
  let found := imports.filterMap fun i => i.resolved.map fun resolved =>
    (i, workspaceFile? tree workspace resolved)
  (found.filterMap (·.2),
    found.filterMap fun (i, file) =>
      if file.isSome then none
      else some (copy.text ++ ": cannot copy imported stylesheet ".toList ++ i.target))

/-- A path with its size, which tells most paths apart at once. -/
def Path.sized (path : Path) : Nat × Path :=
  (path.text.length, path)

/-- The state of the copying of imported stylesheets. Paths in the workspace have their shortest
form, so that equal ones are written alike. -/
structure Copying where
  tree : FileTree
  /-- The files seen so far. -/
  seen : List (Nat × Path)
  /-- The files to copy, the next one first. -/
  pending : List Path
  log : List Text
deriving Repr

namespace Copying

/-- Copies the stylesheet at a path in the workspace, unless a component compiles to the same
output, and adds what it imports to the files to copy. The last import comes first. -/
def copy (workspace root : Path) (compiled : List Path) (state : Copying) (path : Path) :
    Except BuildFault Copying := do
  if compiled.contains path then
    return { state with
      log := state.log ++ ["not copying ".toList ++ path.text ++
        ": a component compiles to the same output".toList] }
  else
    let source := workspace.join path
    match state.tree.read? source with
    | none => .error (.unreadable source)
    | some text =>
        let tree ← state.tree.write (root.join path) text
        let (found, log) := importsOfCopy tree workspace path text
        return { state with
          tree := tree
          pending := found.reverse ++ state.pending
          log := state.log ++ log }

/-- Copies what is pending, each file once, and at most `bound` files. -/
def run (workspace root : Path) (compiled : List Path) (bound : Nat) (state : Copying) :
    Except BuildFault Copying := do
  match bound, state.pending.dropWhile fun path => state.seen.contains path.sized with
  | _, [] | 0, _ => return { state with pending := [] }
  | bound + 1, path :: pending =>
      let next ← copy workspace root compiled
        { state with seen := path.sized :: state.seen, pending := pending } path
      run workspace root compiled bound next

/-- A bound for the number of files that are copied. Copying a file makes it appear in the output
directory; if that lies in the workspace, the copy can be imported as well, and so on as long as
its path can be written. -/
def bound (tree : FileTree) : Nat :=
  4096 * tree.files.length

end Copying

/-- Copies the imported stylesheets, the last one first, and gives log lines. -/
def copyImports (workspace root : Path) (compiled imports : List Path) (tree : FileTree) :
    Except BuildFault (FileTree × List Text) := do
  let state ← Copying.run workspace root compiled (Copying.bound tree)
    ⟨tree, [], imports.reverse, []⟩
  return (state.tree, state.log)

end ComponentStyles
