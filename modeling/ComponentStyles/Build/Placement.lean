import ComponentStyles.Component.Compilation

/-!
Where the outputs of a component file go.

The output directory has the same shape as the workspace. If it lies in the workspace, the paths
that references are led back with are seen from the workspace; else they are absolute.
-/

namespace ComponentStyles

/-- A path as seen from the workspace, unless it lies outside. A relative path is taken to be
seen from there. -/
def insideWorkspace? (workspace path : Path) : Option Path :=
  if path.isAbsolute then path.below? workspace else some path

/-- The output directory as a canonical path, unless it is the workspace. -/
def outputRoot? (workspace outDir : Path) : Option Path :=
  let root := (workspace.join outDir).normalize
  if root.same workspace.normalize then none else some root

structure Placement where
  places : Places
  /-- The directory that relative paths are seen from. -/
  base : Path
deriving DecidableEq, Repr

namespace Placement

/-- The places of the component file at a path in the workspace. -/
def ofSource (workspace outDir source : Path) : Placement :=
  let sheet := source.withExtension "css".toList
  match insideWorkspace? workspace outDir with
  | some outDir => ⟨⟨source, outDir.join sheet⟩, workspace⟩
  | none => ⟨⟨workspace.join source, outDir.join sheet⟩, ⟨[]⟩⟩

def absolute (placement : Placement) (path : Path) : Path :=
  placement.base.join path

def sheet (placement : Placement) : Path :=
  placement.absolute placement.places.target

def template (placement : Placement) : Path :=
  placement.sheet.withExtension "html".toList

def selectors (placement : Placement) : Path :=
  placement.sheet.withExtension "selectors.json".toList

end Placement

end ComponentStyles
