import ComponentStyles.Reference.Basic
import ComponentStyles.Stylesheet.Traversal

/-!
The imports of a stylesheet.

An import is resolved by its text alone; whether the file exists is for the caller to find out.
-/

namespace ComponentStyles

structure Import where
  /-- The file with the import. -/
  source : Path
  /-- The reference as written. -/
  target : Text
  /-- The file it names, seen from where `source` is seen from. References to packages and
  elsewhere name none. -/
  resolved : Option Path
  media : Option Text
  location : Location
deriving DecidableEq, Repr

/-- Whether an import names no file. -/
def Import.isExternal (i : Import) : Bool :=
  i.resolved.isNone

/-- The file that a reference in a stylesheet names. -/
def resolveReference (source : Path) (reference : Text) : Option Path :=
  if ReferenceKind.of reference = .file then
    some (source.parent.join ⟨reference⟩).normalize
  else
    none

mutual

def Statement.imports (file : File) (source : Path) : Statement → List Import
  | .importing target media span =>
      [⟨source, target, resolveReference source target, media, file.locate span⟩]
  | .conditional _ _ statements _ => importsOf file source statements
  | _ => []

def importsOf (file : File) (source : Path) : List Statement → List Import
  | [] => []
  | statement :: rest => statement.imports file source ++ importsOf file source rest

end

/-- The imports of a stylesheet that is read from `source`, in document order. -/
def Stylesheet.imports (source : Path) (sheet : Stylesheet) : List Import :=
  importsOf sheet.file source sheet.statements

end ComponentStyles
