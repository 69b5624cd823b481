import ComponentStyles.Path
import ComponentStyles.Url.Absolute

/-!
The references of stylesheets to other files.
-/

namespace ComponentStyles

/-- What a reference names. -/
inductive ReferenceKind where
  /-- A path relative to the stylesheet, or to the root. -/
  | file
  /-- A URL with the scheme `package`. -/
  | package
  /-- A URL with a host or another scheme. -/
  | elsewhere
deriving DecidableEq, Repr

/-- The kind of a reference. A reference that is no absolute URL names a file, unless it starts
with a host behind two slashes. -/
def ReferenceKind.of (reference : Text) : ReferenceKind :=
  if Text.startsWith reference ['/', '/'] then elsewhere
  else
    match Url.scheme? reference with
    | none => file
    | some scheme => if scheme = "package".toList then package else elsewhere

end ComponentStyles
