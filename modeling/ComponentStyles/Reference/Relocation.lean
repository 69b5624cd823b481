import ComponentStyles.Reference.Basic
import ComponentStyles.Stylesheet.Traversal

/-!
Relocation: keeping the `url(...)` references of a stylesheet valid when it is written to
another directory than it was read from.

References to files and packages are led back to the directory of the source. References
elsewhere stay, and so do references to a fragment of the document itself. Imports are not
touched.
-/

namespace ComponentStyles

/-- A move of a stylesheet; `base` leads from its new directory back to the old one. -/
structure Relocation where
  base : Path
deriving DecidableEq, Repr

namespace Relocation

/-- The move from one directory to another. -/
def between (source target : Path) : Relocation :=
  ⟨target.relative source⟩

/-- The move of a file to the place of another one. -/
def ofFiles (source target : Path) : Relocation :=
  between source.parent target.parent

/-- The new form of a reference, if it changes. -/
def moved? (move : Relocation) (reference : Text) : Option Text :=
  if reference.isEmpty || reference.head? = some '#' then none
  else if ReferenceKind.of reference = .elsewhere then none
  else
    let written := ((move.base.join ⟨reference⟩).normalize).text
    if written = reference then none else some written

def moved (move : Relocation) (reference : Text) : Text :=
  (move.moved? reference).getD reference

end Relocation

mutual

/-- The references in a term, those in a fallback included. -/
def Term.targets : Term → List Text
  | .url target _ => [target]
  | .call _ arguments _ _ => targetsOf arguments
  | .usage _ (some fallback) _ => fallback.targets
  | _ => []

def targetsOf : List Term → List Text
  | [] => []
  | term :: rest => term.targets ++ targetsOf rest

end

mutual

/-- Changes the references in a term. -/
def Term.mapTargets (change : Text → Text) : Term → Term
  | .url target span => .url (change target) span
  | .call name arguments argumentsSpan span =>
      .call name (mapTargetsOf change arguments) argumentsSpan span
  | .usage name (some fallback) span => .usage name (some (fallback.mapTargets change)) span
  | term => term

def mapTargetsOf (change : Text → Text) : List Term → List Term
  | [] => []
  | term :: rest => term.mapTargets change :: mapTargetsOf change rest

end

namespace Stylesheet

/-- Moves every `url(...)` reference. -/
def relocate (move : Relocation) (sheet : Stylesheet) : Stylesheet :=
  sheet.mapTerms (mapTargetsOf move.moved) (mapTargetsOf move.moved)

/-- The number of references that change. -/
def relocatedCount (move : Relocation) (sheet : Stylesheet) : Nat :=
  (sheet.items.flatMap fun item => targetsOf item.terms).countP
    fun target => (move.moved? target).isSome

end Stylesheet

end ComponentStyles
