import ComponentStyles.Json.Basic
import ComponentStyles.Scope.Basic

/-!
The selectors of a component and what they become, for those who generate code from them.
-/

namespace ComponentStyles

/-- Selectors of a single name with their scoped forms, in the order of code points. -/
structure SelectorMap where
  entries : List (Text × Text)
deriving DecidableEq, Repr

namespace SelectorMap

/-- The entries of the names of one kind. -/
def entriesOf (scope : Scope) (kind : NameKind) : List (Text × Text) :=
  (scope.names.ofKind kind).map fun name =>
    (kind.sigil :: name, kind.sigil :: scope.rename kind name)

/-- The map of a component. The sign of an id comes before that of a class. -/
def ofScope (scope : Scope) : SelectorMap :=
  ⟨entriesOf scope .ofId ++ entriesOf scope .ofClass⟩

/-- The scoped form of a selector. -/
def get? (map : SelectorMap) (selector : Text) : Option Text :=
  map.entries.lookup selector

/-- The number of entries. -/
def size (map : SelectorMap) : Nat :=
  map.entries.length

/-- The map as a JSON object. -/
def toJson (map : SelectorMap) : Json :=
  .object (map.entries.map fun (key, value) => (key, .string value))

end SelectorMap

end ComponentStyles
