import ComponentStyles.Stylesheet.Traversal

/-!
The class and id names that a stylesheet selects on.
-/

namespace ComponentStyles

/-- What a name in a selector stands for. -/
inductive NameKind where
  | ofClass
  | ofId
deriving DecidableEq, Repr

/-- The sign in front of a name in a selector. -/
def NameKind.sigil : NameKind → Char
  | ofClass => '.'
  | ofId => '#'

mutual

/-- The class and id names of a simple selector, those in its argument included. -/
def SimpleSelector.names : SimpleSelector → List (NameKind × Text)
  | .byClass name _ => [(.ofClass, name)]
  | .byId name _ => [(.ofId, name)]
  | .pseudo _ _ (.selectors list _) _ => namesOfSelectors list
  | _ => []

def namesOfSelectors : List Selector → List (NameKind × Text)
  | [] => []
  | .mk parts _ :: rest => namesOfParts parts ++ namesOfSelectors rest

def namesOfParts : List SelectorPart → List (NameKind × Text)
  | [] => []
  | .mk _ simple :: rest => simple.names ++ namesOfParts rest

end

/-- The class and id names in the selectors of a stylesheet, as often as they occur and in
document order. -/
def Stylesheet.names (sheet : Stylesheet) : List (NameKind × Text) :=
  sheet.selectorLists.flatMap fun list => namesOfSelectors list.selectors

/-- Sets of class and id names, each listed in the order of code points. -/
structure SelectorNames where
  classes : List Text
  ids : List Text
deriving DecidableEq, Repr

namespace SelectorNames

/-- Puts a name into a set of names in order. -/
def insertName (name : Text) : List Text → List Text
  | [] => [name]
  | other :: rest =>
      if name = other then other :: rest
      else if Text.le name other then name :: other :: rest
      else other :: insertName name rest

/-- The set of the listed names. -/
def inOrder (names : List Text) : List Text :=
  names.foldr insertName []

/-- The sets of the listed names. -/
def ofList (names : List (NameKind × Text)) : SelectorNames :=
  let ofKind (kind : NameKind) : List Text :=
    inOrder ((names.filter fun name => name.1 = kind).map (·.2))
  ⟨ofKind .ofClass, ofKind .ofId⟩

/-- The names that a stylesheet selects on. -/
def ofStylesheet (sheet : Stylesheet) : SelectorNames :=
  ofList sheet.names

def ofKind (names : SelectorNames) : NameKind → List Text
  | .ofClass => names.classes
  | .ofId => names.ids

def has (names : SelectorNames) (kind : NameKind) (name : Text) : Bool :=
  (names.ofKind kind).contains name

def isEmpty (names : SelectorNames) : Bool :=
  names.classes.isEmpty && names.ids.isEmpty

end SelectorNames

end ComponentStyles
