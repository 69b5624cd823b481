import ComponentStyles.Scope.Names
import ComponentStyles.Template.Basic

/-!
Scoping: giving the class and id names of a component a form of its own.

Only names that the stylesheet of the component selects on are renamed, in its selectors and in
its template alike; every other name stays. Without a tag nothing is renamed.
-/

namespace ComponentStyles

/-- The form of a name inside the component with the given tag. -/
def scopedForm (tag name : Text) : Text :=
  tag ++ '_' :: name

/-- The names of a component and the tag to rename them with, unless scoping is off. -/
structure Scope where
  names : SelectorNames
  tag : Option Text
deriving Repr

/-- A change of an attribute of an element. -/
structure Renaming where
  element : Text
  name : Text
  before : Text
  after : Text
deriving DecidableEq, Repr

/-- A renaming reads `<element> attribute: before -> after`. -/
def Renaming.render (r : Renaming) : Text :=
  '<' :: r.element ++ "> ".toList ++ r.name ++ ": ".toList ++ r.before ++ " -> ".toList ++
    r.after

namespace Scope

/-- The scoped form of a name, if the name is to be renamed. -/
def rename? (scope : Scope) (kind : NameKind) (name : Text) : Option Text :=
  scope.tag.bind fun tag =>
    if scope.names.has kind name then some (scopedForm tag name) else none

def rename (scope : Scope) (kind : NameKind) (name : Text) : Text :=
  (scope.rename? kind name).getD name

mutual

/-- Renames the names in a simple selector. -/
def inSimple (scope : Scope) : SimpleSelector → SimpleSelector
  | .byClass name span => .byClass (scope.rename .ofClass name) span
  | .byId name span => .byId (scope.rename .ofId name) span
  | .pseudo form name (.selectors list listSpan) span =>
      .pseudo form name (.selectors (inSelectors scope list) listSpan) span
  | selector => selector

def inSelectors (scope : Scope) : List Selector → List Selector
  | [] => []
  | .mk parts span :: rest => .mk (inParts scope parts) span :: inSelectors scope rest

def inParts (scope : Scope) : List SelectorPart → List SelectorPart
  | [] => []
  | .mk combinator s :: rest => .mk combinator (inSimple scope s) :: inParts scope rest

end

/-- Renames the names in the selectors of a stylesheet. -/
def inStylesheet (scope : Scope) (sheet : Stylesheet) : Stylesheet :=
  sheet.mapSelectors fun list => { list with selectors := scope.inSelectors list.selectors }

/-- The number of names in the selectors of a stylesheet that are renamed. -/
def renamedCount (scope : Scope) (sheet : Stylesheet) : Nat :=
  sheet.names.countP fun (kind, name) => (scope.rename? kind name).isSome

/-- The new value of an attribute, if it changes. A list of classes is written anew when one of
them is renamed; an id is the whole value. -/
def newValue? (scope : Scope) (a : Attribute) : Option Text :=
  a.value.bind fun value =>
    if Text.sameLetters a.name "class".toList then
      let classes := Text.words value
      if classes.any fun name => (scope.rename? .ofClass name).isSome then
        some (Text.join [' '] (classes.map (scope.rename .ofClass)))
      else none
    else if Text.sameLetters a.name "id".toList then scope.rename? .ofId value
    else none

def inAttribute (scope : Scope) (a : Attribute) : Attribute :=
  match scope.newValue? a with
  | some value => { a with value := some value }
  | none => a

/-- The change of an attribute of an element, if there is one. -/
def change? (scope : Scope) (element : Text) (a : Attribute) : Option Renaming :=
  (scope.newValue? a).map fun value => ⟨element, a.name, a.value.getD [], value⟩

mutual

/-- Renames the names in the attributes of a node and of those inside it. -/
def inNode (scope : Scope) : Node → Node
  | .element tag attributes children selfClosing span =>
      .element tag (attributes.map scope.inAttribute) (inNodes scope children) selfClosing span
  | other => other

def inNodes (scope : Scope) : List Node → List Node
  | [] => []
  | n :: rest => inNode scope n :: inNodes scope rest

end

mutual

/-- The changes in a node, those of an element in front of those inside it. -/
def changesIn (scope : Scope) : Node → List Renaming
  | .element tag attributes children _ _ =>
      attributes.filterMap (scope.change? tag) ++ changes scope children
  | _ => []

def changes (scope : Scope) : List Node → List Renaming
  | [] => []
  | n :: rest => changesIn scope n ++ changes scope rest

end

end Scope

end ComponentStyles
