import ComponentStyles.Source.File

/-!
Templates as trees.

Texts and attribute values are kept as written: nothing is decoded.
-/

namespace ComponentStyles

/-- An attribute. One without a value is only named. -/
structure Attribute where
  name : Text
  value : Option Text
  span : Span
deriving DecidableEq, Repr

/-- A node of a template. -/
inductive Node where
  | element (tag : Text) (attributes : List Attribute) (children : List Node)
      (selfClosing : Bool) (span : Span)
  | text (content : Text) (span : Span)
  | comment (content : Text) (span : Span)
deriving Repr, Inhabited

def Node.span : Node → Span
  | element _ _ _ _ span => span
  | text _ span => span
  | comment _ span => span

/-- The nodes of a file. -/
structure Template where
  file : File
  nodes : List Node
deriving Repr

/-- The elements that never have a closing tag. -/
def voidTags : List Text :=
  ["area".toList, "base".toList, "br".toList, "col".toList, "embed".toList, "hr".toList,
    "img".toList, "input".toList, "link".toList, "meta".toList, "param".toList, "source".toList,
    "track".toList, "wbr".toList]

/-- Whether an element of this name never has a closing tag. -/
def isVoid (tag : Text) : Bool :=
  voidTags.contains (Text.lower tag)

/-- Whether the content of an element of this name is a single text, whatever it looks like. -/
def isRawText (tag : Text) : Bool :=
  Text.sameLetters tag "style".toList || Text.sameLetters tag "script".toList

/-- The value of the first attribute of the given name. -/
def valueOf? (attributes : List Attribute) (name : Text) : Option Text :=
  (attributes.find? fun a => Text.sameLetters a.name name).bind (·.value)

end ComponentStyles
