import ComponentStyles.Url.Domain.Direction
import ComponentStyles.Url.Domain.Joining
import ComponentStyles.Url.Domain.CombiningClass
import ComponentStyles.Url.Domain.Mapping
import ComponentStyles.Url.Domain.Normalization
import ComponentStyles.Url.Punycode

/-!
Labels: the parts of a domain between dots.
-/

namespace ComponentStyles.Url.Domain

/-- What every label in Punycode starts with. -/
def punycodeMark : Text := "xn--".toList

/-- The length up to which labels in Punycode are read. -/
def codedLimit : Nat := 2000

/-- The length up to which labels beyond ASCII are written in Punycode. -/
def labelLimit : Nat := 1000

/-- The label that a label of a mapped domain stands for: what it says in Punycode, or itself.
Punycode is for labels beyond ASCII that are mapped and normalized already. -/
def meaning? (label : Text) : Option Text :=
  match Text.after? punycodeMark label with
  | none => some label
  | some coded =>
      if coded.all isAscii && coded.getLast?.any (· != '-') && coded.length ≤ codedLimit then
        (Punycode.decode? coded).filter fun label =>
          label.all isKept && normalize label == label
      else none

/-- Whether a character says that its neighbours join, or that they do not. -/
def isJoiner (c : Char) : Bool :=
  c == '\u200C' || c == '\u200D'

/-- Whether a joiner has something to do between the characters in front of it, the last one
first, and those behind it. It may break up what a virama makes of two consonants. One that keeps
letters apart may also stand between two that would join. -/
def joinerFits (joiner : Char) (before after : Text) : Bool :=
  before.head?.any isVirama ||
    (joiner == '\u200C' && (before.find? fun c => !isTransparent c).any joinsNext &&
      (after.find? fun c => !isTransparent c).any joinsPrevious)

/-- Whether all joiners of a text fit, where `before` is what stands in front of it, the last
character first. -/
def joinersFit (before : Text) : Text → Bool
  | [] => true
  | c :: after => (!isJoiner c || joinerFits c before after) && joinersFit (c :: before) after

/-- Whether a label may stand in a domain. -/
def isLabel (label : Text) : Bool :=
  label.all isAscii ||
    (!label.head?.any isMark && joinersFit [] label && label.length ≤ labelLimit)

/-- Whether a label is read in the same order whatever stands around it: it starts with a letter,
has no letter of the other direction, and ends in a letter of its own direction or a number, marks
aside. A label from right to left does not have numbers of both kinds. -/
def isOrdered (label : Text) : Bool :=
  let directions := label.map direction
  let last? := (directions.reverse.dropWhile (· == .mark)).head?
  match directions with
  | [] => true
  | .leftToRight :: _ =>
      !directions.contains .rightToLeft && !directions.contains .arabicNumber &&
        last?.any fun last => last == .leftToRight || last == .europeanNumber
  | .rightToLeft :: _ =>
      !directions.contains .leftToRight &&
        !(directions.contains .europeanNumber && directions.contains .arabicNumber) &&
        last?.any fun last =>
          last == .rightToLeft || last == .europeanNumber || last == .arabicNumber
  | _ :: _ => false

/-- Whether a label needs the labels of its domain to be ordered. -/
def isBidirectional (label : Text) : Bool :=
  label.any fun c =>
    !isAscii c && (direction c == .rightToLeft || direction c == .arabicNumber)

end ComponentStyles.Url.Domain
