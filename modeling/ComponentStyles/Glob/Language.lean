import ComponentStyles.Glob.Basic
import ComponentStyles.Pattern
import ComponentStyles.Text.Utf8

/-!
The paths that a glob describes.

A glob describes a path as a whole, byte by byte: each byte of the UTF-8 encoding is a character
of its own here. So a question mark stands for a part only of a character outside ASCII, and a
class with such a character has its bytes as members.
-/

namespace ComponentStyles

namespace GlobPart

/-- The bytes of a text, each as the character with its number. -/
def byteChars (text : Text) : Text :=
  (Text.bytes text).map Char.ofNat

def anyOne : Pattern :=
  .one (.noneOf [])

def anything : Pattern :=
  .many anyOne

def slash : Pattern :=
  .one (.oneOf ['/'])

/-- The ranges of bytes for a range of characters. Between the last byte of its start and the
first byte of its end, every byte is a member. -/
def byteRanges (range : Char × Char) : List (Char × Char) :=
  let (low, high) := range
  let single (bytes : Text) : List (Char × Char) := bytes.map fun byte => (byte, byte)
  if low = high then single (byteChars [low])
  else
    match (byteChars [low]).getLast?, (byteChars [high]).head? with
    | some first, some last =>
        single (byteChars [low]).dropLast ++ (first, last) :: single ((byteChars [high]).drop 1)
    | _, _ => []

mutual

/-- Whether a part describes nothing, not even the empty text, on its own: alternatives of which
none has a part that describes something. -/
def isVoid : GlobPart → Bool
  | alternatives branches => areBranchesVoid branches
  | _ => false

/-- Whether no part of a branch describes something. -/
def isBranchVoid : List GlobPart → Bool
  | [] => true
  | part :: rest => part.isVoid && isBranchVoid rest

/-- Whether no part of any branch describes something. -/
def areBranchesVoid : List (List GlobPart) → Bool
  | [] => true
  | branch :: rest => isBranchVoid branch && areBranchesVoid rest

end

mutual

/-- The texts that a part describes. Void branches of alternatives do not count, and alternatives
without any other branch are skipped. -/
def pattern : GlobPart → Pattern
  | character c => .word (byteChars [c])
  | anyByte => anyOne
  | anyBytes => anything
  | leading => .either (.maybe slash) (.both anything slash)
  | inside => .both slash anything
  | between => .either slash (.inOrder [slash, anything, slash])
  | oneOf negated ranges => .one ⟨negated, ranges.flatMap byteRanges⟩
  | alternatives branches =>
      if areBranchesVoid branches then .empty else .choice (branchPatterns branches)

/-- The texts that a row of parts describes. -/
def rowPattern : List GlobPart → Pattern
  | [] => .empty
  | part :: rest => .sequence part.pattern (rowPattern rest)

/-- The texts that each branch describes. -/
def branchPatterns : List (List GlobPart) → List Pattern
  | [] => []
  | branch :: rest =>
      if isBranchVoid branch then branchPatterns rest
      else rowPattern branch :: branchPatterns rest

end

end GlobPart

namespace Glob

/-- The paths that a glob describes. Two stars alone describe every path. -/
def pattern (glob : Glob) : Pattern :=
  match glob.parts with
  | [.leading] => GlobPart.anything
  | parts => GlobPart.rowPattern parts

/-- Whether a glob describes a path. -/
def describes (glob : Glob) (path : Text) : Bool :=
  glob.pattern.accepts (GlobPart.byteChars path)

end Glob

end ComponentStyles
