import ComponentStyles.Text
import ComponentStyles.Url.Domain.Allowed
import ComponentStyles.Url.Domain.Mapping.Run
import ComponentStyles.Url.Domain.Mapping.Letters
import ComponentStyles.Url.Domain.Mapping.Ideographs
import ComponentStyles.Url.Domain.Mapping.Forms
import ComponentStyles.Url.Domain.Mapping.Symbols

/-!
What becomes of the characters of a text that is read as a domain.

Capitals become small letters, and compatibility characters become what they stand for.
Characters that are not seen are dropped.
-/

namespace ComponentStyles.Url.Domain

/-- Whether a character is in ASCII. -/
def isAscii (c : Char) : Bool :=
  c.toNat < 128

/-- The code points that are dropped. -/
def droppedRanges : List (Nat × Nat) :=
  [(0xAD, 0xAD), (0x34F, 0x34F), (0x115F, 0x1160), (0x17B4, 0x17B5), (0x180B, 0x180F),
    (0x200B, 0x200B), (0x2060, 0x2064), (0x206A, 0x206F), (0x3164, 0x3164), (0xFE00, 0xFE0F),
    (0xFEFF, 0xFEFF), (0xFFA0, 0xFFA0), (0x1BCA0, 0x1BCA3), (0x1D173, 0x1D17A),
    (0xE0100, 0xE01EF)]

theorem areApart_droppedRanges : areApart droppedRanges = true := by decide

/-- What stands for a code point in rows of replacements. -/
def rowImage? {Image : Type} (rows : List (Nat × List Image)) (n : Nat) : Option Image :=
  rows.findSome? fun (first, images) => if first ≤ n then images[n - first]? else none

/-- The code point that replaces another one alone. -/
def image? (n : Nat) : Option Nat :=
  (runs.findSome? fun run => run.image? n) <|> rowImage? letterImages n <|>
    rowImage? radicalImages n <|> rowImage? ideographImages n <|> rowImage? formImages n <|>
    rowImage? symbolImages n <|> rowImage? highIdeographImages n

/-- The code points that replace another one together. -/
def spelling? (n : Nat) : Option (List Nat) :=
  rowImage? letterSpellings n <|> rowImage? squareSpellings n <|> rowImage? formSpellings n <|>
    rowImage? symbolSpellings n

/-- What a domain holds in place of a character, unless it must not be there. -/
def mapChar? (c : Char) : Option Text :=
  let n := c.toNat
  if isAscii c then some [c.toLower]
  else if inRanges droppedRanges n then some []
  else
    match image? n, spelling? n with
    | some image, _ => some [Char.ofNat image]
    | none, some images => some (images.map Char.ofNat)
    | none, none => if isAllowed n then some [c] else none

/-- Whether a domain holds a character as it is. -/
def isKept (c : Char) : Bool :=
  mapChar? c == some [c]

/-- What a domain holds in place of the characters of a text, unless one must not be there. -/
def map? : Text → Option Text
  | [] => some []
  | c :: rest =>
      match mapChar? c, map? rest with
      | some image, some images => some (image ++ images)
      | _, _ => none

end ComponentStyles.Url.Domain
