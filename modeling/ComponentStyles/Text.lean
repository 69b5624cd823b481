/-!
Text as a list of characters, and the few operations on it that stylesheets, templates and
messages share: its size in UTF-8 bytes, blanks, words, ASCII case and numerals.

Positions everywhere in this library are byte offsets into the UTF-8 encoding, so `Text.size`
is the length that spans are measured in.
-/

namespace ComponentStyles

/-- The text of a stylesheet, a template or a message. -/
abbrev Text := List Char

namespace Text

/-- The number of bytes of the UTF-8 encoding. -/
def size (text : Text) : Nat :=
  text.foldr (fun c bytes => c.utf8Size + bytes) 0

@[simp] theorem size_nil : size [] = 0 := rfl

@[simp] theorem size_cons (c : Char) (text : Text) :
    size (c :: text) = c.utf8Size + size text := rfl

@[simp] theorem size_append (a b : Text) : size (a ++ b) = size a + size b := by
  induction a with
  | nil => simp
  | cons c rest ih => rw [List.cons_append, size_cons, size_cons, ih, Nat.add_assoc]

/-- Characters with the Unicode property `White_Space`. -/
def isBlank (c : Char) : Bool :=
  let n := c.toNat
  (9 ≤ n && n ≤ 13) || n == 32 || n == 0x85 || n == 0xA0 || n == 0x1680 ||
    (0x2000 ≤ n && n ≤ 0x200A) || n == 0x2028 || n == 0x2029 || n == 0x202F ||
    n == 0x205F || n == 0x3000

def trimStart (text : Text) : Text :=
  text.dropWhile isBlank

def trimEnd (text : Text) : Text :=
  (text.reverse.dropWhile isBlank).reverse

def trim (text : Text) : Text :=
  trimEnd (trimStart text)

/-- Splits off the word in progress: `pending` holds its characters so far. -/
def wordsFrom (pending : Text) : Text → List Text
  | [] => if pending.isEmpty then [] else [pending]
  | c :: rest =>
      if isBlank c then
        if pending.isEmpty then wordsFrom [] rest else pending :: wordsFrom [] rest
      else
        wordsFrom (pending ++ [c]) rest

/-- The maximal runs of characters that are not blank. -/
def words (text : Text) : List Text :=
  wordsFrom [] text

/-- Lower case for ASCII letters; every other character stays. -/
def lower (text : Text) : Text :=
  text.map Char.toLower

/-- Equality up to the case of ASCII letters. -/
def sameLetters (a b : Text) : Bool :=
  lower a == lower b

def numeral (n : Nat) : Text :=
  Nat.toDigits 10 n

/-- Joins texts with a separator between neighbours. -/
def join (separator : Text) (texts : List Text) : Text :=
  List.intercalate separator texts

def startsWith (text part : Text) : Bool :=
  part.isPrefixOf text

def endsWith (text part : Text) : Bool :=
  part.isSuffixOf text

/-- What follows `part` when the text starts with it. -/
def after? (part : Text) : Text → Option Text
  | text => if startsWith text part then some (text.drop part.length) else none

/-- The parts of a text between the given separators; there is always at least one part. -/
def splitOn (separator : Char) : Text → List Text
  | [] => [[]]
  | c :: rest =>
      let parts := splitOn separator rest
      if c = separator then [] :: parts
      else (c :: parts.headD []) :: parts.tail

/-- Splits a text in front of the first occurrence of `part`, if there is one. -/
def splitBefore? (part : Text) : Text → Option (Text × Text)
  | [] => if part.isEmpty then some ([], []) else none
  | c :: rest =>
      if startsWith (c :: rest) part then some ([], c :: rest)
      else (splitBefore? part rest).map fun (before, found) => (c :: before, found)

/-- The lexicographic order by code point, which is also the order of the UTF-8 encodings. -/
def le : Text → Text → Bool
  | [], _ => true
  | _ :: _, [] => false
  | a :: as, b :: bs => if a = b then le as bs else a.toNat < b.toNat

end Text

end ComponentStyles
