import ComponentStyles.Text

/-!
Reading values of known kinds from JSON text.

Values are read from left to right, and the first fault ends the reading. So a value of the
wrong kind is found before anything that is wrong behind it. What nobody asks for is skipped;
it must be JSON, but numbers in it may have any size, and strings any surrogates.
-/

namespace ComponentStyles.Json

inductive Fault where
  /-- The text is not JSON. -/
  | malformed
  /-- A value is of another kind than asked for, or there are too many or too few of them. -/
  | mismatch
  /-- The text ends too early. -/
  | ended
deriving DecidableEq, Repr

/-- Reads something from the front of a text; the rest of the text is left. -/
abbrev Reader (Result : Type) := Text → Except Fault (Result × Text)

namespace Reader

def skipBlanks (text : Text) : Text :=
  text.dropWhile fun c => c = ' ' || c = '\n' || c = '\t' || c = '\r'

def word : Text → Text → Except Fault Text
  | [], text => .ok text
  | _ :: _, [] => .error .ended
  | e :: expected, c :: rest => if e = c then word expected rest else .error .malformed

/-! ## Numbers -/

/-- The number `digits` times ten to the `exponent`. -/
structure Decimal where
  digits : Nat
  exponent : Int
deriving DecidableEq, Repr

/-- The least number that rounds to no finite number of double precision. -/
def doubleBound : Nat :=
  Nat.pow 2 1024 - Nat.pow 2 970

/-- Whether the number is too large for double precision. Its order of magnitude decides, except
next to the bound. -/
def Decimal.isHuge (d : Decimal) : Bool :=
  let magnitude := (Nat.toDigits 10 d.digits).length + d.exponent
  if d.digits = 0 || magnitude < 309 then false
  else if 309 < magnitude then true
  else if d.exponent < 0 then doubleBound * Nat.pow 10 (-d.exponent).toNat ≤ d.digits
  else doubleBound ≤ d.digits * Nat.pow 10 d.exponent.toNat

def naturalOf (digits : Text) : Nat :=
  digits.foldl (fun n c => 10 * n + (c.toNat - '0'.toNat)) 0

def digits (text : Text) : Except Fault (Text × Text) :=
  match text.takeWhile Char.isDigit, text.dropWhile Char.isDigit with
  | [], [] => .error .ended
  | [], _ => .error .malformed
  | found, rest => .ok (found, rest)

/-- Reads one or more digits, the first of which is a zero only if it is the last one. -/
def wholeDigits (text : Text) : Except Fault (Text × Text) := do
  match ← digits text with
  | ('0' :: _ :: _, _) => .error .malformed
  | found => .ok found

def fraction : Text → Except Fault (Text × Text)
  | '.' :: rest => digits rest
  | text => .ok ([], text)

def exponent (text : Text) : Except Fault (Int × Text) := do
  match text with
  | 'e' :: '-' :: rest | 'E' :: '-' :: rest =>
      let (found, rest) ← digits rest
      .ok (-naturalOf found, rest)
  | 'e' :: '+' :: rest | 'E' :: '+' :: rest | 'e' :: rest | 'E' :: rest =>
      let (found, rest) ← digits rest
      .ok (naturalOf found, rest)
  | _ => .ok (0, text)

def unsigned (text : Text) : Except Fault (Decimal × Text) := do
  let (whole, rest) ← wholeDigits text
  let (part, rest) ← fraction rest
  let (power, rest) ← exponent rest
  .ok (⟨naturalOf (whole ++ part), power - part.length⟩, rest)

/-- Reads a number, and gives its absolute value. -/
def number : Reader Decimal
  | '-' :: rest => unsigned rest
  | text => unsigned text

/-! ## Strings -/

inductive Escaped where
  | character (c : Char)
  /-- A UTF-16 code unit. -/
  | unit (n : Nat)
deriving DecidableEq, Repr

def hexValue? (c : Char) : Option Nat :=
  if c.isDigit then some (c.toNat - '0'.toNat)
  else if 'a' ≤ c && c ≤ 'f' then some (c.toNat - 'a'.toNat + 10)
  else if 'A' ≤ c && c ≤ 'F' then some (c.toNat - 'A'.toNat + 10)
  else none

/-- Reads four hexadecimal digits. The text ends too early if fewer than four bytes are left. -/
def codeUnit (text : Text) : Except Fault (Nat × Text) :=
  if Text.size (text.take 4) < 4 then .error .ended
  else
    match (text.take 4).mapM hexValue? with
    | some values => .ok (values.foldl (fun n value => 16 * n + value) 0, text.drop 4)
    | none => .error .malformed

/-- The character that a letter behind a backslash stands for. -/
def unescape? (c : Char) : Option Char :=
  match c with
  | '"' | '\\' | '/' => some c
  | 'b' => some '\x08'
  | 'f' => some '\x0c'
  | 'n' => some '\n'
  | 'r' => some '\r'
  | 't' => some '\t'
  | _ => none

def escaped : Text → Except Fault (Escaped × Text)
  | [] => .error .ended
  | 'u' :: rest => (codeUnit rest).map fun (n, rest) => (.unit n, rest)
  | c :: rest =>
      match unescape? c with
      | some c => .ok (.character c, rest)
      | none => .error .malformed

def isLeading (n : Nat) : Bool :=
  0xD800 ≤ n && n < 0xDC00

def isTrailing (n : Nat) : Bool :=
  0xDC00 ≤ n && n < 0xE000

/-- The character that a pair of code units stands for. -/
def ofPair (leading trailing : Nat) : Char :=
  Char.ofNat (0x10000 + (leading - 0xD800) * 0x400 + (trailing - 0xDC00))

/-- Reads the second code unit of a pair. -/
def pairWith (leading : Nat) : Text → Except Fault (Char × Text)
  | [] | ['\\'] => .error .ended
  | '\\' :: 'u' :: rest => do
      let (trailing, rest) ← codeUnit rest
      if isTrailing trailing then .ok (ofPair leading trailing, rest) else .error .malformed
  | _ => .error .malformed

/-- Reads the character that an escape stands for, behind its backslash. Code units of pairs
only stand in pairs. -/
def escapedCharacter (text : Text) : Except Fault (Char × Text) := do
  match ← escaped text with
  | (.character c, rest) => .ok (c, rest)
  | (.unit n, rest) =>
      if isTrailing n then .error .malformed
      else if isLeading n then pairWith n rest
      else .ok (Char.ofNat n, rest)

def stringRest (text : Text) : Except Fault (Text × Text) :=
  match text with
  | [] => .error .ended
  | '"' :: rest => .ok ([], rest)
  | '\\' :: rest => do
      let (c, next) ← escapedCharacter rest
      if _shorter : next.length ≤ rest.length then
        let (more, last) ← stringRest next
        .ok (c :: more, last)
      else
        .error .malformed
  | c :: rest => do
      if c.toNat < 32 then .error .malformed
      else
        let (more, last) ← stringRest rest
        .ok (c :: more, last)
termination_by text.length

def skipString (text : Text) : Except Fault Text :=
  match text with
  | [] => .error .ended
  | '"' :: rest => .ok rest
  | '\\' :: rest => do
      let (_, next) ← escaped rest
      if _shorter : next.length ≤ rest.length then skipString next else .error .malformed
  | c :: rest => if c.toNat < 32 then .error .malformed else skipString rest
termination_by text.length

/-! ## Lists and objects -/

inductive Next where
  /-- A further item, which starts here. -/
  | item (rest : Text)
  /-- The end, with what is left behind it. -/
  | closed (rest : Text)
deriving Repr

/-- Goes to the next item in front of the bracket `close`. All items but the first one stand
behind a comma. -/
def nextItem (close : Char) (first : Bool) (text : Text) : Except Fault Next :=
  match skipBlanks text with
  | [] => .error .ended
  | c :: rest =>
      if c = close then .ok (.closed rest)
      else if first then .ok (.item (c :: rest))
      else if c = ',' then
        match skipBlanks rest with
        | [] => .error .ended
        | c :: rest => if c = close then .error .malformed else .ok (.item (c :: rest))
      else .error .malformed

/-- Goes behind the opening quote of the next key of an object. -/
def nextKey (first : Bool) (text : Text) : Except Fault Next := do
  match ← nextItem '\x7d' first text with
  | .item ('"' :: rest) => .ok (.item rest)
  | .item _ => .error .malformed
  | .closed rest => .ok (.closed rest)

def colon (text : Text) : Except Fault Text :=
  match skipBlanks text with
  | [] => .error .ended
  | ':' :: rest => .ok rest
  | _ => .error .malformed

/-! ## Skipping values -/

/-- A value that is still open. -/
inductive Bracket where
  | list
  | object
deriving DecidableEq, Repr

/-- Skips a value, or only its opening bracket if it is a list or an object. -/
def skipFront (text : Text) : Except Fault (Option Bracket × Text) := do
  match skipBlanks text with
  | [] => .error .ended
  | '[' :: rest => .ok (some .list, rest)
  | '\x7b' :: rest => .ok (some .object, rest)
  | 'n' :: rest => .ok (none, ← word "ull".toList rest)
  | 't' :: rest => .ok (none, ← word "rue".toList rest)
  | 'f' :: rest => .ok (none, ← word "alse".toList rest)
  | '"' :: rest => .ok (none, ← skipString rest)
  | c :: rest =>
      if c = '-' || c.isDigit then
        match number (c :: rest) with
        | .ok (_, rest) => .ok (none, rest)
        | .error _ => .error .malformed
      else
        .error .malformed

/-- Goes to the next value inside a bracket. -/
def Bracket.next (bracket : Bracket) (first : Bool) (text : Text) : Except Fault Next := do
  match bracket with
  | list => nextItem ']' first text
  | object =>
      match ← nextKey first text with
      | .item key => .ok (.item (← colon (← skipString key)))
      | .closed rest => .ok (.closed rest)

/-- Skips everything up to the end of the outermost of the given brackets. The innermost one
comes first, and `first` tells whether it is still empty. -/
def skipOpen (brackets : List Bracket) (first : Bool) (text : Text) : Except Fault Text :=
  match brackets with
  | [] => .ok text
  | bracket :: outer => do
      match ← bracket.next first text with
      | .closed rest =>
          if _shorter : rest.length < text.length then skipOpen outer false rest
          else .error .malformed
      | .item value =>
          let (inner, rest) ← skipFront value
          if _shorter : rest.length < text.length then
            match inner with
            | some inner => skipOpen (inner :: bracket :: outer) true rest
            | none => skipOpen (bracket :: outer) false rest
          else
            .error .malformed
termination_by text.length

def skipValue (text : Text) : Except Fault Text := do
  match ← skipFront text with
  | (some bracket, rest) => skipOpen [bracket] true rest
  | (none, rest) => .ok rest

/-! ## Values of known kinds -/

/-- The fault of a text in front of which a value of another kind is expected. A value without
parts is read to its end first. -/
def unexpected (text : Text) : Fault :=
  let faultOf {Result : Type} : Except Fault Result → Fault
    | .ok _ => .mismatch
    | .error fault => fault
  match skipBlanks text with
  | [] => .ended
  | 'n' :: rest => faultOf (word "ull".toList rest)
  | 't' :: rest => faultOf (word "rue".toList rest)
  | 'f' :: rest => faultOf (word "alse".toList rest)
  | '"' :: rest => faultOf (stringRest rest)
  | '[' :: _ | '\x7b' :: _ => .mismatch
  | c :: rest =>
      if c = '-' || c.isDigit then
        match number (c :: rest) with
        | .ok (value, _) => if value.isHuge then .malformed else .mismatch
        | .error fault => fault
      else
        .malformed

def string : Reader Text := fun text =>
  match skipBlanks text with
  | '"' :: rest => stringRest rest
  | _ => .error (unexpected text)

def truth : Reader Bool := fun text => do
  match skipBlanks text with
  | 't' :: rest => .ok (true, ← word "rue".toList rest)
  | 'f' :: rest => .ok (false, ← word "alse".toList rest)
  | _ => .error (unexpected text)

/-- Reads a value, or null. -/
def optional {Result : Type} (value : Reader Result) : Reader (Option Result) := fun text => do
  match skipBlanks text with
  | 'n' :: rest => .ok (none, ← word "ull".toList rest)
  | _ =>
      let (found, rest) ← value text
      .ok (some found, rest)

/-- Reads the strings of a list behind its opening bracket, or behind an item. -/
def stringsFrom (first : Bool) (text : Text) : Except Fault (List Text × Text) := do
  match ← nextItem ']' first text with
  | .closed rest => .ok ([], rest)
  | .item item =>
      let (found, rest) ← string item
      if _shorter : rest.length < text.length then
        let (more, last) ← stringsFrom false rest
        .ok (found :: more, last)
      else
        .error .malformed
termination_by text.length

def strings : Reader (List Text) := fun text =>
  match skipBlanks text with
  | '[' :: rest => stringsFrom true rest
  | _ => .error (unexpected text)

end Reader

end ComponentStyles.Json
