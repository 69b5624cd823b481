import ComponentStyles.Text

/-!
Punycode: texts of any characters, written in ASCII.

The characters of ASCII come first, with a hyphen behind them. The digits that follow are numbers,
one for each of the other characters in ascending order. A number says how many places lie between
the place of one character and that of the next, where the places of a code point are in front of,
between and behind all the characters so far, and those of the next code point come after them.
-/

namespace ComponentStyles.Url.Punycode

/-- The value of a digit: letters of either case stand for 0 to 25, and figures for 26 to 35. -/
def digit? (c : Char) : Option Nat :=
  if 'a' ≤ c && c ≤ 'z' then some (c.toNat - 97)
  else if 'A' ≤ c && c ≤ 'Z' then some (c.toNat - 65)
  else if '0' ≤ c && c ≤ '9' then some (c.toNat - 22)
  else none

/-- The least value that a digit of a number must have to be followed by another one. -/
def threshold (bias position : Nat) : Nat :=
  if position ≤ bias then 1 else if bias + 26 ≤ position then 26 else position - bias

/-- The bias for the number behind one of size `delta`, when `count` characters are there. Large
numbers make the next one likely to be large. -/
def adapt (delta count : Nat) (first : Bool) : Nat :=
  let rec shrink : Nat → Nat → Nat → Nat
    | 0, delta, bias => bias + 36 * delta / (delta + 38)
    | fuel + 1, delta, bias =>
        if 455 < delta then shrink fuel (delta / 35) (bias + 36)
        else bias + 36 * delta / (delta + 38)
  let delta := if first then delta / 700 else delta / 2
  shrink 8 (delta + delta / count) 0

/-- What is known between two numbers. -/
structure State where
  /-- The characters so far. -/
  text : Text
  /-- The code point of the character that was put in last. -/
  point : Nat := 128
  /-- The place behind that character. -/
  place : Nat := 0
  bias : Nat := 72
deriving DecidableEq, Repr

/-- Puts in the character that a number leads to, if there is such a character. The number is
counted from the start of the code point of the last one. -/
def State.insert? (state : State) (number : Nat) : Option State :=
  let count := state.text.length + 1
  let point := state.point + number / count
  let place := number % count
  if point.isValidChar then
    some
      { text := state.text.take place ++ Char.ofNat point :: state.text.drop place
        point := point
        place := place + 1
        bias := adapt (number - state.place) count (state.place == 0) }
  else none

/-- The first number that is too large for a place, a weight or a code point. -/
def limit : Nat := 0x100000000

/-- Reads the numbers of a text, where the digits read of the first one come to `number`. Its next
digit stands at `position` and counts `weight`, which is one if no digit is read yet. -/
def readNumbers (state : State) (number weight position : Nat) : Text → Option Text
  | [] => if weight == 1 then some state.text else none
  | c :: rest =>
      match digit? c with
      | none => none
      | some digit =>
          let number := number + digit * weight
          let least := threshold state.bias position
          if limit ≤ number then none
          else if digit < least then
            match state.insert? number with
            | none => none
            | some state => readNumbers state state.place 1 36 rest
          else if limit ≤ weight * (36 - least) then none
          else readNumbers state number (weight * (36 - least)) (position + 36) rest

/-- The text that is written in Punycode, if there is one. Its last hyphen stands behind the
characters of ASCII, unless there are none. -/
def decode? (coded : Text) : Option Text :=
  let digits := (coded.reverse.takeWhile (· != '-')).reverse
  let basic := coded.take (coded.length - digits.length - 1)
  readNumbers { text := basic } 0 1 36 (if basic.isEmpty then coded else digits)

end ComponentStyles.Url.Punycode
