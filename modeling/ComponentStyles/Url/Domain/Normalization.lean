import ComponentStyles.Text
import ComponentStyles.Url.Domain.CombiningClass
import ComponentStyles.Url.Domain.Composite

/-!
The composed normal form of a text.

Texts that look the same have the same normal form: composites are taken apart, the marks behind
a letter are put in the order of their classes, and then letters and marks are composed again.
-/

namespace ComponentStyles.Url.Domain

/-- A character with its canonical combining class. -/
structure Classed where
  char : Char
  combining : Nat
deriving DecidableEq, Repr

/-- Takes each composite apart into its two parts. -/
def split (text : Text) : Text :=
  text.flatMap fun c =>
    match parts? c with
    | some (a, b) => [a, b]
    | none => [c]

/-- Takes all composites apart. None is made of more than four characters, so three rounds are
enough. -/
def decompose (text : Text) : Text :=
  split (split (split text))

/-- Puts a character in front of others in order: behind the marks of lower classes if it is a
mark. -/
def insertMark (c : Classed) : List Classed → List Classed
  | [] => [c]
  | next :: rest =>
      if 0 < next.combining && next.combining < c.combining then next :: insertMark c rest
      else c :: next :: rest

/-- Puts the marks behind each letter in the order of their classes. Marks of one class keep
their order. -/
def sortMarks (text : List Classed) : List Classed :=
  text.foldr insertMark []

/-- Composes a letter with what follows, where `held` are the marks behind the letter that do not
compose with it, the last one first. A mark composes with the letter only if the marks between
them are of lower classes, and a letter only if there are none. -/
def composeWith (letter : Char) (held : List Classed) : List Classed → Text
  | [] => letter :: (held.reverse.map (·.char))
  | next :: rest =>
      let reaches := held.head?.all (·.combining < next.combining)
      match if reaches then composite? letter next.char else none with
      | some composite => composeWith composite held rest
      | none =>
          if next.combining == 0 then
            letter :: (held.reverse.map (·.char) ++ composeWith next.char [] rest)
          else composeWith letter (next :: held) rest

/-- Composes letters with what follows them. Marks in front of the first letter stay. -/
def compose : List Classed → Text
  | [] => []
  | c :: rest => if c.combining == 0 then composeWith c.char [] rest else c.char :: compose rest

/-- The composed normal form of a text. -/
def normalize (text : Text) : Text :=
  compose (sortMarks ((decompose text).map fun c => ⟨c, combiningClass c⟩))

end ComponentStyles.Url.Domain
