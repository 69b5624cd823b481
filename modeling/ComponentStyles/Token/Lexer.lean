import ComponentStyles.Token.Basic

/-!
Cutting a stylesheet into tokens.

Every token is the longest text in front that the pattern of some kind describes. Where no
pattern describes any text, one invalid token takes the longest text that could still have
become a token, and at least one character. So the texts of the tokens join to the input.
-/

namespace ComponentStyles.Token

/-- The patterns still in play after some characters, each with its kind. -/
abbrev Race := List (Kind × Pattern)

namespace Race

def start : Race :=
  Kind.described.map fun kind => (kind, kind.pattern)

/-- The patterns in play after one more character. -/
def advance (race : Race) (c : Char) : Race :=
  (race.map fun (kind, pattern) => (kind, pattern.derivative c)).filter
    fun (_, pattern) => pattern.isViable

/-- The first kind whose pattern describes what has been read. -/
def winner? (race : Race) : Option Kind :=
  (race.find? fun (_, pattern) => pattern.nullable).map (·.1)

/-- The kind and the length of the longest described text in front. -/
def longest? : Race → Text → Option (Kind × Nat)
  | [], _ => none
  | race, [] => race.winner?.map (·, 0)
  | race, c :: rest =>
      match longest? (race.advance c) rest with
      | some (kind, length) => some (kind, length + 1)
      | none => race.winner?.map (·, 0)

/-- The number of characters in front that some text of a pattern in play starts with. -/
def reach : Race → Text → Nat
  | _, [] => 0
  | race, c :: rest =>
      match race.advance c with
      | [] => 0
      | next => reach next rest + 1

end Race

/-- The kind and the length of the token in front of a text; the length is not zero. -/
def measure (text : Text) : Kind × Nat :=
  match Race.start.longest? text with
  | some (kind, length + 1) => (kind, length + 1)
  | _ => (.invalid, max 1 (Race.start.reach text))

/-- A token has at least one character. -/
theorem measure_pos (text : Text) : 0 < (measure text).2 := by
  unfold measure
  split
  · exact Nat.succ_pos _
  · exact Nat.lt_of_lt_of_le Nat.one_pos (Nat.le_max_left _ _)

/-- The tokens of a text that starts `offset` bytes into its file. -/
def ofText (offset : Nat) (text : Text) : List Token :=
  match text with
  | [] => []
  | c :: rest =>
      let (kind, length) := measure (c :: rest)
      let lexeme := c :: rest.take (length - 1)
      let stop := offset + Text.size lexeme
      ⟨kind, lexeme, ⟨offset, stop⟩⟩ :: ofText stop (rest.drop (length - 1))
termination_by text.length

end ComponentStyles.Token
