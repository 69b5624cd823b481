import ComponentStyles.Text

/-!
JSON values and their written form with one entry a line.

The written form indents by two blanks, leaves every character outside ASCII as it is, and
writes an empty list or object without a line end inside.
-/

namespace ComponentStyles

/-- A JSON value, as far as reports need one. -/
inductive Json where
  | number (n : Nat)
  | string (text : Text)
  | list (items : List Json)
  | object (fields : List (Text × Json))
deriving Repr, Inhabited

namespace Json

/-- The hexadecimal digit of a number below 16, in lower case. -/
def hexDigit (n : Nat) : Char :=
  Nat.digitChar n

def escape (c : Char) : Text :=
  if c = '"' then ['\\', '"']
  else if c = '\\' then ['\\', '\\']
  else if c = '\n' then ['\\', 'n']
  else if c = '\r' then ['\\', 'r']
  else if c = '\t' then ['\\', 't']
  else if c = '\x08' then ['\\', 'b']
  else if c = '\x0c' then ['\\', 'f']
  else if c.toNat < 32 then
    ['\\', 'u', '0', '0', hexDigit (c.toNat / 16), hexDigit (c.toNat % 16)]
  else [c]

def quote (text : Text) : Text :=
  '"' :: text.flatMap escape ++ ['"']

def newLine (depth : Nat) : Text :=
  '\n' :: List.replicate (2 * depth) ' '

mutual

/-- The written form of a value that stands at the given depth. -/
def renderAt (depth : Nat) : Json → Text
  | .number n => Text.numeral n
  | .string text => quote text
  | .list [] => ['[', ']']
  | .list (item :: rest) =>
      '[' :: newLine (depth + 1) ++ renderAt (depth + 1) item ++ renderItems (depth + 1) rest ++
        newLine depth ++ [']']
  | .object [] => ['\x7b', '\x7d']
  | .object ((key, value) :: rest) =>
      '\x7b' :: newLine (depth + 1) ++ quote key ++ ": ".toList ++ renderAt (depth + 1) value ++
        renderFields (depth + 1) rest ++ newLine depth ++ ['\x7d']

def renderItems (depth : Nat) : List Json → Text
  | [] => []
  | item :: rest => ',' :: newLine depth ++ renderAt depth item ++ renderItems depth rest

def renderFields (depth : Nat) : List (Text × Json) → Text
  | [] => []
  | (key, value) :: rest =>
      ',' :: newLine depth ++ quote key ++ ": ".toList ++ renderAt depth value ++
        renderFields depth rest

end

def render (value : Json) : Text :=
  renderAt 0 value

end Json

end ComponentStyles
