import ComponentStyles.Text

/-!
Regular patterns over characters and their derivatives.

`Matches` is the language of a pattern. `derivative` and `nullable` are its executable
counterpart: the derivative of a pattern by a character is a pattern for what may follow that
character. Derivatives are kept small by three laws, applied where a pattern is put together:
`never` is neutral for choice and absorbing for sequence, and a choice lists no alternative
twice.
-/

namespace ComponentStyles

/-- A set of characters: those in one of the ranges or, when negated, those in none. -/
structure CharClass where
  negated : Bool
  ranges : List (Char × Char)
deriving DecidableEq, Repr

namespace CharClass

/-- The characters of the given ranges, ends included. -/
def within (ranges : List (Char × Char)) : CharClass := ⟨false, ranges⟩

def oneOf (chars : List Char) : CharClass := ⟨false, chars.map fun c => (c, c)⟩

def noneOf (chars : List Char) : CharClass := ⟨true, chars.map fun c => (c, c)⟩

def contains (cls : CharClass) (c : Char) : Bool :=
  cls.negated ^^ cls.ranges.any fun (low, high) => low.toNat ≤ c.toNat && c.toNat ≤ high.toNat

end CharClass

/-- A regular pattern. -/
inductive Pattern where
  /-- No text at all. -/
  | never
  /-- The empty text. -/
  | empty
  /-- One character of a class. -/
  | one (cls : CharClass)
  /-- Either pattern. -/
  | either (left right : Pattern)
  /-- The first pattern, then the second. -/
  | both (first second : Pattern)
  /-- The pattern any number of times. -/
  | many (body : Pattern)
deriving DecidableEq, Repr

namespace Pattern

/-- The texts that a pattern describes. -/
inductive Matches : Pattern → Text → Prop where
  | empty : Matches .empty []
  | one {cls c} : cls.contains c = true → Matches (.one cls) [c]
  | left {p q text} : Matches p text → Matches (.either p q) text
  | right {p q text} : Matches q text → Matches (.either p q) text
  | both {p q a b} : Matches p a → Matches q b → Matches (.both p q) (a ++ b)
  | done {p} : Matches (.many p) []
  | more {p a b} : Matches p a → Matches (.many p) b → Matches (.many p) (a ++ b)

def nullable : Pattern → Bool
  | never => false
  | empty => true
  | one _ => false
  | either p q => nullable p || nullable q
  | both p q => nullable p && nullable q
  | many _ => true

def alternatives : Pattern → List Pattern
  | never => []
  | either p q => alternatives p ++ alternatives q
  | p => [p]

def choice : List Pattern → Pattern
  | [] => never
  | [p] => p
  | p :: rest => either p (choice rest)

/-- The choice between two patterns, without repeated alternatives. -/
def join (p q : Pattern) : Pattern :=
  choice (alternatives p ++ alternatives q).eraseDups

/-- Two patterns in sequence. -/
def sequence : Pattern → Pattern → Pattern
  | never, _ => never
  | empty, q => q
  | p, q => both p q

/-- What may follow `c` in a text of the pattern. -/
def derivative (c : Char) : Pattern → Pattern
  | never => never
  | empty => never
  | one cls => if cls.contains c then empty else never
  | either p q => join (derivative c p) (derivative c q)
  | both p q =>
      if nullable p then join (sequence (derivative c p) q) (derivative c q)
      else sequence (derivative c p) q
  | many p => sequence (derivative c p) (many p)

def accepts (p : Pattern) : Text → Bool
  | [] => nullable p
  | c :: rest => accepts (derivative c p) rest

/-- Whether some text matches, for a pattern whose classes all have a member. -/
def isViable : Pattern → Bool
  | never => false
  | empty => true
  | one _ => true
  | either p q => isViable p || isViable q
  | both p q => isViable p && isViable q
  | many _ => true

def word (text : Text) : Pattern :=
  text.foldr (fun c rest => both (one (.oneOf [c])) rest) empty

def some (p : Pattern) : Pattern := both p (many p)

def maybe (p : Pattern) : Pattern := either p empty

def inOrder : List Pattern → Pattern
  | [] => empty
  | [p] => p
  | p :: rest => both p (inOrder rest)

end Pattern

end ComponentStyles
