import ComponentStyles.Source.Span

/-!
The values of declarations and of variable definitions: rows of terms.
-/

namespace ComponentStyles

/-- The separators that a value may contain. -/
inductive Operator where
  | comma
  | slash
deriving DecidableEq, Repr

/-- A term of a value. -/
inductive Term where
  /-- Any single token without a structure of its own, as written. -/
  | literal (text : Text) (span : Span)
  /-- `var(name)` or `var(name, fallback)`. -/
  | usage (name : Text) (fallback : Option Term) (span : Span)
  /-- `url(target)`, the target without its quotes. -/
  | url (target : Text) (span : Span)
  /-- `name(arguments)`; a parenthesised group is a call without a name. -/
  | call (name : Text) (arguments : List Term) (argumentsSpan span : Span)
  /-- A separator. -/
  | operator (op : Operator) (span : Span)
deriving Repr, Inhabited

def Term.span : Term → Span
  | literal _ span => span
  | usage _ _ span => span
  | url _ span => span
  | call _ _ _ span => span
  | operator _ span => span

/-- A row of terms and where it stands. -/
structure Value where
  terms : List Term
  span : Span
deriving Repr, Inhabited

end ComponentStyles
