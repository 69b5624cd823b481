import ComponentStyles.Source.Span

/-!
Selectors: lists of chains of simple selectors.
-/

namespace ComponentStyles

/-- How a simple selector is tied to the one before it. -/
inductive Combinator where
  /-- It speaks of the same element, or stands first. -/
  | same
  | descendant
  | child
  | next
  | subsequent
deriving DecidableEq, Repr

/-- One colon or two. -/
inductive PseudoForm where
  | ofClass
  | ofElement
deriving DecidableEq, Repr

mutual

inductive SimpleSelector where
  /-- `*` -/
  | universal (span : Span)
  /-- `name` -/
  | element (name : Text) (span : Span)
  /-- `.name` -/
  | byClass (name : Text) (span : Span)
  /-- `#name` -/
  | byId (name : Text) (span : Span)
  /-- `[raw]`, kept as written between the brackets. -/
  | attribute (raw : Text) (span : Span)
  /-- `:name`, `::name`, either of them with an argument in parentheses. -/
  | pseudo (form : PseudoForm) (name : Text) (argument : PseudoArgument) (span : Span)

inductive PseudoArgument where
  | absent
  /-- Anything that is not read as selectors, as written. -/
  | raw (text : Text)
  | selectors (list : List Selector) (span : Span)

/-- A chain of simple selectors such as `nav > .item:hover`. -/
inductive Selector where
  | mk (parts : List SelectorPart) (span : Span)

/-- A simple selector with the combinator in front of it. -/
inductive SelectorPart where
  | mk (combinator : Combinator) (simple : SimpleSelector)

end

deriving instance Repr for SimpleSelector, PseudoArgument, Selector, SelectorPart

instance : Inhabited SimpleSelector := ⟨.universal .detached⟩

/-- Selectors separated by commas. -/
structure SelectorList where
  selectors : List Selector
  span : Span
deriving Repr

end ComponentStyles
