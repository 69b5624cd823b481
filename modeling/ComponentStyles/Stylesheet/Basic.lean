import ComponentStyles.Source.File
import ComponentStyles.Stylesheet.Selector
import ComponentStyles.Stylesheet.Value

/-!
Stylesheets as trees.
-/

namespace ComponentStyles

/-- The two ways to write a variable definition. -/
inductive DefinitionForm where
  /-- `@name: value;` -/
  | directive
  /-- `var-name: value;` -/
  | property
deriving DecidableEq, Repr, Inhabited

structure Definition where
  name : Text
  value : Value
  form : DefinitionForm
  span : Span
deriving Repr, Inhabited

/-- `property: value`, possibly marked `!important`. -/
structure Declaration where
  property : Text
  value : Value
  important : Bool
  span : Span
deriving Repr

inductive Item where
  | declaration (declaration : Declaration)
  | definition (definition : Definition)
deriving Repr

/-- A block of declarations between braces. -/
structure Block where
  items : List Item
  span : Span
deriving Repr

/-- The block of an at-rule that holds no statements. -/
inductive AtRuleBody where
  | declarations (block : Block)
  /-- Anything else, as written between the braces. -/
  | raw (text : Text)
deriving Repr

/-- A statement at the top of a stylesheet or inside a conditional group. -/
inductive Statement where
  /-- `selectors { declarations }` -/
  | rule (selectors : SelectorList) (block : Block) (span : Span)
  /-- A variable definition outside any block. -/
  | definition (definition : Definition)
  /-- `@import target media;` -/
  | importing (target : Text) (media : Option Text) (span : Span)
  /-- `@media`, `@supports`, `@document` or `@layer` around other statements. -/
  | conditional (name condition : Text) (statements : List Statement) (span : Span)
  /-- Every other at-rule. -/
  | atRule (name prelude : Text) (body : Option AtRuleBody) (span : Span)
  /-- A comment between statements, without its delimiters. -/
  | comment (text : Text) (span : Span)
deriving Repr, Inhabited

def Statement.span : Statement → Span
  | rule _ _ span => span
  | definition d => d.span
  | importing _ _ span => span
  | conditional _ _ _ span => span
  | atRule _ _ _ span => span
  | comment _ span => span

/-- The statements of a file, or of a part of it. -/
structure Stylesheet where
  file : File
  statements : List Statement
  span : Span
deriving Repr

end ComponentStyles
