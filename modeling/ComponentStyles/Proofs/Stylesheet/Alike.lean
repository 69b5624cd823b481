import ComponentStyles.Stylesheet.Traversal
import Mathlib.Data.List.Forall2

/-!
Stylesheets that differ in the terms of declarations only.

`Stylesheet.AlikeUpTo R` is stated constructor by constructor and not through the traversals, so
that it says of a traversal what it leaves alone: selectors, names, imports, comments, blocks kept
as written, conditions, properties, marks, spans, definitions, and the order of everything.
-/

namespace ComponentStyles

variable {R : List Term → List Term → Prop}

/-- Entries that are the same but for the terms of a declaration, which `R` relates. -/
inductive Item.AlikeUpTo (R : List Term → List Term → Prop) : Item → Item → Prop where
  | declaration {property terms terms' valueSpan important span} :
      R terms terms' →
      Item.AlikeUpTo R (.declaration ⟨property, ⟨terms, valueSpan⟩, important, span⟩)
        (.declaration ⟨property, ⟨terms', valueSpan⟩, important, span⟩)
  | definition (d : Definition) : Item.AlikeUpTo R (.definition d) (.definition d)

/-- Blocks of which the entries are alike one by one. -/
inductive Block.AlikeUpTo (R : List Term → List Term → Prop) : Block → Block → Prop where
  | mk {items items' span} :
      List.Forall₂ (Item.AlikeUpTo R) items items' →
      Block.AlikeUpTo R ⟨items, span⟩ ⟨items', span⟩

mutual

/-- Statements that are the same but for the terms of declarations, which `R` relates. -/
inductive Statement.AlikeUpTo (R : List Term → List Term → Prop) :
    Statement → Statement → Prop where
  | rule {selectors block block' span} :
      block.AlikeUpTo R block' →
      Statement.AlikeUpTo R (.rule selectors block span) (.rule selectors block' span)
  | definition (d : Definition) : Statement.AlikeUpTo R (.definition d) (.definition d)
  | importing {target media span} :
      Statement.AlikeUpTo R (.importing target media span) (.importing target media span)
  | conditional {name condition statements statements' span} :
      StatementsAlikeUpTo R statements statements' →
      Statement.AlikeUpTo R (.conditional name condition statements span)
        (.conditional name condition statements' span)
  | declarations {name prelude block block' span} :
      block.AlikeUpTo R block' →
      Statement.AlikeUpTo R (.atRule name prelude (some (.declarations block)) span)
        (.atRule name prelude (some (.declarations block')) span)
  | raw {name prelude text span} :
      Statement.AlikeUpTo R (.atRule name prelude (some (.raw text)) span)
        (.atRule name prelude (some (.raw text)) span)
  | bodiless {name prelude span} :
      Statement.AlikeUpTo R (.atRule name prelude none span) (.atRule name prelude none span)
  | comment {text span} : Statement.AlikeUpTo R (.comment text span) (.comment text span)

/-- Rows of statements that are alike one by one. -/
inductive StatementsAlikeUpTo (R : List Term → List Term → Prop) :
    List Statement → List Statement → Prop where
  | nil : StatementsAlikeUpTo R [] []
  | cons {statement statement' rest rest'} :
      statement.AlikeUpTo R statement' →
      StatementsAlikeUpTo R rest rest' →
      StatementsAlikeUpTo R (statement :: rest) (statement' :: rest')

end

/-- Stylesheets of one file and extent with statements that are alike. -/
structure Stylesheet.AlikeUpTo (R : List Term → List Term → Prop) (sheet other : Stylesheet) :
    Prop where
  file : other.file = sheet.file
  span : other.span = sheet.span
  statements : StatementsAlikeUpTo R sheet.statements other.statements

variable {change : List Term → List Term}

theorem Item.alikeUpTo_mapTerms (related : ∀ terms, R terms (change terms)) (item : Item) :
    item.AlikeUpTo R (item.mapTerms change id) := by
  cases item with
  | declaration d => exact .declaration (related d.value.terms)
  | definition d => exact .definition d

theorem Block.alikeUpTo_mapTerms (related : ∀ terms, R terms (change terms)) (block : Block) :
    block.AlikeUpTo R (block.mapTerms change id) := by
  refine .mk (List.forall₂_map_right_iff.mpr (List.forall₂_same.mpr ?_))
  intro item _
  exact item.alikeUpTo_mapTerms related

mutual

theorem Statement.alikeUpTo_mapTerms (related : ∀ terms, R terms (change terms)) :
    (statement : Statement) → statement.AlikeUpTo R (statement.mapTerms change id)
  | .rule _ block _ => .rule (block.alikeUpTo_mapTerms related)
  | .definition d => .definition d
  | .importing _ _ _ => .importing
  | .conditional _ _ statements _ =>
      .conditional (statementsAlikeUpTo_mapTermsOf related statements)
  | .atRule _ _ (some (.declarations block)) _ => .declarations (block.alikeUpTo_mapTerms related)
  | .atRule _ _ (some (.raw _)) _ => .raw
  | .atRule _ _ none _ => .bodiless
  | .comment _ _ => .comment

theorem statementsAlikeUpTo_mapTermsOf (related : ∀ terms, R terms (change terms)) :
    (statements : List Statement) →
      StatementsAlikeUpTo R statements (mapTermsOf change id statements)
  | [] => .nil
  | statement :: rest =>
      .cons (statement.alikeUpTo_mapTerms related) (statementsAlikeUpTo_mapTermsOf related rest)

end

/-- Changing the terms of declarations changes nothing else. -/
theorem Stylesheet.alikeUpTo_mapTerms (related : ∀ terms, R terms (change terms))
    (sheet : Stylesheet) : sheet.AlikeUpTo R (sheet.mapTerms change id) :=
  ⟨rfl, rfl, statementsAlikeUpTo_mapTermsOf related sheet.statements⟩

end ComponentStyles
