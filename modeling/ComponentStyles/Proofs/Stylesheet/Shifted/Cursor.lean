import ComponentStyles.Proofs.Stylesheet.Shifted.Tree
import ComponentStyles.Stylesheet.Parser.Cursor
import ComponentStyles.Token.Lexer

/-!
# Tokens further on

A text that starts further on in its file is cut into the same tokens there. Moving through tokens
only copies offsets, so it commutes with the shift; what decides about the way are kinds and texts of
tokens.
-/

namespace ComponentStyles

section Tokens

variable (distance : Nat)

def Token.shift (token : Token) : Token :=
  { token with span := token.span.shift distance }

def ParseError.shift (error : ParseError) : ParseError :=
  { error with span := error.span.shift distance }

def Cursor.shift (c : Cursor) : Cursor :=
  ⟨c.rest.map (Token.shift distance), c.lastEnd + distance, c.stop + distance,
    c.errors.map (ParseError.shift distance)⟩

end Tokens

variable {distance : Nat}

/-- The tokens of a text that starts further on in its file. -/
theorem Token.ofText_add (offset : Nat) (text : Text) :
    ofText (offset + distance) text = (ofText offset text).map (Token.shift distance) := by
  induction offset, text using ofText.induct with
  | case1 offset => rw [ofText, ofText, List.map_nil]
  | case2 offset c rest kind length measured lexeme stop inductionHypothesis =>
      have further : offset + distance + Text.size lexeme = stop + distance :=
        Nat.add_right_comm _ _ _
      rw [ofText, ofText, measured, List.map_cons, ← inductionHypothesis]
      show ⟨kind, lexeme, ⟨offset + distance, offset + distance + Text.size lexeme⟩⟩ ::
        ofText (offset + distance + Text.size lexeme) _ = _
      rw [further]
      rfl

@[simp] theorem Token.kind_shift (token : Token) : (token.shift distance).kind = token.kind := rfl

@[simp] theorem Token.text_shift (token : Token) : (token.shift distance).text = token.text := rfl

namespace Cursor

variable {c : Cursor}

section Moving

@[simp] theorem rest_shift (c : Cursor) :
    (c.shift distance).rest = c.rest.map (Token.shift distance) := rfl

@[simp] theorem current_shift (c : Cursor) :
    (c.shift distance).current = c.current.shift distance := by
  rw [current, current, rest_shift]
  cases c.rest <;> rfl

@[simp] theorem kind_shift (c : Cursor) : (c.shift distance).kind = c.kind := by
  rw [kind, current_shift]
  rfl

@[simp] theorem length_rest_shift (c : Cursor) :
    (c.shift distance).rest.length = c.rest.length :=
  List.length_map _

theorem rest_shift_of_rest {token : Token} {tail : List Token} (whole : c.rest = token :: tail) :
    (c.shift distance).rest = token.shift distance :: tail.map (Token.shift distance) := by
  rw [rest_shift, whole, List.map_cons]

theorem rest_shift_of_nil (nothing : c.rest = []) : (c.shift distance).rest = [] := by
  rw [rest_shift, nothing, List.map_nil]

/-- Where a cursor moves is a matter of what it passes. -/
theorem goTo_shift (c : Cursor) (taken rest : List Token) :
    (c.shift distance).goTo (taken.map (Token.shift distance)) (rest.map (Token.shift distance)) =
      (c.goTo taken rest).shift distance := by
  have sameEnd : ∀ last : Option Token,
      ((last.map (Token.shift distance)).map fun t => t.span.stop).getD (c.lastEnd + distance) =
        (last.map fun t => t.span.stop).getD c.lastEnd + distance := by
    rintro (_ | _) <;> rfl
  rw [goTo, goTo, List.filter_map, List.getLast?_map]
  simp only [shift, mk.injEq, true_and, and_true]
  exact sameEnd _

@[simp] theorem advance_shift (c : Cursor) :
    (c.shift distance).advance = c.advance.shift distance := by
  rw [advance, advance, ← goTo_shift, List.map_take, List.map_drop, rest_shift]

@[simp] theorem skipTrivia_shift (c : Cursor) :
    (c.shift distance).skipTrivia = c.skipTrivia.shift distance := by
  rw [skipTrivia, skipTrivia, rest_shift, List.dropWhile_map]
  rfl

@[simp] theorem report_shift (c : Cursor) (problem : Problem) :
    (c.shift distance).report problem = (c.report problem).shift distance := by
  rw [report, report, current_shift]
  simp [shift, ParseError.shift, Token.shift]

@[simp] theorem unexpected_shift (c : Cursor) (expected : Expectation) :
    (c.shift distance).unexpected expected = (c.unexpected expected).shift distance := by
  rw [unexpected, unexpected, kind_shift, report_shift]

@[simp] theorem expect_shift (c : Cursor) (kind : Token.Kind) :
    (c.shift distance).expect kind = (c.expect kind).shift distance := by
  simp only [expect, kind_shift, advance_shift, report_shift, unexpected_shift,
    apply_ite (shift distance)]

/-- What commutes with the shift at every step commutes with it in repetition. -/
theorem repeatedly_shift {Found : Type} {step : Cursor → Option (List Found × Cursor)}
    {further : Found → Found} (commutes : ∀ c : Cursor, step (c.shift distance) =
      (step c).map (Prod.map (List.map further) (shift distance))) (c : Cursor) :
    (c.shift distance).repeatedly step =
      (c.repeatedly step).map (List.map further) (shift distance) := by
  induction c using repeatedly.induct step with
  | case1 c declines =>
      rw [repeatedly, repeatedly, commutes, declines]
      rfl
  | case2 c found next stepped shorter more last _ inductionHypothesis =>
      rw [repeatedly, repeatedly, commutes, stepped]
      simp only [Option.map_some, Prod.map_apply, length_rest_shift, shorter, if_true,
        inductionHypothesis, List.map_append, Prod.map_fst, Prod.map_snd]
  | case3 c found next stepped stuck =>
      rw [repeatedly, repeatedly, commutes, stepped]
      simp only [Option.map_some, Prod.map_apply, length_rest_shift, stuck, if_false]

end Moving

section Skipping

/-- The two parts of a row of tokens, further on. -/
def shiftParted (distance : Nat) : List Token × List Token → List Token × List Token :=
  Prod.map (List.map (Token.shift distance)) (List.map (Token.shift distance))

theorem splitRaw_shift (stops : List Token.Kind) (depth : Nat) (tokens : List Token) :
    splitRaw stops depth (tokens.map (Token.shift distance)) =
      shiftParted distance (splitRaw stops depth tokens) := by
  induction tokens generalizing depth with
  | nil => rfl
  | cons token rest inductionHypothesis =>
      simp only [List.map_cons, splitRaw, inductionHypothesis, apply_ite (shiftParted distance)]
      rfl

theorem splitBlock_shift (depth : Nat) (tokens : List Token) :
    splitBlock depth (tokens.map (Token.shift distance)) =
      shiftParted distance (splitBlock depth tokens) := by
  induction tokens generalizing depth with
  | nil => rfl
  | cons token rest inductionHypothesis =>
      simp only [List.map_cons, splitBlock, inductionHypothesis, Token.kind_shift]
      split <;> rfl

theorem splitDeclaration_shift (depth : Nat) (tokens : List Token) :
    splitDeclaration depth (tokens.map (Token.shift distance)) =
      shiftParted distance (splitDeclaration depth tokens) := by
  induction tokens generalizing depth with
  | nil => rfl
  | cons token rest inductionHypothesis =>
      simp only [List.map_cons, splitDeclaration, inductionHypothesis, Token.kind_shift]
      split <;> rfl

theorem raw_shift (tokens : List Token) : raw (tokens.map (Token.shift distance)) = raw tokens := by
  rw [raw, raw, List.flatMap_map]
  rfl

@[simp] theorem readRaw_shift (c : Cursor) (stops : List Token.Kind) :
    (c.shift distance).readRaw stops = (c.readRaw stops).map id (shift distance) := by
  simp only [readRaw, rest_shift, splitRaw_shift, shiftParted, Prod.map_fst, Prod.map_snd,
    raw_shift, goTo_shift, Prod.map_apply, id_eq]

@[simp] theorem readBlock_shift (c : Cursor) :
    (c.shift distance).readBlock = c.readBlock.map id (shift distance) := by
  simp only [readBlock, advance_shift, rest_shift, splitBlock_shift, shiftParted, Prod.map_fst,
    Prod.map_snd, raw_shift, goTo_shift, kind_shift, report_shift, Prod.map_apply, id_eq,
    apply_ite (shift distance)]

@[simp] theorem skipDeclaration_shift (c : Cursor) :
    (c.shift distance).skipDeclaration = c.skipDeclaration.shift distance := by
  simp only [skipDeclaration, rest_shift, splitDeclaration_shift, shiftParted, Prod.map_fst,
    Prod.map_snd, goTo_shift, kind_shift, advance_shift, apply_ite (shift distance)]

@[simp] theorem skipStatement_shift (c : Cursor) :
    (c.shift distance).skipStatement = c.skipStatement.shift distance := by
  simp only [skipStatement, rest_shift, List.takeWhile_map, List.dropWhile_map, goTo_shift,
    kind_shift, Function.comp_def, Token.kind_shift]
  split
  · rw [advance_shift]
  · rw [readBlock_shift, Prod.map_snd]
  · rfl

end Skipping

end Cursor

end ComponentStyles
