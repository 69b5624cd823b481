import ComponentStyles.Proofs.Stylesheet.Braces.Value
import ComponentStyles.Proofs.Stylesheet.Located.Cursor

/-!
# Braces in blocks

A block is read from its opening brace up to the first closing one that its inside leaves. With the
braces counted on the way this is the one that matches, unless some have been forgotten.
-/

namespace ComponentStyles

open Token

/-- What is read of a block behind its opening brace, up to the place where it stops: through a closing
brace, or else through the end of the text. -/
inductive BlockRun : List Token → List Token → List ParseError → Nat → Prop where
  | closed {behind body : List Token} {closing : Token} {errors : List ParseError}
      (walk : Walk 0 body (strays errors) 0) (closes : closing.kind = .closeBrace) :
      BlockRun behind (body ++ [closing]) errors closing.span.stop
  | unclosed {body : List Token} {errors : List ParseError} {level stop : Nat}
      (walk : Walk 0 body (strays errors) level) : BlockRun [] body errors stop

namespace Cursor

variable {c next last : Cursor}

section Progress

theorem rest_of_end (countable : Countable c.rest) (ends : c.kind = .endOfInput) : c.rest = [] := by
  cases whole : c.rest with
  | nil => rfl
  | cons token tail =>
      rw [kind_of_rest whole] at ends
      exact absurd ends (countable.inside token (whole ▸ List.mem_cons_self))

theorem countable_advance (countable : Countable c.rest) : Countable c.advance.rest :=
  countable.later (List.drop_suffix 1 c.rest)

/-- What goes on behind the next token has read at least this one. -/
theorem shorter_of_advance {found : List Token → List ParseError → Prop}
    (inside : c.kind ≠ .endOfInput) (countable : Countable c.rest)
    (behind : c.advance.Takes next found) : next.rest.length < c.rest.length := by
  obtain ⟨token, tail, whole⟩ := exists_rest_of_kind inside
  have read := behind.length_le (countable_advance countable)
  rw [rest_advance whole] at read
  rw [whole, List.length_cons]
  exact Nat.lt_succ_of_le read

end Progress

section Declarations

theorem counts_finishDeclaration (c : Cursor) : c.Counts c.finishDeclaration := by
  rw [finishDeclaration]
  split
  case h_1 semicolon => exact counts_advance (by rw [semicolon]; rfl)
  case h_2 => exact Counts.refl c
  case h_3 => exact Counts.refl c
  case h_4 =>
    exact (counts_report _ (by simp [ParseError.IsStray])).trans (counts_skipDeclaration _)

theorem counts_parseMark (c : Cursor) : c.Counts c.parseMark.2 := by
  simp only [parseMark, parseImportant]
  split
  case isFalse => exact Counts.refl c
  case isTrue bang =>
    have behind : c.Counts c.advance.skipTrivia := counts_step (by rw [bang]; rfl)
    split
    case isTrue isImportant =>
      rw [Bool.and_eq_true, decide_eq_true_eq] at isImportant
      exact behind.trans (counts_step (by rw [isImportant.1]; rfl))
    case isFalse => exact behind.trans (counts_report _ (by simp [ParseError.IsStray]))

/-- What is read of an assignment behind its name. -/
theorem counts_parseAssignment (c : Cursor) : c.advance.Counts c.parseAssignment.2 := by
  by_cases colon : c.advance.skipTrivia.kind = .colon
  · rw [parseAssignment_colon colon]
    have value := (c.advance.counts_skipTrivia.trans (counts_advance (by rw [colon]; rfl))).trans
      (counts_parseValue _)
    exact (value.trans (counts_parseMark _)).trans (counts_finishDeclaration _)
  · rw [parseAssignment]
    simp only [colon, if_false]
    exact (c.advance.counts_skipTrivia.trans (counts_expect rfl _)).trans (counts_skipDeclaration _)

theorem counts_parseItem (c : Cursor) : c.advance.Counts c.parseItem.2 := by
  by_cases marked : IsMarked c.current.text
  · rw [parseItem_definition marked]
    exact counts_parseAssignment c
  · rw [parseItem_declaration marked]
    exact counts_parseAssignment c

theorem blockStep_eq_none_iff :
    c.blockStep = none ↔ c.kind = .closeBrace ∨ c.kind = .endOfInput := by
  rw [blockStep]
  split
  case h_7 => split <;> simp_all
  all_goals simp_all

/-- A step through the inside of a block counts its braces and reads something. -/
theorem counts_blockStep {items : List Item} (countable : Countable c.rest)
    (step : c.blockStep = some (items, next)) :
    c.Counts next ∧ next.rest.length < c.rest.length := by
  have inside : c.kind ≠ .closeBrace ∧ c.kind ≠ .endOfInput := by
    rw [← not_or, ← blockStep_eq_none_iff, step]
    nofun
  have onward {last : Cursor} (flat : c.kind.weight = 0) (behind : c.advance.Counts last) :
      c.Counts last ∧ last.rest.length < c.rest.length :=
    ⟨(counts_advance flat).trans behind, shorter_of_advance inside.2 countable behind⟩
  refine blockStep_cases step ?separator ?item ?directive ?refused
  case separator =>
    exact fun separates => onward (Kind.weight_of_mem separates (by decide) (by decide))
      (Counts.refl _)
  case item => exact fun isName => onward (by rw [isName]; rfl) (counts_parseItem c)
  case directive => exact fun isKeyword => onward (by rw [isKeyword]; rfl) (counts_parseAssignment c)
  case refused =>
    have skipped := (c.unexpected .declaration).advance.counts_skipDeclaration
    exact ⟨(counts_refused (.inr rfl) inside.1).trans skipped,
      shorter_of_advance (c := c.unexpected .declaration) inside.2 countable skipped⟩

/-- What counts braces and reads something goes on until it declines. -/
theorem counts_repeatedly {α : Type} {step : Cursor → Option (List α × Cursor)}
    (counts : ∀ {c found next}, Countable c.rest → step c = some (found, next) →
      c.Counts next ∧ next.rest.length < c.rest.length) (c : Cursor) (countable : Countable c.rest) :
    c.Counts (c.repeatedly step).2 ∧ step (c.repeatedly step).2 = none := by
  induction c using repeatedly.induct step with
  | case1 c declines =>
      rw [repeatedly, declines]
      exact ⟨Counts.refl c, declines⟩
  | case2 c found next stepped shorter _ _ _ inductionHypothesis =>
      rw [repeatedly, stepped]
      simp only [shorter, if_true]
      have first := (counts countable stepped).1
      obtain ⟨taken, -, whole, -⟩ := first countable
      obtain ⟨later, declines⟩ := inductionHypothesis (countable.later ⟨taken, whole.symm⟩)
      exact ⟨first.trans later, declines⟩
  | case3 c found next stepped stuck => exact absurd (counts countable stepped).2 stuck

end Declarations

section Blocks

/-- What is taken from the opening brace of a block on is a run that stops where the step does. -/
def FoundBlock (c next : Cursor) (taken : List Token) (errors : List ParseError) : Prop :=
  ∃ run, taken = c.current :: run ∧ BlockRun next.rest run errors next.lastEnd

theorem FoundBlock.counted {taken : List Token} {errors : List ParseError}
    (opens : c.kind = .openBrace) (found : c.FoundBlock next taken errors) :
    next.Counted taken errors := by
  obtain ⟨run, rfl, block⟩ := found
  generalize behind : next.rest = rest at block
  generalize next.lastEnd = stop at block
  cases block with
  | closed walk closes =>
      have through := (walk.raise 1).append (.closing closes .nil)
      rw [List.append_nil] at through
      exact ⟨0, .opening opens through, .inl rfl⟩
  | unclosed walk => exact ⟨_, .opening opens (walk.raise 1), .inr behind⟩

theorem takes_advance (inside : c.kind ≠ .endOfInput) :
    c.Takes c.advance fun taken errors => taken = [c.current] ∧ errors = [] := by
  obtain ⟨token, tail, whole⟩ := exists_rest_of_kind inside
  rw [current_of_rest whole]
  exact takes_of_rest (read_advance whole) (List.append_nil _).symm ⟨rfl, rfl⟩

/-- The brace that closes a block is read, or else the end of the text is reported. -/
theorem takes_closing (ends : last.kind = .closeBrace ∨ last.rest = []) :
    last.Takes (last.expect .closeBrace) fun more errors => strays errors = [] ∧
      ((∃ closing, more = [closing] ∧ closing.kind = .closeBrace ∧
        (last.expect .closeBrace).lastEnd = closing.span.stop) ∨
      more = [] ∧ (last.expect .closeBrace).rest = []) := by
  rcases ends with closes | nothing
  · rw [expect, if_pos closes]
    obtain ⟨closing, tail, whole⟩ := exists_rest_of_kind (c := last) (by rw [closes]; decide)
    rw [kind_of_rest whole] at closes
    have solid : closing.isTrivia = false := by rw [Token.isTrivia, closes]; rfl
    exact takes_of_rest (read_advance whole) (List.append_nil _).symm
      ⟨rfl, .inl ⟨closing, rfl, closes, lastEnd_advance whole solid⟩⟩
  · have ends : last.kind = .endOfInput := by rw [kind, current, nothing]; rfl
    rw [expect, if_neg (by rw [ends]; decide), if_pos ends]
    refine takes_of_rest (List.nil_append _).symm rfl ⟨?_, .inr ⟨rfl, nothing⟩⟩
    exact strays_single (by simp [ParseError.IsStray])

/-- A block is read around what is found in it. -/
theorem takes_block {found : List Token → List ParseError → Prop} (opens : c.kind = .openBrace)
    (inner : c.advance.Takes last fun taken errors => last.Counted taken errors ∧ found taken errors)
    (ends : last.kind = .closeBrace ∨ last.rest = []) :
    c.Takes (last.expect .closeBrace) fun taken errors =>
      c.FoundBlock (last.expect .closeBrace) taken errors ∧
        ∃ body more before after, taken = c.current :: (body ++ more) ∧ errors = before ++ after ∧
          strays after = [] ∧ last.rest = more ++ (last.expect .closeBrace).rest ∧ found body before := by
  have opening : c.Takes c.advance _ := takes_advance (by rw [opens]; decide)
  refine ((opening.trans inner).trans (takes_closing ends)).imp ?_
  rintro _ _ ⟨_, more, _, after, rfl, rfl, -, left, ⟨_, body, _, before, rfl, rfl, -, -, ⟨rfl, rfl⟩,
    ⟨level, walk, back⟩, holds⟩, quiet, ending⟩
  refine ⟨⟨body ++ more, by simp, ?_⟩, body, more, before, after, by simp, by simp, quiet, left, holds⟩
  have strayed : strays before = strays ([] ++ before ++ after) := by simp [quiet]
  rw [strayed] at walk
  rcases ending with ⟨closing, rfl, closes, stops⟩ | ⟨rfl, nothing⟩
  · obtain rfl : level = 0 := back.resolve_right (by simp [left])
    exact stops ▸ .closed walk closes
  · rw [nothing, List.append_nil]
    exact .unclosed walk

/-- Reading a block of declarations finds a block. -/
theorem takes_parseBlock (opens : c.kind = .openBrace) :
    c.Takes c.parseBlock.2 (c.FoundBlock c.parseBlock.2) := by
  refine Takes.given fun countable => ?_
  have inside := countable_advance countable
  obtain ⟨counts, declines⟩ := counts_repeatedly counts_blockStep c.advance inside
  have ends : (c.advance.repeatedly blockStep).2.kind = .closeBrace ∨
      (c.advance.repeatedly blockStep).2.rest = [] := by
    refine (blockStep_eq_none_iff.mp declines).imp_right fun ends => ?_
    obtain ⟨taken, -, whole, -⟩ := counts inside
    exact rest_of_end (inside.later ⟨taken, whole.symm⟩) ends
  exact (takes_block opens (counts.imp fun _ _ counted => ⟨counted, trivial⟩) ends).imp
    fun _ _ found => found.1

theorem closes_or_ends (fence : Fence) (stops : fence.stops = [.closeBrace]) (depth : Nat)
    (tokens : List Token) : (∃ closing tail, (fence.split depth tokens).2 = closing :: tail ∧
      closing.kind = .closeBrace) ∨ (fence.split depth tokens).2 = [] := by
  cases left : (fence.split depth tokens).2 with
  | nil => exact .inr rfl
  | cons closing tail =>
      have stopped := (Fence.encloses_of_split left).1
      rw [stops, List.mem_singleton] at stopped
      exact .inl ⟨closing, tail, rfl, stopped⟩

/-- Skipping a block finds one, too. -/
theorem takes_readBlock (opens : c.kind = .openBrace) :
    c.Takes c.readBlock.2 (c.FoundBlock c.readBlock.2) := by
  generalize reached : c.advance.goTo (Fence.ofBlock.split 0 c.advance.rest).1
    (Fence.ofBlock.split 0 c.advance.rest).2 = last
  have moved : c.advance.Counts last := reached ▸ counts_goTo_split rfl (by decide)
  have ends : last.kind = .closeBrace ∨ last.rest = [] := by
    rw [← reached]
    refine (closes_or_ends .ofBlock rfl 0 c.advance.rest).imp_left ?_
    rintro ⟨closing, tail, left, closes⟩
    exact (kind_of_rest left).trans closes
  have closing : c.readBlock.2 = last.expect .closeBrace := by
    simp only [readBlock, Fence.splitBlock_eq, reached, expect]
    rcases ends with closes | nothing
    · simp [closes]
    · have ends : last.kind = .endOfInput := by rw [kind, current, nothing]; rfl
      simp [ends]
  rw [closing]
  exact (takes_block opens (moved.imp fun _ _ counted => ⟨counted, trivial⟩) ends).imp
    fun _ _ found => found.1

theorem Takes.counts (takes : c.Takes next (c.FoundBlock next)) (opens : c.kind = .openBrace) :
    c.Counts next :=
  takes.imp fun _ _ found => found.counted opens

theorem counts_skipStatement (c : Cursor) : c.Counts c.skipStatement := by
  simp only [skipStatement]
  generalize within : (fun token : Token =>
    !([.closeBrace, .semicolon, .openBrace] : List Kind).contains token.kind) = inside
  have moved : c.Counts (c.goTo (c.rest.takeWhile inside) (c.rest.dropWhile inside)) := by
    refine counts_flat List.takeWhile_append_dropWhile.symm rfl fun token listed => ?_
    have goesOn := List.mem_takeWhile_imp listed
    simp only [← within] at goesOn
    exact Kind.weight_eq_zero (by rintro opens; simp [opens] at goesOn)
      (by rintro closes; simp [closes] at goesOn)
  split
  case h_1 semicolon => exact moved.trans (counts_advance (by rw [semicolon]; rfl))
  case h_2 opens => exact moved.trans ((takes_readBlock opens).counts opens)
  case h_3 => exact moved

/-- Skipping a statement reads something, unless it stands at the end of one. -/
theorem shorter_skipStatement (inside : c.kind ≠ .endOfInput) (notClosing : c.kind ≠ .closeBrace)
    (notSemicolon : c.kind ≠ .semicolon) (countable : Countable c.rest) :
    c.skipStatement.rest.length < c.rest.length := by
  obtain ⟨token, tail, whole⟩ := exists_rest_of_kind inside
  have isKind := kind_of_rest whole
  by_cases opens : c.kind = .openBrace
  · have block : c.skipStatement = c.readBlock.2 := by
      have here : c.goTo [] c.rest = c := rfl
      simp only [skipStatement, whole, List.takeWhile_cons, List.dropWhile_cons, ← isKind, opens]
      rw [← whole]
      simp [here, opens]
    rw [block]
    obtain ⟨_, _, read, -, run, rfl, -⟩ := takes_readBlock opens countable
    rw [read, List.cons_append, List.length_cons, List.length_append]
    omega
  · simp only [skipStatement]
    generalize within : (fun token : Token =>
      !([.closeBrace, .semicolon, .openBrace] : List Kind).contains token.kind) = goesOn
    have first : goesOn token = true := by
      rw [← within]
      simp [← isKind, notClosing, notSemicolon, opens]
    have left : c.rest.dropWhile goesOn = tail.dropWhile goesOn := by
      rw [whole, List.dropWhile_cons, if_pos first]
    generalize moved : c.goTo (c.rest.takeWhile goesOn) (c.rest.dropWhile goesOn) = next
    have suffix : next.rest <:+ tail := by
      rw [← moved]
      exact left ▸ List.dropWhile_suffix _
    have onward {last : Cursor} (counts : next.Counts last) : last.rest.length < c.rest.length := by
      have behind : Countable next.rest := countable.later (whole ▸ suffix.trans (List.suffix_cons _ _))
      rw [whole, List.length_cons]
      exact Nat.lt_succ_of_le ((counts.length_le behind).trans suffix.length_le)
    split
    case h_1 semicolon => exact onward (counts_advance (by rw [semicolon]; rfl))
    case h_2 opensNext => exact onward ((takes_readBlock opensNext).counts opensNext)
    case h_3 => exact onward (Counts.refl _)

end Blocks

end Cursor

end ComponentStyles
