import ComponentStyles.Proofs.Stylesheet.Located.Statement
import ComponentStyles.Proofs.Stylesheet.Shifted.Statement
import ComponentStyles.Proofs.Stylesheet.Spans.Selector
import ComponentStyles.Proofs.Stylesheet.Spans.Value

/-!
# The spans of statements

Whatever is skipped in a malformed source is skipped ahead, so entries and statements stand in
order. A comment does not move the end of the last token read: what follows a statement stands
behind it because it is ahead, not because of that end.
-/

namespace ComponentStyles

open Token

namespace Cursor

variable {before source text : Text} {c : Cursor} {token : Token} {tail : List Token}

section Blocks

theorem faithful_parseAssignment (c : Cursor) (inside : c.Within before source) :
    ∀ assigned ∈ c.parseAssignment.1, assigned.1.Faithful (Text.size before) source := by
  by_cases colon : c.advance.skipTrivia.kind = .colon
  · rw [parseAssignment_colon colon]
    rintro _ ⟨⟩
    exact faithful_parseValue _ (inside.goOn (c.follows_step.trans (follows_advance _)))
  · rw [parseAssignment]
    simp only [colon, if_false]
    rintro _ ⟨⟩

theorem lined_parseDefinition (form : DefinitionForm) (inside : c.Within before source)
    (whole : c.rest = token :: tail) (solid : token.isTrivia = false) :
    Lined Definition.span (Definition.Faithful (Text.size before) source)
      (c.ahead (before ++ source)) (c.parseDefinition form).2.lastEnd
      (c.parseDefinition form).1.toList := by
  refine lined_toList fun d parsed => ?_
  obtain ⟨assigned, made, rfl⟩ := Option.map_eq_some_iff.mp parsed
  have value := faithful_parseAssignment c inside assigned made
  exact inside.lined_from whole solid (goes_parseAssignment c)
    (by rw [← current_of_rest whole]; rfl) fun within => ⟨within, value⟩

theorem lined_parseItem (inside : c.Within before source) (whole : c.rest = token :: tail)
    (solid : token.isTrivia = false) :
    Lined Item.span (Item.Faithful (Text.size before) source) (c.ahead (before ++ source))
      c.parseItem.2.lastEnd c.parseItem.1.toList := by
  by_cases marked : IsMarked c.current.text
  · rw [parseItem_definition marked, Option.toList_map]
    exact (lined_parseDefinition .property inside whole solid).map (fun _ => rfl) fun _ => id
  · rw [parseItem_declaration marked]
    refine lined_toList fun item parsed => ?_
    obtain ⟨assigned, made, rfl⟩ := Option.map_eq_some_iff.mp parsed
    have value := faithful_parseAssignment c inside assigned made
    exact inside.lined_from whole solid (goes_parseAssignment c)
      (by rw [← current_of_rest whole]; rfl) fun within => ⟨within, value⟩

theorem lined_blockStep {c next : Cursor} {items : List Item} (inside : c.Within before source)
    (step : c.blockStep = some (items, next)) :
    Lined Item.span (Item.Faithful (Text.size before) source) (c.ahead (before ++ source))
      next.lastEnd items := by
  refine blockStep_cases step ?separator ?item ?directive ?refused
  case separator => exact fun _ => lined_nil
  case item =>
    intro isName
    obtain ⟨token, tail, whole, solid⟩ := exists_solid isName (by decide)
    exact lined_parseItem inside whole solid
  case directive =>
    intro isKeyword
    obtain ⟨token, tail, whole, solid⟩ := exists_solid isKeyword (by decide)
    exact (lined_parseDefinition .directive inside whole solid).map (fun _ => rfl) fun _ => id
  case refused => exact lined_nil

/-- A block is read item by item, each one from behind the one before it. -/
theorem lined_items (c : Cursor) (inside : c.Within before source) :
    Lined Item.span (Item.Faithful (Text.size before) source) (c.ahead (before ++ source))
      (c.repeatedly blockStep).2.lastEnd (c.repeatedly blockStep).1 := by
  induction c using repeatedly.induct blockStep with
  | case1 c declines =>
      rw [repeatedly, declines]
      exact lined_nil
  | case2 c found next stepped shorter _ _ _ inductionHypothesis =>
      rw [repeatedly, stepped]
      simp only [shorter, if_true]
      have step : c.Follows (before ++ source) next :=
        (reads_blockStep stepped).follows (goes_blockStep stepped)
      exact inside.lined_append step (goes_repeatedly goes_blockStep next)
        (lined_blockStep inside stepped) (inductionHypothesis (inside.goOn step))
  | case3 c found next stepped stuck =>
      rw [repeatedly, stepped]
      simp only [stuck, if_false]
      exact lined_blockStep inside stepped

theorem faithful_parseBlock (inside : c.Within before source) (opens : c.kind = .openBrace) :
    c.parseBlock.1.Faithful (Text.size before) source ∧
      c.ahead (before ++ source) ≤ c.parseBlock.2.lastEnd := by
  obtain ⟨token, tail, whole, solid⟩ := exists_solid opens (by decide)
  have items := lined_items c.advance (inside.goOn c.follows_advance)
  have goes : c.advance.Goes (before ++ source) c.parseBlock.2 _ :=
    (goes_repeatedly goes_blockStep c.advance).trans (goes_expect _ .closeBrace)
  have within := inside.liesIn_through whole solid goes
  rw [← current_of_rest whole] at within
  refine ⟨⟨within, items.ordered, items.good⟩, ?_⟩
  rw [ahead_of_rest whole]
  exact inside.start_le_lastEnd whole solid goes

end Blocks

section Statements

theorem lined_parseRule (inside : c.Within before source) (notOver : c.kind ≠ .endOfInput) :
    Lined Statement.span (Statement.Faithful (Text.size before) source) (c.ahead (before ++ source))
      c.parseRule.2.lastEnd c.parseRule.1.toList := by
  obtain ⟨token, tail, whole⟩ := exists_rest_of_kind notOver
  have selectors := faithful_parseSelectorList .openBrace c inside
  have follows : c.Follows (before ++ source) (c.parseSelectorList .openBrace).2 :=
    follows_parseSelectorList .openBrace c
  rw [parseRule]
  rcases parsed : c.parseSelectorList .openBrace with ⟨error | list, last⟩
  · exact lined_nil
  rw [parsed] at selectors follows
  dsimp only
  split
  case isFalse => exact lined_nil
  case isTrue opens =>
    obtain ⟨block, through⟩ := faithful_parseBlock (inside.goOn follows) opens
    have starts : token.span.start ≤ last.parseBlock.2.lastEnd := by
      rw [← ahead_of_rest whole]
      exact (inside.stands.ahead_le_of_suffix follows.suffix).trans through
    have stands := (goes_parseBlock last).stands (follows.goes.stands inside.stands)
    have within := stands.liesIn_lastEnd (inside.low_token whole) starts
    rw [current_of_rest whole]
    exact lined_through whole rfl (.rule within (selectors list rfl) block)

theorem faithful_parseMedia (target : Text) {start : Nat} (stands : c.Stands (before ++ source))
    (low : Text.size before ≤ start) (starts : start ≤ c.lastEnd) :
    ∀ statement ∈ (c.parseMedia start target).1,
      statement.span = ⟨start, (c.parseMedia start target).2.lastEnd⟩ ∧
        statement.Faithful (Text.size before) source := by
  have goes : c.Goes (before ++ source) (c.parseMedia start target).2 _ :=
    goes_parseMedia start target c
  rw [parseMedia] at goes ⊢
  rintro _ ⟨⟩
  exact ⟨rfl, .importing ((goes.stands stands).liesIn_lastEnd low
    (starts.trans (goes.onward stands)))⟩

/-- An import goes from where its keyword starts to what is read last for it. -/
theorem faithful_parseImport {start : Nat} (stands : c.Stands (before ++ source))
    (low : Text.size before ≤ start) (starts : start ≤ c.lastEnd) :
    ∀ statement ∈ (c.parseImport start).1,
      statement.span = ⟨start, (c.parseImport start).2.lastEnd⟩ ∧
        statement.Faithful (Text.size before) source := by
  have standsToo := c.goes_skipTrivia.stands stands
  refine parseImport_cases ?media ?refused
  case media => exact fun target _ => faithful_parseMedia target standsToo low starts
  case refused => exact nofun

theorem lined_parseComment (inside : c.Within before source) (isComment : c.kind = .comment) :
    Lined Statement.span (Statement.Faithful (Text.size before) source) (c.ahead (before ++ source))
      (c.parseComment.2.ahead (before ++ source)) [c.parseComment.1] := by
  obtain ⟨token, tail, whole⟩ := exists_rest_of_kind (c := c) (by rw [isComment]; decide)
  have spells := inside.stands.spells whole
  rw [← kind_of_rest whole, isComment] at spells
  obtain ⟨part, same, -⟩ := matches_comment_iff.mp (spells.matches (by decide))
  have written : (token.text.drop 2).dropLast.dropLast = part := by
    have ending : token.text.drop 2 = part ++ ['*'] ++ ['/'] := by simp [same]
    rw [ending, List.dropLast_concat, List.dropLast_concat]
  rw [parseComment, current_of_rest whole]
  refine lined_single ?_ (inside.stands.stop_le_ahead whole) (.comment ?_)
  · rw [ahead_of_rest whole]
    exact Nat.le_refl _
  · rw [written, ← same]
    exact inside.shows whole

theorem lined_parseStatement_of (inside : c.Within before source) (notOver : c.kind ≠ .endOfInput)
    (atRule : c.kind = .atKeyword → Lined Statement.span
      (Statement.Faithful (Text.size before) source) (c.ahead (before ++ source))
      c.parseAtRule.2.lastEnd c.parseAtRule.1.toList) :
    Lined Statement.span (Statement.Faithful (Text.size before) source) (c.ahead (before ++ source))
      (c.parseStatement.2.ahead (before ++ source)) c.parseStatement.1.toList := by
  refine parseStatement_cases ?separator ?comment ?stray ?atRule ?rule
  case separator | stray => exact fun _ => lined_nil
  case comment => exact fun isComment => lined_parseComment inside isComment
  case atRule =>
    intro isKeyword
    have stands := (goes_parseAtRule c isKeyword).stands inside.stands
    exact (atRule isKeyword).widen (Nat.le_refl _) stands.lastEnd_le_ahead
  case rule =>
    intro _ _
    have stands := c.goes_parseRule.stands inside.stands
    exact (lined_parseRule inside notOver).widen (Nat.le_refl _) stands.lastEnd_le_ahead

mutual

theorem lined_parseStatements (nested : Bool) (c : Cursor) (inside : c.Within before source) :
    Lined Statement.span (Statement.Faithful (Text.size before) source) (c.ahead (before ++ source))
      ((c.parseStatements nested).2.ahead (before ++ source)) (c.parseStatements nested).1 := by
  have atRule := lined_parseAtRule c inside
  refine parseStatements_cases ?ends ?closes ?more ?stuck
  case ends => exact fun _ => lined_nil
  case closes => exact fun _ _ => lined_nil
  case more =>
    intro notOver _ shorter
    have step : c.Follows (before ++ source) c.parseStatement.2 :=
      (c.reads_parseStatement).follows (goes_parseStatement_of (goes_parseAtRule c))
    have first := lined_parseStatement_of inside notOver atRule
    have behind := inside.goOn step
    have later := lined_parseStatements nested c.parseStatement.2 behind
    -- A comment may stop behind the last token read, so both rows are bounded by what is ahead.
    exact first.append later (inside.stands.ahead_le_of_suffix step.suffix) (Nat.le_refl _)
      (behind.stands.ahead_le_of_suffix (reads_parseStatements nested _).suffix)
  case stuck => exact fun notOver _ _ => lined_parseStatement_of inside notOver atRule
termination_by 2 * c.rest.length + 1

theorem lined_parseAtRule (c : Cursor) (inside : c.Within before source)
    (isKeyword : c.kind = .atKeyword) :
    Lined Statement.span (Statement.Faithful (Text.size before) source) (c.ahead (before ++ source))
      c.parseAtRule.2.lastEnd c.parseAtRule.1.toList := by
  obtain ⟨token, tail, whole, solid⟩ := exists_solid isKeyword (by decide)
  have insideToo := inside.goOn c.follows_advance
  by_cases isDefinition : c.AtDefinition
  · rw [parseAtRule_definition isDefinition, Option.toList_map]
    exact (lined_parseDefinition .directive inside whole solid).map (fun _ => rfl) fun _ =>
      .definition
  by_cases isImport : Text.lower c.atName = "import".toList
  · rw [parseAtRule_import isImport, current_of_rest whole]
    refine lined_toList fun statement parsed => ?_
    have starts : token.span.start ≤ c.advance.lastEnd :=
      inside.start_le_lastEnd whole solid (Goes.refl _)
    obtain ⟨same, faithful⟩ := faithful_parseImport insideToo.stands (inside.low_token whole)
      starts statement parsed
    exact lined_through whole same faithful
  have prelude : c.advance.Follows (before ++ source) c.prelude.2 :=
    c.advance.follows_skipTrivia.trans
      ((reads_readRaw (by decide) _).follows (goes_readRaw (by decide) _))
  refine parseAtRule_prelude_cases isDefinition isImport ?semicolon ?conditional ?declarations ?raw
    ?broken
  case broken => exact lined_nil
  all_goals rw [current_of_rest whole]
  case semicolon =>
    exact fun _ => inside.lined_from whole solid (prelude.goes.trans (goes_advance _)) rfl
      fun within => .atRule within nofun
  case conditional =>
    intro _ _ shorter
    have body := prelude.trans (follows_advance _)
    have statements := lined_parseStatements true c.prelude.2.advance (insideToo.goOn body)
    have goes : c.advance.Goes (before ++ source) _ _ :=
      (body.goes.trans (goes_parseStatements true _)).trans (goes_expect _ .closeBrace)
    exact inside.lined_from whole solid goes rfl fun within =>
      .conditional within statements.ordered statements.good
  case declarations =>
    intro opens _ _
    have block := faithful_parseBlock (insideToo.goOn prelude) opens
    refine inside.lined_from whole solid (prelude.goes.trans (goes_parseBlock _)) rfl
      fun within => .atRule within ?_
    rintro _ ⟨⟩
    exact block.1
  case raw =>
    exact fun _ _ _ => inside.lined_from whole solid (prelude.goes.trans (goes_readBlock _)) rfl
      fun within => .atRule within nofun
termination_by 2 * c.rest.length

end

end Statements

end Cursor

/-- An error is recorded at the same place of the source, wherever the source starts. -/
theorem ParseError.liesIn_shift {source : Text} {error : ParseError}
    (within : error.span.IsWithin source) (offset : Nat) :
    (error.shift offset).span.LiesIn offset source where
  low := Nat.le_add_left _ _
  ordered := Nat.add_le_add_right within.ordered offset
  high := by
    rw [Nat.add_comm offset]
    exact Nat.add_le_add_right within.stop.le offset

theorem Stylesheet.errors_liesIn_of_parseAt (file : File) (offset : Nat) (source : Text) :
    ∀ error ∈ (parseAt file offset source).errors, error.span.LiesIn offset source := by
  let alone := Cursor.start 0 source (ofText 0 source)
  have stands : (alone.parseStatements false).2.Stands source :=
    (Cursor.goes_parseStatements false alone).stands
      (Cursor.stands_start (List.prefix_refl ([] ++ source)))
  have read : (alone.shift offset).parseStatements false = _ := Cursor.parseStatements_shift false _
  rw [← Cursor.start_shift] at read
  intro error listed
  rw [parseAt, read] at listed
  obtain ⟨errorToo, listedToo, rfl⟩ := List.mem_map.mp listed
  exact ParseError.liesIn_shift (stands.errors errorToo listedToo) offset

theorem Text.exists_size_eq (n : Nat) : ∃ text, Text.size text = n := by
  induction n with
  | zero => exact ⟨[], rfl⟩
  | succ n inductionHypothesis =>
      obtain ⟨text, rfl⟩ := inductionHypothesis
      exact ⟨' ' :: text, by rw [Text.size_cons]; exact Nat.add_comm 1 _⟩

/-- A stylesheet is faithful to the source it is read from, well formed or not, wherever the source
starts, and each error stands in the source. -/
theorem Stylesheet.faithful_parseAt (file : File) (offset : Nat) (source : Text) :
    (parseAt file offset source).tree.Faithful offset source ∧
      ∀ error ∈ (parseAt file offset source).errors, error.span.LiesIn offset source := by
  refine ⟨?_, errors_liesIn_of_parseAt file offset source⟩
  obtain ⟨before, rfl⟩ := Text.exists_size_eq offset
  have statements := Cursor.lined_parseStatements false _ (Cursor.within_start before source)
  exact ⟨⟨Nat.le_refl _, Nat.le_add_right _ _, Nat.le_refl _⟩, statements.ordered, statements.good⟩

-- A bracket is refused between two terms, and the block is never closed.
example : (Stylesheet.parseAt .anonymous 7 "a \x7b b: c [ e".toList).tree.items.flatMap
    (fun item => item.terms.map Term.span) = [⟨14, 15⟩, ⟨18, 19⟩] := by cbv

end ComponentStyles
