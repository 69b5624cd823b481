import ComponentStyles.Proofs.Stylesheet.Parser.Statement
import ComponentStyles.Proofs.Stylesheet.Shifted.Selector
import ComponentStyles.Proofs.Stylesheet.Shifted.Value

/-!
# Stylesheets further on

Reading blocks and statements commutes with the shift, recovery included: what is skipped is skipped
by the kinds of tokens. So a stylesheet that stands further on in a file is read there as it is read
alone.
-/

namespace ComponentStyles

variable {distance : Nat}

namespace Cursor

open Token

section Blocks

@[simp] theorem finishDeclaration_shift (c : Cursor) :
    (c.shift distance).finishDeclaration = c.finishDeclaration.shift distance := by
  rw [finishDeclaration, finishDeclaration, kind_shift]
  split
  · exact advance_shift c
  · rfl
  · rfl
  · rw [unexpected_shift, skipDeclaration_shift]

@[simp] theorem parseMark_shift (c : Cursor) :
    (c.shift distance).parseMark = c.parseMark.map id (shift distance) := by
  simp only [parseMark, parseImportant, kind_shift, advance_shift, skipTrivia_shift, current_shift,
    Token.text_shift, unexpected_shift]
  split
  · split <;> rfl
  · rfl

theorem parseAssignment_shift (c : Cursor) :
    (c.shift distance).parseAssignment =
      c.parseAssignment.map (Option.map (Prod.map (Value.shift distance) id)) (shift distance) := by
  by_cases colon : c.advance.skipTrivia.kind = .colon
  · rw [parseAssignment_colon colon, parseAssignment_colon (by simpa using colon)]
    simp only [advance_shift, skipTrivia_shift, parseValue_shift, Prod.map_fst, Prod.map_snd,
      parseMark_shift, finishDeclaration_shift]
    rfl
  · rw [parseAssignment, parseAssignment]
    simp only [advance_shift, skipTrivia_shift, kind_shift, colon, if_false, expect_shift,
      skipDeclaration_shift]
    rfl

theorem parseDefinition_shift (form : DefinitionForm) (c : Cursor) :
    (c.shift distance).parseDefinition form =
      (c.parseDefinition form).map (Option.map (Definition.shift distance)) (shift distance) := by
  simp only [parseDefinition, parseAssignment_shift, Prod.map_fst, Prod.map_snd, current_shift,
    Token.text_shift, Prod.map_apply, Option.map_map]
  rfl

theorem parseItem_shift (c : Cursor) :
    (c.shift distance).parseItem =
      c.parseItem.map (Option.map (Item.shift distance)) (shift distance) := by
  by_cases marked : IsMarked c.current.text
  · rw [parseItem_definition marked, parseItem_definition (by simpa using marked),
      parseDefinition_shift]
    simp only [Prod.map_fst, Prod.map_snd, Prod.map_apply, Option.map_map]
    rfl
  · rw [parseItem_declaration marked, parseItem_declaration (by simpa using marked),
      parseAssignment_shift]
    simp only [Prod.map_fst, Prod.map_snd, Prod.map_apply, Option.map_map, current_shift,
      Token.text_shift]
    rfl

@[simp] theorem colonFollows_shift (c : Cursor) :
    (c.shift distance).colonFollows = c.colonFollows := by
  rw [colonFollows, colonFollows, significant, significant, advance_shift, skipTrivia_shift,
    current_shift]
  rfl

theorem blockStep_shift (c : Cursor) :
    (c.shift distance).blockStep =
      c.blockStep.map (Prod.map (List.map (Item.shift distance)) (shift distance)) := by
  simp only [blockStep, kind_shift, advance_shift, parseItem_shift, colonFollows_shift,
    parseDefinition_shift, unexpected_shift, skipDeclaration_shift]
  split
  case h_6 =>
    simp only [Prod.map_fst, Prod.map_snd]
    cases c.parseItem.1 <;> rfl
  case h_7 =>
    split
    · simp only [Prod.map_fst, Prod.map_snd]
      cases (c.parseDefinition .directive).1 <;> rfl
    · rfl
  all_goals rfl

theorem parseBlock_shift (c : Cursor) :
    (c.shift distance).parseBlock = c.parseBlock.map (Block.shift distance) (shift distance) := by
  rw [parseBlock, parseBlock, advance_shift, repeatedly_shift blockStep_shift, current_shift]
  simp only [Prod.map_fst, Prod.map_snd, expect_shift]
  rfl

end Blocks

section Statements

theorem fail_shift (c : Cursor) (error : ParseError) :
    { c.shift distance with errors := (c.shift distance).errors ++ [error.shift distance] } =
      ({ c with errors := c.errors ++ [error] } : Cursor).shift distance := by
  simp [shift]

theorem parseRule_shift (c : Cursor) :
    (c.shift distance).parseRule =
      c.parseRule.map (Option.map (Statement.shift distance)) (shift distance) := by
  rw [parseRule, parseRule, parseSelectorList_shift]
  rcases c.parseSelectorList .openBrace with ⟨error | selectors, last⟩
  · simp only [Prod.map_apply, shiftOutcome, fail_shift, skipStatement_shift]
    rfl
  · simp only [Prod.map_apply, shiftOutcome, kind_shift, parseBlock_shift, current_shift,
      expect_shift, skipStatement_shift]
    split
    · rfl
    · rfl

theorem parseMedia_shift (start : Nat) (target : Text) (c : Cursor) :
    (c.shift distance).parseMedia (start + distance) target =
      (c.parseMedia start target).map (Option.map (Statement.shift distance)) (shift distance) := by
  simp only [parseMedia, advance_shift, skipTrivia_shift, readRaw_shift, Prod.map_fst, Prod.map_snd,
    expect_shift]
  rfl

theorem parseImport_shift (start : Nat) (c : Cursor) :
    (c.shift distance).parseImport (start + distance) =
      (c.parseImport start).map (Option.map (Statement.shift distance)) (shift distance) := by
  by_cases isString : c.skipTrivia.kind = .string
  · rw [parseImport_string isString, parseImport_string (by simpa using isString), skipTrivia_shift,
      current_shift]
    exact parseMedia_shift start _ _
  by_cases isUrl : c.skipTrivia.kind = .url
  · rw [parseImport_url isUrl, parseImport_url (by simpa using isUrl), skipTrivia_shift,
      current_shift]
    exact parseMedia_shift start _ _
  · rw [parseImport_refused isString isUrl,
      parseImport_refused (by simpa using isString) (by simpa using isUrl), skipTrivia_shift,
      unexpected_shift, skipStatement_shift]
    rfl

theorem parseStatement_shift_of (c : Cursor)
    (atRule : (c.shift distance).parseAtRule =
      c.parseAtRule.map (Option.map (Statement.shift distance)) (shift distance)) :
    (c.shift distance).parseStatement =
      c.parseStatement.map (Option.map (Statement.shift distance)) (shift distance) := by
  simp only [parseStatement, kind_shift, advance_shift, parseComment, current_shift,
    unexpected_shift, atRule, parseRule_shift]
  split <;> rfl

theorem atName_shift (c : Cursor) : (c.shift distance).atName = c.atName := by
  rw [atName, atName, current_shift, Token.text_shift]

theorem atDefinition_shift_iff (c : Cursor) :
    (c.shift distance).AtDefinition ↔ c.AtDefinition := by
  rw [AtDefinition, AtDefinition, atName_shift, colonFollows_shift]

theorem prelude_shift (c : Cursor) :
    (c.shift distance).prelude = c.prelude.map id (shift distance) := by
  rw [prelude, prelude, advance_shift, skipTrivia_shift, readRaw_shift]

mutual

theorem parseStatements_shift (nested : Bool) (c : Cursor) :
    (c.shift distance).parseStatements nested =
      (c.parseStatements nested).map (shiftStatements distance) (shift distance) := by
  have first : (c.shift distance).parseStatement = _ :=
    parseStatement_shift_of c (parseAtRule_shift c)
  refine parseStatements_cases (c := c) ?ends ?closes ?more ?stuck
  case ends =>
    intro ends
    rw [parseStatements_end (by simpa using ends), report_shift]
    cases nested <;> rfl
  case closes =>
    rintro rfl closes
    rw [parseStatements_close (by simpa using closes)]
    rfl
  case more =>
    intro ends unclosed shorter
    have later : (c.parseStatement.2.shift distance).parseStatements nested = _ :=
      parseStatements_shift nested c.parseStatement.2
    rw [parseStatements_more (by simpa using ends) (by simpa using unclosed)
      (by simpa [first] using shorter), first]
    simp only [Prod.map_fst, Prod.map_snd, later, Prod.map_apply, shiftStatements_append,
      shiftStatements_toList]
  case stuck =>
    intro ends unclosed stuck
    rw [parseStatements_stuck (by simpa using ends) (by simpa using unclosed)
      (by simpa [first] using stuck), first]
    simp only [Prod.map_fst, Prod.map_snd, Prod.map_apply, shiftStatements_toList]
termination_by 2 * c.rest.length + 1

theorem parseAtRule_shift (c : Cursor) :
    (c.shift distance).parseAtRule =
      c.parseAtRule.map (Option.map (Statement.shift distance)) (shift distance) := by
  by_cases isDefinition : c.AtDefinition
  · rw [parseAtRule_definition isDefinition,
      parseAtRule_definition ((atDefinition_shift_iff c).mpr isDefinition), parseDefinition_shift]
    simp only [Prod.map_fst, Prod.map_snd, Prod.map_apply, Option.map_map]
    rfl
  by_cases isImport : Text.lower c.atName = "import".toList
  · rw [parseAtRule_import isImport, parseAtRule_import (by rwa [atName_shift]), advance_shift,
      current_shift]
    exact parseImport_shift _ _
  have notDefinition : ¬ (c.shift distance).AtDefinition :=
    mt (atDefinition_shift_iff c).mp isDefinition
  rw [parseAtRule_eq isDefinition isImport, parseAtRule_eq notDefinition (by rwa [atName_shift])]
  simp only [prelude_shift, Prod.map_fst, Prod.map_snd, kind_shift, advance_shift, atName_shift,
    current_shift, length_rest_shift, parseBlock_shift, readBlock_shift, expect_shift]
  split
  · rfl
  · split
    · split
      case isFalse => rfl
      case isTrue shorter =>
        have inside : (c.prelude.2.advance.shift distance).parseStatements true = _ :=
          parseStatements_shift true c.prelude.2.advance
        rw [inside]
        simp only [Prod.map_fst, Prod.map_snd, expect_shift]
        rfl
    split
    · rfl
    · rfl
  · rfl
termination_by 2 * c.rest.length

end

end Statements

theorem start_shift (text : Text) :
    start distance text (ofText distance text) = (start 0 text (ofText 0 text)).shift distance := by
  have further : ofText (0 + distance) text = _ := ofText_add 0 text
  rw [Nat.zero_add] at further
  rw [start, start, further, shift, Nat.zero_add, Nat.zero_add, Nat.add_comm distance]
  rfl

end Cursor

/-- A stylesheet that is embedded in a file is read like a file of its own: its statements are the
same but for the spans, its errors name the same problems, and every span of a node or an error is
the one in the file of its own, shifted by the offset at which the stylesheet starts. -/
theorem Stylesheet.parseAt_eq_shift (file : File) (offset : Nat) (name text : Text) :
    let alone := parse name text
    let embedded := parseAt file offset text
    embedded.tree.file = file ∧
      embedded.tree.statements = shiftStatements offset alone.tree.statements ∧
      embedded.tree.span = alone.tree.span.shift offset ∧
      embedded.errors = alone.errors.map (ParseError.shift offset) := by
  intro alone embedded
  have read : ((Cursor.start 0 text (Token.ofText 0 text)).shift offset).parseStatements false =
      _ := Cursor.parseStatements_shift false _
  rw [← Cursor.start_shift] at read
  refine ⟨rfl, congrArg Prod.fst read, ?_, congrArg (fun result => result.2.errors) read⟩
  show Span.mk offset (offset + Text.size text) = ⟨0 + offset, 0 + Text.size text + offset⟩
  rw [Nat.zero_add, Nat.zero_add, Nat.add_comm offset]

-- Behind `<style>` a rule of fourteen bytes stands at the bytes from seven on.
example : (Stylesheet.parseAt .anonymous 7 ".a { top: 0; }".toList).tree.statements.map
    Statement.span = [⟨7, 21⟩] := by cbv

end ComponentStyles
