import ComponentStyles.Proofs.Stylesheet.Parser.Statement
import ComponentStyles.Proofs.Stylesheet.Regular.Tree

/-!
# Reading regular stylesheets

Nothing is asked of the source, so all there is to go by is how the tokens ahead have been cut, which
the parser does not change by skipping some. A part of a tree is kept only where the tokens that it
needs were there; on every other way through the parser nothing comes out.
-/

namespace ComponentStyles

open Token

namespace Cursor

variable {c next : Cursor} {token : Token} {tail : List Token}

/-- The tokens that are left have been cut as before. -/
theorem Reads.cut {found : Prop} (reads : c.Reads next found) (cut : IsCut c.lexemes) :
    IsCut next.lexemes :=
  cut.of_within (lexemes_suffix reads.suffix).isInfix

section Values

theorem isVariableName_of_cut (cut : IsCut c.lexemes) (isName : c.skipTrivia.kind = .identifier)
    (notCustom : c.atCustomProperty = false) : IsVariableName c.skipTrivia.current.text := by
  constructor
  · exact spells_current_of_cut (c.reads_skipTrivia.cut cut) isName (by decide)
  · refine Bool.eq_false_iff.mpr fun dashes => ?_
    rw [atCustomProperty_iff.mpr ⟨isName, dashes⟩] at notCustom
    cases notCustom

theorem regular_parseFallback {behind : Cursor}
    (parsed : ∀ term ∈ behind.advance.skipTrivia.parseTerm.1, term.Regular) :
    ∀ term ∈ (c.parseFallback behind).1, term.Regular := by
  unfold parseFallback
  dsimp only
  split
  · rintro _ ⟨⟩
  split
  · rintro _ ⟨⟩
  split
  · exact parsed
  · exact parsed

mutual

theorem regular_parseTerm (c : Cursor) (cut : IsCut c.lexemes) :
    ∀ term ∈ c.parseTerm.1, term.Regular := by
  cases whole : c.rest with
  | nil =>
      rw [parseTerm_nil whole]
      rintro _ ⟨⟩
      exact .literal
  | cons token tail =>
      have cutToo := c.reads_advance.cut cut
      have arguments := regular_parseValue c.advance cutToo
      refine parseTerm_cases whole ?single ?comma ?slash ?url ?usage ?call ?paren ?refused
      case single =>
        rintro _ _ ⟨⟩
        exact .literal
      case comma | slash =>
        rintro _ _ ⟨⟩
        exact .operator
      case url =>
        rintro _ _ ⟨⟩
        exact .url
      case usage =>
        exact fun _ _ notCustom => regular_parseUsage token.span.start c.advance cutToo notCustom
      case call =>
        rintro _ _ _ ⟨⟩
        exact .call arguments
      case paren =>
        rintro _ _ ⟨⟩
        exact .call arguments
      case refused => rintro _ _ ⟨⟩
termination_by 4 * c.rest.length
decreasing_by
  all_goals
    rw [length_advance, whole, List.length_cons]
    omega

theorem regular_parseUsage (start : Nat) (c : Cursor) (cut : IsCut c.lexemes)
    (notCustom : c.atCustomProperty = false) : ∀ term ∈ (c.parseUsage start).1, term.Regular := by
  by_cases isName : c.skipTrivia.kind = .identifier
  · rw [parseUsage_named isName]
    have body := ((c.reads_skipTrivia.trans (reads_advance _)).trans (reads_skipTrivia _)).trans
      ((reads_advance _).trans (reads_skipTrivia _))
    have parsed := regular_parseTerm _ (body.cut cut)
    rintro _ ⟨⟩
    exact .usage (isVariableName_of_cut cut isName notCustom) (regular_parseFallback parsed)
  · rw [parseUsage_unnamed isName]
    rintro _ ⟨⟩
termination_by 4 * c.rest.length + 2
decreasing_by
  have := c.skipTrivia.advance.skipTrivia.length_step_le
  have := c.skipTrivia.length_step_le
  have := c.length_skipTrivia
  omega

theorem regular_parseTerms (c : Cursor) (cut : IsCut c.lexemes) :
    ∀ term ∈ c.parseTerms.1, term.Regular := by
  cases ends : c.skipTrivia.atValueEnd with
  | true =>
      rw [parseTerms_end ends]
      rintro _ ⟨⟩
  | false =>
      have first : ∀ term ∈ c.skipTrivia.parseTerm.1.toList, term.Regular := by
        simpa using regular_parseTerm c.skipTrivia (c.reads_skipTrivia.cut cut)
      by_cases shorter : c.skipTrivia.parseTerm.2.rest.length < c.skipTrivia.rest.length
      · rw [parseTerms_more ends shorter, List.forall_mem_append]
        have step := c.reads_skipTrivia.trans (reads_parseTerm c.skipTrivia)
        exact ⟨first, regular_parseTerms c.skipTrivia.parseTerm.2 (step.cut cut)⟩
      · rw [parseTerms_stuck ends shorter]
        exact first
termination_by 4 * c.rest.length + 1
decreasing_by
  all_goals
    have := c.length_skipTrivia
    omega

theorem regular_parseValue (c : Cursor) (cut : IsCut c.lexemes) : c.parseValue.1.Regular := by
  rw [Value.Regular, c.parseValue_eq.1]
  exact regular_parseTerms c.skipTrivia (c.reads_skipTrivia.cut cut)
termination_by 4 * c.rest.length + 2
decreasing_by
  have := c.length_skipTrivia
  omega

end

end Values

section Blocks

theorem regular_parseAssignment (cut : IsCut c.lexemes) :
    ∀ assigned ∈ c.parseAssignment.1, assigned.1.Regular := by
  by_cases colon : c.advance.skipTrivia.kind = .colon
  · rw [parseAssignment_colon colon]
    have behind := (c.reads_advance.trans (reads_skipTrivia _)).trans (reads_advance _)
    rintro _ ⟨⟩
    exact regular_parseValue _ (behind.cut cut)
  · rw [parseAssignment]
    simp only [colon, if_false]
    rintro _ ⟨⟩

theorem regular_parseDefinition (form : DefinitionForm) (cut : IsCut c.lexemes)
    (named : c.current.text.drop form.mark.length ≠ []) :
    ∀ d ∈ (c.parseDefinition form).1,
      d.form = form ∧ d.name = c.current.text.drop form.mark.length ∧ d.Regular := by
  intro d parsed
  obtain ⟨assigned, made, rfl⟩ := Option.map_eq_some_iff.mp parsed
  have value := regular_parseAssignment cut assigned made
  cases form with
  | directive | property => exact ⟨rfl, rfl, named, value⟩

/-- Behind the sign of an at-keyword there is a name. -/
theorem atName_ne_nil (cut : IsCut c.lexemes) (isKeyword : c.kind = .atKeyword) :
    c.current.text.drop 1 ≠ [] := by
  have spells := spells_current_of_cut cut isKeyword (by decide)
  obtain ⟨name, same⟩ := exists_atKeyword_of_spells spells
  rw [same] at spells ⊢
  intro nothing
  obtain rfl : name = [] := nothing
  -- The sign alone is no at-keyword.
  exact absurd (Pattern.accepts_iff.mpr (spells.matches (by decide))) (by decide)

theorem regular_parseItem (cut : IsCut c.lexemes) (isName : c.kind = .identifier) :
    ∀ item ∈ c.parseItem.1, item.Regular := by
  have spells := spells_current_of_cut cut isName (by decide)
  by_cases marked : IsMarked c.current.text
  · rw [parseItem_definition marked]
    intro item parsed
    obtain ⟨d, made, rfl⟩ := Option.map_eq_some_iff.mp parsed
    exact (regular_parseDefinition .property cut (names_property spells marked).2 d made).2.2
  · rw [parseItem_declaration marked]
    intro item parsed
    obtain ⟨assigned, made, rfl⟩ := Option.map_eq_some_iff.mp parsed
    exact ⟨spells.ne_nil, regular_parseAssignment cut assigned made⟩

theorem regular_blockStep {items : List Item} (cut : IsCut c.lexemes)
    (step : c.blockStep = some (items, next)) : ∀ item ∈ items, item.Regular := by
  refine blockStep_cases step ?separator ?item ?directive ?refused
  case separator => exact fun _ => List.forall_mem_nil _
  case item =>
    exact fun isName item listed => regular_parseItem cut isName item (Option.mem_toList.mp listed)
  case directive =>
    intro isKeyword item listed
    obtain ⟨d, parsed, rfl⟩ := List.mem_map.mp listed
    have named := atName_ne_nil cut isKeyword
    exact (regular_parseDefinition .directive cut named d (Option.mem_toList.mp parsed)).2.2
  case refused => exact List.forall_mem_nil _

theorem regular_items (c : Cursor) (cut : IsCut c.lexemes) :
    ∀ item ∈ (c.repeatedly blockStep).1, item.Regular := by
  induction c using repeatedly.induct blockStep with
  | case1 c declines =>
      rw [repeatedly, declines]
      rintro _ ⟨⟩
  | case2 c found next stepped shorter _ _ _ inductionHypothesis =>
      rw [repeatedly, stepped]
      simp only [shorter, if_true, List.forall_mem_append]
      exact ⟨regular_blockStep cut stepped, inductionHypothesis ((reads_blockStep stepped).cut cut)⟩
  | case3 c found next stepped stuck =>
      rw [repeatedly, stepped]
      simp only [stuck, if_false]
      exact regular_blockStep cut stepped

theorem regular_parseBlock (cut : IsCut c.lexemes) : c.parseBlock.1.Regular :=
  regular_items c.advance (c.reads_advance.cut cut)

end Blocks

section Statements

theorem regular_parseSelectorList (cut : IsCut c.lexemes) :
    ∀ list, (c.parseSelectorList .openBrace).1 = .ok list → list.Regular := by
  intro list parsed
  obtain ⟨notEmpty, finds⟩ :=
    (passes_parseSelectorList .blind .openBrace c).found cut list parsed
  have meets : list.Meets Outlook.blind.demands [] := ⟨notEmpty, finds.meets trivial⟩
  exact meets.regular

theorem regular_parseRule (cut : IsCut c.lexemes) :
    ∀ statement ∈ c.parseRule.1, statement.Regular := by
  have selectors := regular_parseSelectorList cut
  have reads := reads_parseSelectorList .openBrace c
  rw [parseRule]
  rcases parsed : c.parseSelectorList .openBrace with ⟨error | list, last⟩
  · rintro _ ⟨⟩
  rw [parsed] at selectors reads
  dsimp only
  split
  · rintro _ ⟨⟩
    exact .rule (selectors list rfl) (regular_parseBlock (reads.cut cut))
  · rintro _ ⟨⟩

theorem regular_parseMedia (start : Nat) (target : Text) (c : Cursor) :
    ∀ statement ∈ (c.parseMedia start target).1, statement.Regular := by
  rw [parseMedia]
  rintro _ ⟨⟩
  refine .importing ?_
  split
  · rintro ⟨⟩
  case isFalse notEmpty =>
    intro same
    rw [Option.some.inj same] at notEmpty
    exact notEmpty rfl

theorem regular_parseImport (start : Nat) (c : Cursor) :
    ∀ statement ∈ (c.parseImport start).1, statement.Regular := by
  refine parseImport_cases ?media ?refused
  case media => exact fun _ _ => regular_parseMedia start _ _
  case refused => rintro _ ⟨⟩

theorem regular_parseStatement_of (cut : IsCut c.lexemes)
    (atRule : c.kind = .atKeyword → ∀ statement ∈ c.parseAtRule.1, statement.Regular) :
    ∀ statement ∈ c.parseStatement.1, statement.Regular := by
  refine parseStatement_cases ?separator ?comment ?stray ?atRule ?rule
  case separator | stray => rintro _ _ ⟨⟩
  case comment =>
    rintro _ _ ⟨⟩
    exact .comment
  case atRule => exact atRule
  case rule => exact fun _ _ => regular_parseRule cut

mutual

theorem regular_parseStatements (nested : Bool) (c : Cursor) (cut : IsCut c.lexemes) :
    ∀ statement ∈ (c.parseStatements nested).1, statement.Regular := by
  have first : ∀ statement ∈ c.parseStatement.1.toList, statement.Regular := by
    simpa using regular_parseStatement_of cut (regular_parseAtRule c cut)
  refine parseStatements_cases ?ends ?closes ?more ?stuck
  case ends => exact fun _ => List.forall_mem_nil _
  case closes => exact fun _ _ => List.forall_mem_nil _
  case more =>
    intro _ _ shorter
    rw [List.forall_mem_append]
    have behind := c.reads_parseStatement.cut cut
    exact ⟨first, regular_parseStatements nested c.parseStatement.2 behind⟩
  case stuck => exact fun _ _ _ => first
termination_by 2 * c.rest.length + 1

theorem regular_parseAtRule (c : Cursor) (cut : IsCut c.lexemes) (isKeyword : c.kind = .atKeyword) :
    ∀ statement ∈ c.parseAtRule.1, statement.Regular := by
  by_cases isDefinition : c.AtDefinition
  · rw [parseAtRule_definition isDefinition]
    intro statement parsed
    obtain ⟨d, made, rfl⟩ := Option.map_eq_some_iff.mp parsed
    obtain ⟨form, name, regular⟩ :=
      regular_parseDefinition .directive cut (atName_ne_nil cut isKeyword) d made
    exact .definition form (name ▸ isDefinition.1) regular
  by_cases isImport : Text.lower c.atName = "import".toList
  · rw [parseAtRule_import isImport]
    exact regular_parseImport _ _
  have prelude := reads_prelude isDefinition
  refine parseAtRule_prelude_cases isDefinition isImport ?semicolon ?conditional ?declarations ?raw
    ?broken
  case semicolon =>
    rintro _ _ ⟨⟩
    refine .atRule ?_
    rintro _ ⟨⟩
  case conditional =>
    intro _ conditional shorter
    have body := (prelude.trans (reads_advance _)).cut cut
    rintro _ ⟨⟩
    exact .conditional (List.contains_iff_mem.mp conditional)
      (regular_parseStatements true c.prelude.2.advance body)
  case declarations =>
    intro _ notConditional holds
    have block := regular_parseBlock (prelude.cut cut)
    rintro _ ⟨⟩
    refine .atRule ?_
    rintro _ ⟨⟩
    refine ⟨by simpa using notConditional, ?_, ?_⟩
    · exact iff_of_true ⟨_, rfl⟩ (List.contains_iff_mem.mp holds)
    · rintro _ ⟨⟩
      exact block
  case raw =>
    intro _ notConditional holdsNone
    rintro _ ⟨⟩
    refine .atRule ?_
    rintro _ ⟨⟩
    refine ⟨by simpa using notConditional, ?_, ?_⟩
    · exact iff_of_false (by rintro ⟨_, ⟨⟩⟩) (by simpa using holdsNone)
    · rintro _ ⟨⟩
  case broken => rintro _ ⟨⟩
termination_by 2 * c.rest.length

end

end Statements

end Cursor

/-- A stylesheet that is read from any source is regular, whatever errors there are. -/
theorem Stylesheet.regular_parseAt (file : File) (offset : Nat) (source : Text) :
    (parseAt file offset source).tree.Regular := by
  have cut : Token.IsCut (Cursor.start offset source (Token.ofText offset source)).lexemes := by
    rw [Cursor.lexemes, Cursor.start, Token.lexemes_ofText]
    exact Token.isCut_lexemes source
  exact Cursor.regular_parseStatements false _ cut

-- In a block, a reserved name may define a variable.
example : (Stylesheet.parseAt .anonymous 0 "a \x7b @media: b".toList).tree.definitions.map
    (fun d => (d.name, d.form)) = [("media".toList, .directive)] := by cbv

end ComponentStyles
