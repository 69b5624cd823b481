import ComponentStyles.Proofs.Stylesheet.Parser.Selector
import ComponentStyles.Stylesheet.Printer

/-!
# Reading blocks and statements

What the parser skips it also reports. So where it reports nothing, the tree that it makes of plain
tokens is well-formed.
-/

namespace ComponentStyles

open Token

theorem selectorListsOf_append (statements others : List Statement) :
    selectorListsOf (statements ++ others) = selectorListsOf statements ++ selectorListsOf others := by
  induction statements with
  | nil => rfl
  | cons statement rest inductionHypothesis =>
      rw [List.cons_append, selectorListsOf, selectorListsOf, inductionHypothesis,
        List.append_assoc]

namespace Cursor

section Skipping

theorem splitDeclaration_append (depth : Nat) (tokens : List Token) :
    (splitDeclaration depth tokens).1 ++ (splitDeclaration depth tokens).2 = tokens := by
  induction tokens generalizing depth with
  | nil => rfl
  | cons token rest inductionHypothesis =>
      simp only [splitDeclaration]
      split <;> simp [inductionHypothesis]

theorem reads_skipDeclaration (c : Cursor) : c.Reads c.skipDeclaration True := by
  have cut := splitDeclaration_append 0 c.rest
  rw [skipDeclaration]
  generalize splitDeclaration 0 c.rest = parts at cut ⊢
  obtain ⟨taken, left⟩ := parts
  have moved : c.Reads (c.goTo taken left) True := reads_of_rest ⟨taken, cut⟩ rfl
  dsimp only
  split
  · exact (moved.trans (reads_advance _)).moves
  · exact moved

theorem reads_skipStatement (c : Cursor) : c.Reads c.skipStatement True := by
  simp only [skipStatement]
  generalize within : (fun token : Token =>
    !([.closeBrace, .semicolon, .openBrace] : List Token.Kind).contains token.kind) = inside
  have moved : c.Reads (c.goTo (c.rest.takeWhile inside) (c.rest.dropWhile inside)) True :=
    reads_of_rest (List.dropWhile_suffix _) rfl
  split
  · exact (moved.trans (reads_advance _)).moves
  · exact (moved.trans (reads_readBlock _)).moves
  · exact moved

theorem reads_finishDeclaration (c : Cursor) : c.Reads c.finishDeclaration True := by
  rw [finishDeclaration]
  split
  · exact c.reads_advance
  · exact Reads.refl c
  · exact Reads.refl c
  · exact (c.reads_unexpected _).loud (reads_skipDeclaration _)

end Skipping

section Blocks

theorem reads_parseImportant (c : Cursor) : c.Reads c.parseImportant.2 True := by
  have through := (c.reads_advance.trans (reads_skipTrivia _)).moves
  simp only [parseImportant]
  split
  · exact ((through.trans (reads_advance _)).trans (reads_skipTrivia _)).moves
  · exact (through.trans (reads_unexpected _ _).moves).moves

/-- Reads the mark of a declaration, if there is one. -/
def parseMark (c : Cursor) : Bool × Cursor :=
  if c.kind = .bang then c.parseImportant else (false, c)

theorem parseAssignment_colon {c : Cursor} (colon : c.advance.skipTrivia.kind = .colon) :
    c.parseAssignment =
      (some (c.advance.skipTrivia.advance.parseValue.1,
          c.advance.skipTrivia.advance.parseValue.2.parseMark.1),
        c.advance.skipTrivia.advance.parseValue.2.parseMark.2.finishDeclaration) := by
  rw [parseAssignment]
  simp only [colon, if_true]
  rfl

theorem reads_parseMark (c : Cursor) : c.Reads c.parseMark.2 True := by
  rw [parseMark]
  split
  · exact c.reads_parseImportant
  · exact Reads.refl c

theorem reads_parseAssignment (c : Cursor) : c.Reads c.parseAssignment.2
    (∀ value important, c.parseAssignment.1 = some (value, important) →
      WellFormedTerms value.terms) := by
  have through := c.reads_advance.trans (reads_skipTrivia _)
  by_cases colon : c.advance.skipTrivia.kind = .colon
  · rw [parseAssignment_colon colon]
    have value := (through.trans (reads_advance _)).trans (reads_parseValue _)
    refine ((value.trans (reads_parseMark _)).trans (reads_finishDeclaration _)).imp fun _ found => ?_
    rintro _ _ ⟨⟩
    exact found.1.1.2.1
  · rw [parseAssignment]
    simp only [colon, if_false]
    exact ((through.trans ((reads_expect _ _).trans (reads_skipDeclaration _)))).imp
      fun _ _ _ _ => nofun

theorem reads_parseDefinition (form : DefinitionForm) (c : Cursor) :
    c.Reads (c.parseDefinition form).2
      (∀ d, (c.parseDefinition form).1 = some d → d.form = form ∧
        d.name = c.current.text.drop form.mark.length ∧ WellFormedTerms d.value.terms) := by
  refine c.reads_parseAssignment.imp fun _ found d parsed => ?_
  obtain ⟨⟨value, important⟩, assigned, rfl⟩ := Option.map_eq_some_iff.mp parsed
  refine ⟨rfl, ?_, found value important assigned⟩
  cases form <;> rfl

theorem names_directive {c : Cursor} (plain : Plain c.lexemes) (isKeyword : c.kind = .atKeyword) :
    Kind.atKeyword.Spells ('@' :: c.current.text.drop 1) := by
  have spells := spells_current_of_cut plain.cut isKeyword (by decide)
  obtain ⟨name, same⟩ := exists_atKeyword_of_spells spells
  rwa [same] at spells ⊢

/-- Whether a name in a block is the name of a definition with its mark. -/
def IsMarked (text : Text) : Prop :=
  Text.startsWith text "var-".toList = true ∧ 4 < text.length

theorem names_property {text : Text} (isName : Kind.identifier.Spells text)
    (marked : IsMarked text) : DefinitionForm.property.Names (text.drop 4) := by
  obtain ⟨starts, long⟩ := marked
  obtain ⟨name, rfl⟩ := List.isPrefixOf_iff_prefix.mp starts
  rw [show ("var-".toList ++ name).drop 4 = name from rfl]
  refine ⟨isName, ?_⟩
  rintro rfl
  exact absurd long (by decide)

theorem parseItem_definition {c : Cursor} (marked : IsMarked c.current.text) :
    c.parseItem = ((c.parseDefinition .property).1.map .definition,
      (c.parseDefinition .property).2) := by
  rw [parseItem]
  exact if_pos (by simpa [IsMarked] using marked)

theorem parseItem_declaration {c : Cursor} (notMarked : ¬ IsMarked c.current.text) :
    c.parseItem = (c.parseAssignment.1.map fun assigned => .declaration
        ⟨c.current.text, assigned.1, assigned.2,
          ⟨c.current.span.start, c.parseAssignment.2.lastEnd⟩⟩,
      c.parseAssignment.2) := by
  rw [parseItem]
  exact if_neg (by simpa [IsMarked] using notMarked)

theorem reads_parseItem {c : Cursor} (isName : c.kind = .identifier) :
    c.Reads c.parseItem.2 (∀ item ∈ c.parseItem.1, item.WellFormed) := by
  by_cases marked : IsMarked c.current.text
  · rw [parseItem_definition marked]
    refine (c.reads_parseDefinition .property).imp fun plain found item parsed => ?_
    obtain ⟨d, made, rfl⟩ := Option.map_eq_some_iff.mp parsed
    obtain ⟨form, name, terms⟩ := found d made
    refine ⟨?_, terms⟩
    rw [form, name]
    exact names_property (spells_current_of_cut plain.cut isName (by decide)) marked
  · rw [parseItem_declaration marked]
    refine c.reads_parseAssignment.imp fun plain found item parsed => ?_
    obtain ⟨⟨value, important⟩, assigned, rfl⟩ := Option.map_eq_some_iff.mp parsed
    exact ⟨⟨spells_current_of_cut plain.cut isName (by decide), marked⟩,
      found value important assigned⟩

/-- What a step through the inside of a block can do. -/
@[elab_as_elim]
theorem blockStep_cases {motive : List Item → Cursor → Prop} {c next : Cursor} {items : List Item}
    (step : c.blockStep = some (items, next))
    (separator : c.kind ∈ [.whitespace, .comment, .semicolon] → motive [] c.advance)
    (item : c.kind = .identifier → motive c.parseItem.1.toList c.parseItem.2)
    (directive : c.kind = .atKeyword →
      motive ((c.parseDefinition .directive).1.toList.map .definition)
        (c.parseDefinition .directive).2)
    (refused : motive [] (c.unexpected .declaration).advance.skipDeclaration) :
    motive items next := by
  rw [blockStep] at step
  split at step
  case h_4 | h_5 => cases step
  case h_6 isName =>
    cases step
    exact item isName
  case h_7 isKeyword =>
    split at step
    · cases step
      exact directive isKeyword
    · cases step
      exact refused
  case h_8 =>
    cases step
    exact refused
  case h_1 isKind | h_2 isKind | h_3 isKind =>
    cases step
    exact separator (by simp [isKind])

theorem reads_blockStep {c next : Cursor} {items : List Item}
    (step : c.blockStep = some (items, next)) :
    c.Reads next (∀ item ∈ items, item.WellFormed) := by
  refine blockStep_cases step ?separator ?item ?directive ?refused
  case separator => exact fun _ => c.reads_advance.imp fun _ _ => nofun
  case item =>
    intro isName
    refine (reads_parseItem isName).imp fun _ found item listed => ?_
    exact found item (Option.mem_toList.mp listed)
  case directive =>
    intro isKeyword
    refine (c.reads_parseDefinition .directive).imp fun plain found item listed => ?_
    obtain ⟨d, parsed, rfl⟩ := List.mem_map.mp listed
    obtain ⟨form, name, terms⟩ := found d (Option.mem_toList.mp parsed)
    refine ⟨?_, terms⟩
    rw [form, name]
    exact names_directive plain isKeyword
  case refused =>
    exact (c.reads_unexpected _).loud ((reads_advance _).trans (reads_skipDeclaration _)).moves

/-- What every step finds, the repetition finds of everything. -/
theorem reads_repeatedly {α : Type} {step : Cursor → Option (List α × Cursor)} {Good : α → Prop}
    (reads : ∀ {c found next}, step c = some (found, next) → c.Reads next (∀ x ∈ found, Good x))
    (c : Cursor) :
    c.Reads (c.repeatedly step).2 (∀ x ∈ (c.repeatedly step).1, Good x) := by
  induction c using repeatedly.induct step with
  | case1 c declines =>
      rw [repeatedly, declines]
      exact (Reads.refl c).imp fun _ _ => nofun
  | case2 c found next stepped shorter _ _ _ inductionHypothesis =>
      rw [repeatedly, stepped]
      simp only [shorter, if_true]
      refine ((reads stepped).trans inductionHypothesis).imp fun _ found => ?_
      simpa only [List.forall_mem_append] using found
  | case3 c found next stepped stuck =>
      rw [repeatedly, stepped]
      simp only [stuck, if_false]
      exact reads stepped

theorem reads_parseBlock (c : Cursor) : c.Reads c.parseBlock.2 c.parseBlock.1.WellFormed := by
  rw [parseBlock]
  refine ((c.reads_advance.trans (reads_repeatedly reads_blockStep _)).trans
    (reads_expect _ _)).imp fun _ found => found.1.2

end Blocks

section Statements

theorem wellFormedStatements_append {statements rest : List Statement} :
    WellFormedStatements (statements ++ rest) ↔
      WellFormedStatements statements ∧ WellFormedStatements rest := by
  induction statements with
  | nil => simp [WellFormedStatements]
  | cons statement statements inductionHypothesis =>
      simp [WellFormedStatements, inductionHypothesis, and_assoc]

theorem wellFormedStatements_toList {statement? : Option Statement}
    (wellFormed : ∀ statement, statement? = some statement → statement.WellFormed) :
    WellFormedStatements statement?.toList := by
  cases statement? with
  | none => trivial
  | some statement => exact ⟨wellFormed statement rfl, trivial⟩

theorem reads_parseComment {c : Cursor} (isComment : c.kind = .comment) :
    c.Reads c.parseComment.2 c.parseComment.1.WellFormed := by
  refine c.reads_advance.imp fun plain _ => ?_
  have spells := spells_current_of_cut plain.cut isComment (by decide)
  obtain ⟨inside, same, _⟩ := exists_inside_of_matches_comment (spells.matches (by decide))
  have written : (c.current.text.drop 2).dropLast.dropLast = inside := by
    rw [same, show ('/' :: '*' :: (inside ++ ['*', '/'])).drop 2 = (inside ++ ['*']) ++ ['/'] by simp,
      List.dropLast_concat, List.dropLast_concat]
  rw [parseComment, Statement.WellFormed, written]
  rwa [same] at spells

/-- An error that is recorded behind the step that failed. -/
theorem reads_fail (c : Cursor) (error : ParseError) :
    c.Reads { c with errors := c.errors ++ [error] } False := by
  refine ⟨List.suffix_refl _, List.prefix_append _ _, fun _ quiet => ?_⟩
  simp at quiet

theorem reads_parseRule (c : Cursor) : c.Reads c.parseRule.2
    (∀ statement, c.parseRule.1 = some statement → statement.WellFormed) := by
  rw [parseRule]
  have selectors := reads_parseSelectorList .openBrace c
  generalize c.parseSelectorList .openBrace = parsed at selectors ⊢
  obtain ⟨outcome, last⟩ := parsed
  cases outcome with
  | error error =>
      exact (selectors.moves.trans ((last.reads_fail error).loud (reads_skipStatement _))).imp
        fun _ found => found.2
  | ok selectors =>
      dsimp only at selectors ⊢
      split
      · refine (selectors.trans (reads_parseBlock last)).imp fun _ found => ?_
        rintro _ ⟨⟩
        exact ⟨found.1 _ rfl, found.2⟩
      · exact (selectors.trans ((reads_expect _ _).trans (reads_skipStatement _))).imp
          fun _ _ _ => nofun

/-- A text that is kept from the next significant token on. -/
theorem reads_kept {stops : List Kind} (noBlank : Kind.whitespace ∉ stops) (c : Cursor) :
    c.Reads (c.skipTrivia.readRaw stops).2 ((c.skipTrivia.readRaw stops).2.kind ≠ .endOfInput →
      KeepsBehind (Fence.outsideParens stops noBlank) (c.skipTrivia.readRaw stops).1 ∧
        (c.skipTrivia.readRaw stops).2.kind ∈ stops ∧
        ∀ l ∈ (Token.lexemes (c.skipTrivia.readRaw stops).1).head?,
          l.kind = c.skipTrivia.kind) := by
  refine (c.reads_skipTrivia.trans (reads_readRaw noBlank c.skipTrivia)).imp ?_
  intro _ found inside
  have solid : ∀ l ∈ c.skipTrivia.lexemes.head?, l.isTrivia = false := by
    intro l first
    rw [lexemes_skipTrivia] at first
    have notTrivia := List.head?_dropWhile_not Lexeme.isTrivia c.lexemes
    rw [Option.mem_def.mp first] at notTrivia
    simpa using notTrivia
  obtain ⟨keeps, ends, head⟩ := found.2 inside
  have first := head fun l first => by
    have notTrivia := solid l first
    rw [Lexeme.isTrivia] at notTrivia
    refine decide_eq_false fun blank => ?_
    rw [blank] at notTrivia
    cases notTrivia
  refine ⟨⟨keeps, fun l listed => solid l (first l listed)⟩, ends, fun l listed => ?_⟩
  obtain ⟨ls, ahead⟩ := List.head?_eq_some_iff.mp (first l listed)
  exact (kind_of_ahead ahead).symm

/-- Reads the media of an import with the given target and the semicolon behind them. -/
def parseMedia (start : Nat) (target : Text) (c : Cursor) : Option Statement × Cursor :=
  let media := c.advance.skipTrivia.readRaw [.semicolon, .openBrace, .closeBrace]
  let last := media.2.expect .semicolon
  (some (.importing target (if media.1.isEmpty then none else some media.1) ⟨start, last.lastEnd⟩),
    last)

theorem parseImport_string {start : Nat} {c : Cursor} (isString : c.skipTrivia.kind = .string) :
    c.parseImport start = c.skipTrivia.parseMedia start (unquote c.skipTrivia.current.text) := by
  rw [parseImport]
  simp only [isString]
  rfl

theorem parseImport_url {start : Nat} {c : Cursor} (isUrl : c.skipTrivia.kind = .url) :
    c.parseImport start = c.skipTrivia.parseMedia start (urlTarget c.skipTrivia.current.text) := by
  rw [parseImport]
  simp only [isUrl]
  rfl

theorem parseImport_refused {start : Nat} {c : Cursor} (notString : c.skipTrivia.kind ≠ .string)
    (notUrl : c.skipTrivia.kind ≠ .url) :
    c.parseImport start = (none, (c.skipTrivia.unexpected .importTarget).skipStatement) := by
  rw [parseImport]
  split <;> simp_all

/-- An import is read on from its target, a string or a URL, or refused. -/
@[elab_as_elim]
theorem parseImport_cases {motive : Option Statement × Cursor → Prop} {start : Nat} {c : Cursor}
    (media : ∀ target, c.skipTrivia.kind ∈ [.string, .url] →
      motive (c.skipTrivia.parseMedia start target))
    (refused : motive (none, (c.skipTrivia.unexpected .importTarget).skipStatement)) :
    motive (c.parseImport start) := by
  by_cases isString : c.skipTrivia.kind = .string
  · rw [parseImport_string isString]
    exact media _ (by simp [isString])
  by_cases isUrl : c.skipTrivia.kind = .url
  · rw [parseImport_url isUrl]
    exact media _ (by simp [isUrl])
  · rw [parseImport_refused isString isUrl]
    exact refused

theorem reads_parseMedia (start : Nat) (target : Text) (c : Cursor) :
    c.Reads (c.parseMedia start target).2
      (∀ statement, (c.parseMedia start target).1 = some statement → statement.WellFormed) := by
  rw [parseMedia]
  refine ((c.reads_advance.trans (reads_kept (by decide) _)).trans (reads_expect _ .semicolon)).imp ?_
  intro _ found
  rintro _ ⟨⟩ text isMedia
  obtain ⟨keeps, _⟩ := found.1.2 (by rw [found.2]; decide)
  split at isMedia
  case isTrue => cases isMedia
  case isFalse notEmpty =>
    cases isMedia
    exact ⟨by simpa using notEmpty, keeps⟩

theorem reads_parseImport (start : Nat) (c : Cursor) : c.Reads (c.parseImport start).2
    (∀ statement, (c.parseImport start).1 = some statement → statement.WellFormed) := by
  refine parseImport_cases ?media ?refused
  case media =>
    exact fun _ _ => (c.reads_skipTrivia.trans (reads_parseMedia start _ _)).imp
      fun _ found => found.2
  case refused =>
    exact (c.reads_skipTrivia.trans ((reads_unexpected _ _).loud (reads_skipStatement _))).imp
      fun _ found => found.2

/-- Reads the next statement, unless the next token separates statements. -/
def parseStatement (c : Cursor) : Option Statement × Cursor :=
  match c.kind with
  | .whitespace | .semicolon => (none, c.advance)
  | .comment => (some c.parseComment.1, c.parseComment.2)
  | .closeBrace => (none, (c.unexpected .statement).advance)
  | .atKeyword => c.parseAtRule
  | _ => c.parseRule

/-- The ways to read the next statement. -/
@[elab_as_elim]
theorem parseStatement_cases {motive : Option Statement × Cursor → Prop} {c : Cursor}
    (separator : c.kind ∈ [.whitespace, .semicolon] → motive (none, c.advance))
    (comment : c.kind = .comment → motive (some c.parseComment.1, c.parseComment.2))
    (stray : c.kind = .closeBrace → motive (none, (c.unexpected .statement).advance))
    (atRule : c.kind = .atKeyword → motive c.parseAtRule)
    (rule : c.kind ≠ .semicolon → c.kind ≠ .closeBrace → motive c.parseRule) :
    motive c.parseStatement := by
  rw [parseStatement]
  split
  case h_1 isKind | h_2 isKind => exact separator (by simp [isKind])
  case h_3 isComment => exact comment isComment
  case h_4 closes => exact stray closes
  case h_5 isKeyword => exact atRule isKeyword
  case h_6 notSemicolon _ unclosed _ => exact rule notSemicolon unclosed

theorem parseStatements_end {c : Cursor} (ends : c.kind = .endOfInput) (nested : Bool) :
    c.parseStatements nested =
      ([], if nested then c.report (.unexpectedEnd (.token .closeBrace)) else c) := by
  rw [parseStatements, ends]

theorem parseStatements_close {c : Cursor} (closes : c.kind = .closeBrace) :
    c.parseStatements true = ([], c) := by
  rw [parseStatements, closes]
  rfl

theorem parseStatements_more {nested : Bool} {c : Cursor} (inside : c.kind ≠ .endOfInput)
    (unclosed : nested = true → c.kind ≠ .closeBrace)
    (shorter : c.parseStatement.2.rest.length < c.rest.length) :
    c.parseStatements nested =
      (c.parseStatement.1.toList ++ (c.parseStatement.2.parseStatements nested).1,
        (c.parseStatement.2.parseStatements nested).2) := by
  rw [parseStatements]
  split
  case h_1 ends => exact absurd ends inside
  case h_2 kind _ =>
    rw [if_neg (by simpa using unclosed)]
    exact dif_pos shorter

theorem parseStatements_stuck {nested : Bool} {c : Cursor} (inside : c.kind ≠ .endOfInput)
    (unclosed : nested = true → c.kind ≠ .closeBrace)
    (stuck : ¬ c.parseStatement.2.rest.length < c.rest.length) :
    c.parseStatements nested = (c.parseStatement.1.toList, c.parseStatement.2) := by
  rw [parseStatements]
  split
  case h_1 ends => exact absurd ends inside
  case h_2 kind _ =>
    rw [if_neg (by simpa using unclosed)]
    exact dif_neg stuck

/-- The ways to go on between statements. -/
@[elab_as_elim]
theorem parseStatements_cases {motive : List Statement × Cursor → Prop} {nested : Bool} {c : Cursor}
    (ends : c.kind = .endOfInput →
      motive ([], if nested then c.report (.unexpectedEnd (.token .closeBrace)) else c))
    (closes : nested = true → c.kind = .closeBrace → motive ([], c))
    (more : c.kind ≠ .endOfInput → (nested = true → c.kind ≠ .closeBrace) →
      c.parseStatement.2.rest.length < c.rest.length →
      motive (c.parseStatement.1.toList ++ (c.parseStatement.2.parseStatements nested).1,
        (c.parseStatement.2.parseStatements nested).2))
    (stuck : c.kind ≠ .endOfInput → (nested = true → c.kind ≠ .closeBrace) →
      ¬ c.parseStatement.2.rest.length < c.rest.length →
      motive (c.parseStatement.1.toList, c.parseStatement.2)) :
    motive (c.parseStatements nested) := by
  by_cases isEnd : c.kind = .endOfInput
  · rw [parseStatements_end isEnd]
    exact ends isEnd
  by_cases closed : nested = true ∧ c.kind = .closeBrace
  · obtain ⟨rfl, closed⟩ := closed
    rw [parseStatements_close closed]
    exact closes rfl closed
  have unclosed : nested = true → c.kind ≠ .closeBrace := not_and.mp closed
  by_cases shorter : c.parseStatement.2.rest.length < c.rest.length
  · rw [parseStatements_more isEnd unclosed shorter]
    exact more isEnd unclosed shorter
  · rw [parseStatements_stuck isEnd unclosed shorter]
    exact stuck isEnd unclosed shorter

section AtRules

variable {c : Cursor}

/-- The name of the at-rule that comes next. -/
def atName (c : Cursor) : Text :=
  c.current.text.drop 1

/-- Whether the at-keyword that comes next is the name of a definition. -/
def AtDefinition (c : Cursor) : Prop :=
  isReserved (Text.lower c.atName) = false ∧ c.colonFollows = true

/-- The text between an at-keyword and the block or the semicolon, and the place behind it. -/
def prelude (c : Cursor) : Text × Cursor :=
  c.advance.skipTrivia.readRaw [.openBrace, .semicolon, .closeBrace]

theorem parseAtRule_definition (defines : c.AtDefinition) :
    c.parseAtRule = ((c.parseDefinition .directive).1.map .definition,
      (c.parseDefinition .directive).2) := by
  rw [parseAtRule]
  exact if_pos (by simpa [AtDefinition, atName] using defines)

theorem not_atDefinition_of_isReserved (reserved : isReserved (Text.lower c.atName) = true) :
    ¬ c.AtDefinition := by
  simp [AtDefinition, reserved]

theorem parseAtRule_import (isImport : Text.lower c.atName = "import".toList) :
    c.parseAtRule = c.advance.parseImport c.current.span.start := by
  have notDefinition : ¬ c.AtDefinition :=
    not_atDefinition_of_isReserved (by rw [isImport]; decide)
  rw [parseAtRule]
  exact (if_neg (by simpa [AtDefinition, atName] using notDefinition)).trans (if_pos isImport)

variable (notDefinition : ¬ c.AtDefinition) (notImport : Text.lower c.atName ≠ "import".toList)

include notDefinition notImport

/-- What follows the prelude decides what an at-rule is. -/
theorem parseAtRule_eq : c.parseAtRule =
    match c.prelude.2.kind with
    | .semicolon =>
        (some (.atRule c.atName c.prelude.1 none
          ⟨c.current.span.start, c.prelude.2.advance.lastEnd⟩), c.prelude.2.advance)
    | .openBrace =>
        if conditionalNames.contains (Text.lower c.atName) then
          let body := c.prelude.2.advance
          if body.rest.length < c.rest.length then
            let last := (body.parseStatements true).2.expect .closeBrace
            (some (.conditional c.atName c.prelude.1 (body.parseStatements true).1
              ⟨c.current.span.start, last.lastEnd⟩), last)
          else (none, body)
        else if declarationNames.contains (Text.lower c.atName) then
          (some (.atRule c.atName c.prelude.1 (some (.declarations c.prelude.2.parseBlock.1))
            ⟨c.current.span.start, c.prelude.2.parseBlock.2.lastEnd⟩), c.prelude.2.parseBlock.2)
        else
          (some (.atRule c.atName c.prelude.1 (some (.raw c.prelude.2.readBlock.1))
            ⟨c.current.span.start, c.prelude.2.readBlock.2.lastEnd⟩), c.prelude.2.readBlock.2)
    | _ => (none, c.prelude.2.expect .semicolon) := by
  rw [parseAtRule]
  refine (if_neg (by simpa [AtDefinition, atName] using notDefinition)).trans
    ((if_neg notImport).trans ?_)
  rfl

/-- The ways to go on behind the prelude of an at-rule. -/
@[elab_as_elim]
theorem parseAtRule_prelude_cases {motive : Option Statement × Cursor → Prop}
    (semicolon : c.prelude.2.kind = .semicolon →
      motive (some (.atRule c.atName c.prelude.1 none
        ⟨c.current.span.start, c.prelude.2.advance.lastEnd⟩), c.prelude.2.advance))
    (conditional : c.prelude.2.kind = .openBrace →
      conditionalNames.contains (Text.lower c.atName) = true →
      c.prelude.2.advance.rest.length < c.rest.length →
      motive (some (.conditional c.atName c.prelude.1 (c.prelude.2.advance.parseStatements true).1
        ⟨c.current.span.start,
          ((c.prelude.2.advance.parseStatements true).2.expect .closeBrace).lastEnd⟩),
        (c.prelude.2.advance.parseStatements true).2.expect .closeBrace))
    (declarations : c.prelude.2.kind = .openBrace →
      conditionalNames.contains (Text.lower c.atName) = false →
      declarationNames.contains (Text.lower c.atName) = true →
      motive (some (.atRule c.atName c.prelude.1 (some (.declarations c.prelude.2.parseBlock.1))
        ⟨c.current.span.start, c.prelude.2.parseBlock.2.lastEnd⟩), c.prelude.2.parseBlock.2))
    (raw : c.prelude.2.kind = .openBrace →
      conditionalNames.contains (Text.lower c.atName) = false →
      declarationNames.contains (Text.lower c.atName) = false →
      motive (some (.atRule c.atName c.prelude.1 (some (.raw c.prelude.2.readBlock.1))
        ⟨c.current.span.start, c.prelude.2.readBlock.2.lastEnd⟩), c.prelude.2.readBlock.2))
    (broken : motive (none, c.prelude.2.expect .semicolon)) : motive c.parseAtRule := by
  rw [parseAtRule_eq notDefinition notImport]
  split
  case h_1 isSemicolon => exact semicolon isSemicolon
  case h_2 opens =>
    split
    case isTrue isConditional =>
      have shorter : c.prelude.2.advance.rest.length < c.rest.length := by
        have behind : c.prelude.2.rest.length ≤ c.rest.length :=
          ((c.reads_advance.trans (reads_skipTrivia _)).trans
            (reads_readRaw (by decide) _)).suffix.length_le
        obtain ⟨token, tail, whole⟩ := exists_rest_of_kind (c := c.prelude.2) (by rw [opens]; decide)
        rw [whole, List.length_cons] at behind
        rw [length_advance, whole, List.length_cons]
        omega
      dsimp only
      rw [if_pos shorter]
      exact conditional opens isConditional shorter
    case isFalse notConditional =>
      have notConditional := Bool.eq_false_iff.mpr notConditional
      split
      case isTrue holds => exact declarations opens notConditional holds
      case isFalse holdsNone =>
        exact raw opens notConditional (Bool.eq_false_iff.mpr holdsNone)
  case h_3 => exact broken

end AtRules

theorem colonFollows_iff {c : Cursor} : c.colonFollows = true ↔ c.advance.skipTrivia.kind = .colon :=
  decide_eq_true_iff

theorem reads_prelude {c : Cursor} (notDefinition : ¬ c.AtDefinition) :
    c.Reads c.prelude.2 (c.prelude.2.kind ≠ .endOfInput →
      KeepsBehind .ofPrelude c.prelude.1 ∧ DefinesNothing c.atName c.prelude.1) := by
  refine (c.reads_advance.trans (reads_kept (by decide) c.advance)).imp fun _ found inside => ?_
  obtain ⟨keeps, _, head⟩ := found.2 inside
  refine ⟨keeps, ?_⟩
  cases reserved : isReserved (Text.lower c.atName) with
  | true => exact .inl reserved
  | false =>
      refine .inr fun l listed isColon => notDefinition ⟨reserved, colonFollows_iff.mpr ?_⟩
      rw [← head l listed, isColon]

theorem reads_parseStatement_of {c : Cursor}
    (atRule : c.kind = .atKeyword → c.Reads c.parseAtRule.2
      (∀ statement, c.parseAtRule.1 = some statement → statement.WellFormed)) :
    c.Reads c.parseStatement.2
      (∀ statement, c.parseStatement.1 = some statement → statement.WellFormed) := by
  refine parseStatement_cases ?separator ?comment ?stray ?atRule ?rule
  case separator => exact fun _ => c.reads_advance.imp fun _ _ => nofun
  case comment =>
    intro isComment
    refine (reads_parseComment isComment).imp fun _ found => ?_
    rintro _ ⟨⟩
    exact found
  case stray => exact fun _ => (c.reads_unexpected _).loud (reads_advance _)
  case atRule => exact atRule
  case rule => exact fun _ _ => c.reads_parseRule

mutual

theorem reads_parseStatements (nested : Bool) (c : Cursor) :
    c.Reads (c.parseStatements nested).2 (WellFormedStatements (c.parseStatements nested).1) := by
  have first := reads_parseStatement_of (reads_parseAtRule c)
  refine parseStatements_cases ?ends ?closes ?more ?stuck
  case ends =>
    intro _
    cases nested with
    | false => exact (Reads.refl c).imp fun _ _ => trivial
    | true => exact (c.reads_report _).imp fun _ => False.elim
  case closes => exact fun _ _ => (Reads.refl c).imp fun _ _ => trivial
  case more =>
    intro _ _ shorter
    refine (first.trans (reads_parseStatements nested c.parseStatement.2)).imp fun _ found => ?_
    exact wellFormedStatements_append.mpr ⟨wellFormedStatements_toList found.1, found.2⟩
  case stuck => exact fun _ _ _ => first.imp fun _ found => wellFormedStatements_toList found
termination_by 2 * c.rest.length + 1

theorem reads_parseAtRule (c : Cursor) (isKeyword : c.kind = .atKeyword) :
    c.Reads c.parseAtRule.2
      (∀ statement, c.parseAtRule.1 = some statement → statement.WellFormed) := by
  by_cases isDefinition : c.AtDefinition
  · rw [parseAtRule_definition isDefinition]
    refine (c.reads_parseDefinition .directive).imp fun plain found statement parsed => ?_
    obtain ⟨d, made, rfl⟩ := Option.map_eq_some_iff.mp parsed
    obtain ⟨form, name, terms⟩ := found d made
    refine ⟨form, ?_, ?_, terms⟩
    · rw [name]
      exact isDefinition.1
    · rw [form, name]
      exact names_directive plain isKeyword
  by_cases isImport : Text.lower c.atName = "import".toList
  · rw [parseAtRule_import isImport]
    exact (c.reads_advance.trans (reads_parseImport _ _)).imp fun _ found => found.2
  have prelude := reads_prelude isDefinition
  refine parseAtRule_prelude_cases isDefinition isImport ?semicolon ?conditional ?declarations ?raw
    ?broken
  case semicolon =>
    intro isSemicolon
    refine (prelude.trans (reads_advance _)).imp fun plain found => ?_
    rintro _ ⟨⟩
    obtain ⟨keeps, definesNothing⟩ := found.1 (by rw [isSemicolon]; decide)
    exact ⟨names_directive plain isKeyword, isImport, keeps, definesNothing, nofun⟩
  case conditional =>
    intro opens conditional shorter
    refine (((prelude.trans (reads_advance _)).trans
      (reads_parseStatements true c.prelude.2.advance)).trans (reads_expect _ _)).imp ?_
    intro plain found
    rintro _ ⟨⟩
    obtain ⟨keeps, -⟩ := found.1.1.1 (by rw [opens]; decide)
    exact ⟨names_directive plain isKeyword, conditional, keeps, found.1.2⟩
  case declarations =>
    intro opens notConditional holds
    refine (prelude.trans (reads_parseBlock _)).imp fun plain found => ?_
    rintro _ ⟨⟩
    obtain ⟨keeps, definesNothing⟩ := found.1 (by rw [opens]; decide)
    refine ⟨names_directive plain isKeyword, isImport, keeps, definesNothing, ?_⟩
    rintro _ ⟨⟩
    exact ⟨notConditional, holds, found.2⟩
  case raw =>
    intro opens notConditional holdsNone
    refine (prelude.trans (reads_readBlock _)).imp fun plain found => ?_
    rintro _ ⟨⟩
    obtain ⟨keeps, definesNothing⟩ := found.1 (by rw [opens]; decide)
    refine ⟨names_directive plain isKeyword, isImport, keeps, definesNothing, ?_⟩
    rintro _ ⟨⟩
    exact ⟨notConditional, holdsNone, found.2⟩
  case broken => exact (prelude.trans (reads_expect _ _)).imp fun _ _ => nofun
termination_by 2 * c.rest.length

end

theorem reads_parseStatement (c : Cursor) : c.Reads c.parseStatement.2
    (∀ statement, c.parseStatement.1 = some statement → statement.WellFormed) :=
  reads_parseStatement_of (reads_parseAtRule c)

end Statements

section Lists

variable {c next : Cursor} {list : SelectorList}

/-- The list is what selectors are read as somewhere ahead. -/
def Selects (c : Cursor) (list : SelectorList) : Prop :=
  ∃ start : Cursor, start.rest <:+ c.rest ∧ (start.parseSelectorList .openBrace).1 = .ok list

theorem Selects.earlier (selects : next.Selects list) (suffix : next.rest <:+ c.rest) :
    c.Selects list := by
  obtain ⟨start, ahead, parsed⟩ := selects
  exact ⟨start, ahead.trans suffix, parsed⟩

/-- The selectors of a statement, if one is found, are read from what is ahead. -/
def SelectsOf (c : Cursor) (statement? : Option Statement) : Prop :=
  ∀ statement ∈ statement?, ∀ list ∈ statement.selectorLists, c.Selects list

theorem selectsOf_none : c.SelectsOf none :=
  nofun

theorem selectsOf_some {statement : Statement} (none : statement.selectorLists = []) :
    c.SelectsOf (some statement) := by
  rintro _ ⟨⟩ list listed
  rw [none] at listed
  cases listed

theorem selects_toList {statement? : Option Statement} (selects : c.SelectsOf statement?) :
    ∀ list ∈ selectorListsOf statement?.toList, c.Selects list := by
  cases statement? with
  | none => nofun
  | some statement => simpa [selectorListsOf] using selects statement rfl

theorem selects_parseRule (c : Cursor) : c.SelectsOf c.parseRule.1 := by
  rw [parseRule]
  cases parsed : c.parseSelectorList .openBrace with
  | mk outcome last =>
      cases outcome with
      | error error => exact selectsOf_none
      | ok selectors =>
          dsimp only
          split
          · rintro _ ⟨⟩ list listed
            obtain rfl := List.mem_singleton.mp listed
            exact ⟨c, List.suffix_refl _, by rw [parsed]⟩
          · exact selectsOf_none

theorem selects_parseImport (start : Nat) (c : Cursor) : c.SelectsOf (c.parseImport start).1 :=
  parseImport_cases (fun _ _ => selectsOf_some rfl) selectsOf_none

theorem selects_parseStatement_of {c : Cursor} (atRule : c.SelectsOf c.parseAtRule.1) :
    c.SelectsOf c.parseStatement.1 := by
  refine parseStatement_cases ?separator ?comment ?stray ?atRule ?rule
  case separator | stray => exact fun _ => selectsOf_none
  case comment => exact fun _ => selectsOf_some rfl
  case atRule => exact fun _ => atRule
  case rule => exact fun _ _ => selects_parseRule c

mutual

theorem selects_parseStatements (nested : Bool) (c : Cursor) :
    ∀ list ∈ selectorListsOf (c.parseStatements nested).1, c.Selects list := by
  have first := selects_toList (selects_parseStatement_of (selects_parseAtRule c))
  refine parseStatements_cases ?ends ?closes ?more ?stuck
  case ends => nofun
  case closes => nofun
  case more =>
    intro _ _ shorter
    rw [selectorListsOf_append, List.forall_mem_append]
    refine ⟨first, fun list listed => ?_⟩
    exact (selects_parseStatements nested c.parseStatement.2 list listed).earlier
      c.reads_parseStatement.suffix
  case stuck => exact fun _ _ _ => first
termination_by 2 * c.rest.length + 1

theorem selects_parseAtRule (c : Cursor) : c.SelectsOf c.parseAtRule.1 := by
  by_cases isDefinition : c.AtDefinition
  · rw [parseAtRule_definition isDefinition]
    intro statement parsed
    obtain ⟨d, _, rfl⟩ := Option.map_eq_some_iff.mp parsed
    nofun
  by_cases isImport : Text.lower c.atName = "import".toList
  · rw [parseAtRule_import isImport]
    intro statement parsed list listed
    exact (selects_parseImport _ _ statement parsed list listed).earlier c.reads_advance.suffix
  refine parseAtRule_prelude_cases isDefinition isImport ?semicolon ?conditional ?declarations ?raw
    ?broken
  case conditional =>
    intro _ _ shorter
    rintro _ ⟨⟩ list listed
    have inside := (reads_prelude isDefinition).trans (reads_advance _)
    exact (selects_parseStatements true c.prelude.2.advance list listed).earlier inside.suffix
  case semicolon => exact fun _ => selectsOf_some rfl
  case declarations | raw => exact fun _ _ _ => selectsOf_some rfl
  case broken => exact selectsOf_none
termination_by 2 * c.rest.length

end

end Lists

end Cursor

/-- The selectors of a parsed stylesheet meet the demands of every outlook on its tokens, whatever
errors there are. -/
theorem Stylesheet.meets_of_parseAt {outlook : Outlook} {file : File} {offset : Nat} {text rest : Text}
    (knows : outlook.Knows (Token.lexemes text)) (fits : ∀ ls, outlook.Fits ls rest)
    {list : SelectorList} (listed : list ∈ (parseAt file offset text).tree.selectorLists) :
    list.Meets outlook.demands rest := by
  let c := Cursor.start offset text (Token.ofText offset text)
  have ahead : c.lexemes = Token.lexemes text := Token.lexemes_ofText offset text
  obtain ⟨start, suffix, parsed⟩ := Cursor.selects_parseStatements false c list listed
  have knows : outlook.Knows start.lexemes :=
    outlook.later (ahead ▸ knows) (Cursor.lexemes_suffix suffix)
  obtain ⟨notEmpty, finds⟩ :=
    (Cursor.passes_parseSelectorList outlook .openBrace start).found knows list parsed
  exact ⟨notEmpty, finds.meets (fits _)⟩

theorem Stylesheet.wellFormed_of_parseAt {file : File} {offset : Nat} {text : Text}
    (plain : Token.Plain (Token.lexemes text)) (quiet : (parseAt file offset text).errors = []) :
    WellFormedStatements (parseAt file offset text).tree.statements := by
  refine (Cursor.reads_parseStatements false (.start offset text (Token.ofText offset text))).found
    ?_ quiet
  rwa [Cursor.lexemes, Cursor.start, Token.lexemes_ofText]

end ComponentStyles
