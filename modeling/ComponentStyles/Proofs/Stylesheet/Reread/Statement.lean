import ComponentStyles.Proofs.Stylesheet.Reread.Block

/-!
# Reading written stylesheets

A well-formed and steady tree is read again from its written form, in either layout: nothing is
reported, and the tree is the same up to what the written form does not tell.
-/

namespace ComponentStyles

open Token

variable {rest name text : Text}

section Written

variable {layout : Layout} {depth : Nat} {span : Span}

theorem Statement.render_comment :
    (Statement.comment text span).render layout depth = "/*".toList ++ text ++ "*/".toList := rfl

theorem Statement.render_rule {selectors : SelectorList} {block : Block} :
    (Statement.rule selectors block span).render layout depth ++ rest =
      selectors.render ++ (block.render layout depth ++ rest) :=
  List.append_assoc _ _ _

theorem Statement.render_definition {d : Definition} :
    (Statement.definition d).render layout depth = d.render := rfl

/-- A kept text behind a blank, or nothing. -/
def keptText (text : Text) : Text :=
  if text.isEmpty then [] else ' ' :: text

/-- What stands in front of a stop: a blank or nothing. -/
def gapLexemes (gap : Bool) : List Lexeme :=
  if gap then [⟨.whitespace, [' ']⟩] else []

/-- A stop, behind a blank or right behind what it ends. -/
def stopText (gap : Bool) (stop : Char) : Text :=
  if gap then [' ', stop] else [stop]

theorem Statement.render_importing {target : Text} {media : Option Text} :
    (Statement.importing target media span).render layout depth ++ rest =
      '@' :: ("import".toList ++ ' ' :: (('"' :: (target ++ ['"'])) ++
        (media.elim [] (' ' :: ·) ++ (stopText false ';' ++ rest)))) := by
  rw [show (Statement.importing target media span).render layout depth =
    "@import \"".toList ++ target ++ '"' :: (media.elim [] (' ' :: ·)) ++ [';'] from rfl]
  simp [stopText]

/-- An at-keyword, what stands behind it and the sign that ends that. -/
def headText (name prelude : Text) (gap : Bool) (stop : Char) : Text :=
  '@' :: (name ++ (keptText prelude ++ stopText gap stop))

theorem headText_append {prelude : Text} {gap : Bool} {stop : Char} :
    headText name prelude gap stop ++ rest =
      '@' :: (name ++ (keptText prelude ++ (stopText gap stop ++ rest))) := by
  simp [headText]

theorem Statement.render_conditional {condition : Text} {statements : List Statement} :
    (Statement.conditional name condition statements span).render layout depth ++ rest =
      headText name condition true '\x7b' ++ (renderStatements layout (depth + 1) statements ++
        (layout.separator depth ++ '\x7d' :: rest)) := by
  rw [show (Statement.conditional name condition statements span).render layout depth =
    renderAtHead name condition ++ " \x7b".toList ++ renderStatements layout (depth + 1) statements ++
      layout.separator depth ++ ['\x7d'] from rfl]
  simp [headText, renderAtHead, keptText, stopText]

variable {prelude : Text}

theorem lexemes_headText {gap : Bool} {stop : Char} (isKeyword : Kind.atKeyword.Spells ('@' :: name))
    (notPart : isNamePart stop = false) :
    lexemes (headText name prelude gap stop ++ rest) =
      ⟨.atKeyword, '@' :: name⟩ :: lexemes (keptText prelude ++ (stopText gap stop ++ rest)) := by
  rw [headText_append]
  refine lexemes_atKeyword isKeyword ?_
  rw [keptText]
  split
  · cases gap with
    | false =>
        rintro _ ⟨⟩
        exact notPart
    | true =>
        rintro _ ⟨⟩
        decide
  · rintro _ ⟨⟩
    decide

theorem Statement.render_atRule_none :
    (Statement.atRule name prelude none span).render layout depth ++ rest =
      headText name prelude false ';' ++ rest := by
  rw [show (Statement.atRule name prelude none span).render layout depth =
    renderAtHead name prelude ++ [';'] from rfl]
  simp [headText, renderAtHead, keptText, stopText]

theorem Statement.render_atRule_declarations {block : Block} :
    (Statement.atRule name prelude (some (.declarations block)) span).render layout depth ++ rest =
      headText name prelude true '\x7b' ++ (itemsText layout (depth + 1) block.items ++
        (layout.separator depth ++ '\x7d' :: rest)) := by
  rw [show (Statement.atRule name prelude (some (.declarations block)) span).render layout depth =
    renderAtHead name prelude ++ block.render layout depth from rfl, List.append_assoc,
    Cursor.render_block]
  simp [headText, renderAtHead, keptText, stopText]

theorem Statement.render_atRule_raw :
    (Statement.atRule name prelude (some (.raw text)) span).render layout depth ++ rest =
      headText name prelude true '\x7b' ++ ' ' :: (text ++ ' ' :: '\x7d' :: rest) := by
  rw [show (Statement.atRule name prelude (some (.raw text)) span).render layout depth =
    renderAtHead name prelude ++ " \x7b ".toList ++ text ++ " \x7d".toList from rfl]
  simp [headText, renderAtHead, keptText, stopText]

end Written

section Kept

variable {stop : Char} {kind : Kind}

theorem lexemes_stopText (gap : Bool) (single : singles.lookup stop = some kind) :
    lexemes (stopText gap stop ++ rest) = gapLexemes gap ++ ⟨kind, [stop]⟩ :: lexemes rest := by
  have notBlank : stop ∉ blanks := by
    have all : ∀ single ∈ singles, single.1 ∉ blanks := by decide
    exact all _ (mem_singles single)
  cases gap with
  | false => exact lexemes_single single
  | true =>
      rw [stopText, if_pos rfl, List.cons_append, List.singleton_append,
        lexemes_space (by rintro _ ⟨⟩; exact notBlank), lexemes_single single]
      rfl

theorem isSolid_of_blanks (blank : ∀ c ∈ text, c ∈ blanks) :
    Lexeme.IsSolid ⟨.whitespace, text⟩ :=
  ⟨fun _ c listed => isBlank_of_mem_blanks (blank c listed), absurd rfl, absurd rfl⟩

theorem lexemes_keeps_stopText {fence : Fence} (keeps : fence.Keeps text) (gap : Bool)
    (single : singles.lookup stop = some kind) (delimits : Delimits stop) :
    lexemes (text ++ (stopText gap stop ++ rest)) =
      lexemes text ++ (gapLexemes gap ++ ⟨kind, [stop]⟩ :: lexemes rest) := by
  rw [← lexemes_stopText gap single]
  cases gap with
  | false => exact keeps.lexemes_append delimits
  | true => exact keeps.lexemes_append ⟨by decide, by decide⟩

theorem exists_head_of_keepsBehind {fence : Fence} (kept : KeepsBehind fence text)
    (notEmpty : text ≠ []) : ∃ l ls, lexemes text = l :: ls ∧ l.isTrivia = false := by
  cases cut : lexemes text with
  | nil =>
      rw [← textOf_lexemes text, cut] at notEmpty
      exact absurd rfl notEmpty
  | cons l ls => exact ⟨l, ls, rfl, kept.solid l (by simp [cut])⟩

/-- A kept text is read up to its stop, whether it is empty or not. -/
theorem Cursor.rereads_kept {stops : List Kind} {noBlank : Kind.whitespace ∉ stops} {c : Cursor}
    (kept : KeepsBehind (Fence.outsideParens stops noBlank) text) (gap : Bool)
    (single : singles.lookup stop = some kind) (delimits : Delimits stop) (ends : kind ∈ stops)
    (ahead : c.lexemes = Token.lexemes (keptText text ++ (stopText gap stop ++ rest))) :
    (c.skipTrivia.readRaw stops).1 = text ∧
      c.GoesTo (c.skipTrivia.readRaw stops).2 (⟨kind, [stop]⟩ :: Token.lexemes rest) ∧
        ∃ l ∈ c.skipTrivia.lexemes.head?, l ∈ (Token.lexemes text).head? ∨ l = ⟨kind, [stop]⟩ := by
  have solid : kind.isTrivia = false := solid_of_single single
  by_cases nothing : text = []
  · subst nothing
    rw [show keptText [] = [] from rfl, List.nil_append, lexemes_stopText gap single] at ahead
    have atStop : c.skipTrivia.lexemes = ⟨kind, [stop]⟩ :: Token.lexemes rest := by
      rw [lexemes_skipTrivia, ahead]
      cases gap with
      | false => exact List.dropWhile_cons_of_neg (by simp [Lexeme.isTrivia, solid])
      | true =>
          rw [gapLexemes, if_pos rfl, List.singleton_append, List.dropWhile_cons_of_pos rfl]
          exact List.dropWhile_cons_of_neg (by simp [Lexeme.isTrivia, solid])
    have around : c.skipTrivia.lexemes =
        [] ++ (Token.lexemes [] ++ ([] ++ ⟨kind, [stop]⟩ :: Token.lexemes rest)) := by
      simpa using atStop
    obtain ⟨raw, behind, quiet⟩ :=
      readRaw_of_bounds noBlank kept.keeps.bounds [] [] around (by simp) ends
    exact ⟨raw, ⟨behind, quiet⟩, ⟨kind, [stop]⟩, by simp [atStop], .inr rfl⟩
  · have cut : Token.lexemes (text ++ (stopText gap stop ++ rest)) = _ :=
      lexemes_keeps_stopText kept.keeps gap single delimits
    obtain ⟨l, ls, first, notTrivia⟩ := exists_head_of_keepsBehind kept nothing
    have starts : StartsSolid (text ++ (stopText gap stop ++ rest)) :=
      ⟨l, _, by rw [cut, first]; rfl, notTrivia⟩
    rw [keptText, if_neg (by simpa using nothing), List.cons_append, starts.space] at ahead
    have atText : c.skipTrivia.lexemes =
        Token.lexemes text ++ (gapLexemes gap ++ ⟨kind, [stop]⟩ :: Token.lexemes rest) := by
      rw [lexemes_skipTrivia_of_trivia ahead rfl, starts.dropWhile, cut]
    have blank : ∀ l ∈ gapLexemes gap, l.isBlank = true ∧ l.IsSolid := by
      cases gap with
      | false => simp [gapLexemes]
      | true =>
          intro l listed
          obtain rfl := List.mem_singleton.mp listed
          exact ⟨rfl, isSolid_of_blanks (by decide)⟩
    obtain ⟨raw, behind, quiet⟩ := readRaw_of_bounds noBlank kept.keeps.bounds [] (gapLexemes gap)
      atText blank ends
    exact ⟨raw, ⟨behind, quiet⟩, l, by simp [atText, first], .inl (by simp [first])⟩

/-- A kept block is cut as it is, between the blanks that it is written with. -/
theorem exists_lexemes_keptBlock (keeps : Fence.ofBlock.Keeps text) (rest : Text) :
    ∃ before behind, (∀ l ∈ before ++ behind, l.isBlank = true ∧ l.IsSolid) ∧
      lexemes (' ' :: (text ++ ' ' :: '\x7d' :: rest)) =
        before ++ (lexemes text ++ (behind ++ ⟨.closeBrace, ['\x7d']⟩ :: lexemes rest)) := by
  have space (c : Text) (blank : ∀ d ∈ c, d ∈ blanks) :
      (⟨.whitespace, c⟩ : Lexeme).isBlank = true ∧ (⟨.whitespace, c⟩ : Lexeme).IsSolid :=
    ⟨rfl, isSolid_of_blanks blank⟩
  by_cases nothing : text = []
  · subst nothing
    have cut : lexemes ([' ', ' '] ++ '\x7d' :: rest) =
        ⟨.whitespace, [' ', ' ']⟩ :: lexemes ('\x7d' :: rest) :=
      lexemes_blank (by simp) (by decide) (by rintro _ ⟨⟩; decide)
    have closes : lexemes ('\x7d' :: rest) = ⟨.closeBrace, ['\x7d']⟩ :: lexemes rest :=
      lexemes_single (by rfl)
    rw [closes] at cut
    refine ⟨[⟨.whitespace, [' ', ' ']⟩], [], ?_, by rw [lexemes_nil]; exact cut⟩
    intro l listed
    obtain rfl : l = ⟨.whitespace, [' ', ' ']⟩ := by simpa using listed
    exact space _ (by decide)
  · have beyond : ∀ c ∈ (text ++ ' ' :: '\x7d' :: rest).head?, c ∉ blanks := by
      cases cut : lexemes text with
      | nil =>
          rw [← textOf_lexemes text, cut] at nothing
          exact absurd rfl nothing
      | cons l ls =>
          have listed : l ∈ lexemes text := by simp [cut]
          have notBlank := keeps.stripped.first l (by simp [cut])
          rw [← textOf_lexemes text, cut, textOf_cons, List.append_assoc]
          exact not_mem_blanks_of_spells (keeps.plain.spells listed)
            (by simpa [Lexeme.isBlank] using notBlank) _
    refine ⟨[⟨.whitespace, [' ']⟩], [⟨.whitespace, [' ']⟩], ?_, ?_⟩
    · intro l listed
      obtain rfl : l = ⟨.whitespace, [' ']⟩ := by simpa using listed
      exact space _ (by decide)
    · rw [lexemes_space beyond, keeps.lexemes_append ⟨by decide, by decide⟩,
        lexemes_space (by rintro _ ⟨⟩; decide), lexemes_single (by rfl)]
      rfl

theorem Cursor.rereads_readBlock {c : Cursor} {opening : Lexeme} (keeps : Fence.ofBlock.Keeps text)
    (ahead : c.lexemes = opening :: Token.lexemes (' ' :: (text ++ ' ' :: '\x7d' :: rest))) :
    c.readBlock.1 = text ∧ c.readBlock.2.lexemes = Token.lexemes rest ∧
      c.readBlock.2.errors = c.errors := by
  obtain ⟨before, behind, blank, cut⟩ := exists_lexemes_keptBlock keeps rest
  rw [cut] at ahead
  exact readBlock_of_bounds keeps.bounds before behind ahead blank

end Kept

/-- What the parser makes of a written statement. -/
def Cursor.RereadsStatement (c : Cursor) (statement : Statement) (rest : Text) : Prop :=
  (∃ found, c.parseStatement.1 = some found ∧ found.bare = statement.bare) ∧
    c.GoesTo c.parseStatement.2 (Token.lexemes rest)

namespace Cursor

variable {c : Cursor} {span : Span} {layout : Layout} {depth : Nat}

section Simple

theorem rereads_comment (isComment : Kind.comment.Spells ("/*".toList ++ text ++ "*/".toList))
    (ahead : c.lexemes =
      Token.lexemes ((Statement.comment text span).render layout depth ++ rest)) :
    c.RereadsStatement (.comment text span) rest := by
  rw [Statement.render_comment, lexemes_comment isComment] at ahead
  have written : "/*".toList ++ text ++ "*/".toList = '/' :: '*' :: ((text ++ ['*']) ++ ['/']) := by
    simp
  have inside : (c.current.text.drop 2).dropLast.dropLast = text := by
    rw [text_of_ahead ahead, written, List.drop_succ_cons, List.drop_succ_cons, List.drop_zero,
      List.dropLast_concat, List.dropLast_concat]
  rw [RereadsStatement, parseStatement, kind_of_ahead ahead]
  refine ⟨⟨_, rfl, ?_⟩, goesTo_advance ahead⟩
  rw [parseComment, Statement.bare, inside, Statement.bare]

theorem parseStatement_rule (kind : c.kind ∈ selectorKinds) : c.parseStatement = c.parseRule := by
  rw [parseStatement]
  split <;> simp_all [selectorKinds, simpleKinds]

theorem rereads_selectorList {list : SelectorList} (meets : list.Meets .standing (' ' :: '\x7b' :: rest))
    (ahead : c.lexemes = Token.lexemes (list.render ++ ' ' :: '\x7b' :: rest)) :
    (∃ found, (c.parseSelectorList .openBrace).1 = .ok found ∧ found.bare = list.bare) ∧
      c.GoesTo (c.parseSelectorList .openBrace).2 (⟨.openBrace, ['\x7b']⟩ :: Token.lexemes rest) := by
  have ends : EndsSelectors .openBrace (' ' :: '\x7b' :: rest) := .inl ⟨rfl, rest, rfl⟩
  have starts := startsSolid_renderSelectors meets.1 meets.2 ends.endsSelector.beyond
  have atList : c.skipTrivia.lexemes =
      Token.lexemes (renderSelectors true list.selectors ++ ' ' :: '\x7b' :: rest) := by
    rw [lexemes_skipTrivia, ahead, SelectorList.render, starts.dropWhile]
  obtain ⟨⟨found, parsed, same⟩, goes⟩ := rereads_selectors meets.1 meets.2 ends atList
  have read : c.skipTrivia.parseSelectors .openBrace =
      (.ok found, (c.skipTrivia.parseSelectors .openBrace).2) := Prod.ext parsed rfl
  rw [lexemes_space (by rintro _ ⟨⟩; decide), lexemes_single (by rfl)] at goes
  rw [parseSelectorList_eq, read]
  refine ⟨⟨_, rfl, ?_⟩, goes.ahead, goes.quiet⟩
  rw [SelectorList.bare, SelectorList.bare, same]

theorem rereads_rule {list : SelectorList} {block : Block} (isList : list.WellFormed)
    (isBlock : block.WellFormed) (steady : ∀ item ∈ block.items, SteadyTerms item.terms)
    (ahead : c.lexemes = Token.lexemes (list.render ++ (block.render layout depth ++ rest))) :
    c.RereadsStatement (.rule list block span) rest := by
  rw [render_block] at ahead
  obtain ⟨⟨found, parsed, same⟩, goes⟩ := rereads_selectorList isList.standing ahead
  obtain ⟨sameBlock, goesOn⟩ := rereads_block isBlock steady goes.ahead
  have read : c.parseSelectorList .openBrace = (.ok found, (c.parseSelectorList .openBrace).2) :=
    Prod.ext parsed rfl
  obtain ⟨l, ls, cut, kind⟩ := opens_render_selectorList isList.standing
  rw [← kind_of_ahead (ahead.trans cut)] at kind
  rw [RereadsStatement, parseStatement_rule kind, parseRule, read]
  dsimp only
  rw [if_pos (kind_of_ahead goes.ahead)]
  refine ⟨⟨_, rfl, ?_⟩, goesOn.ahead, goesOn.quiet.trans goes.quiet⟩
  rw [Statement.bare, Statement.bare, same, sameBlock]

end Simple

section AtRules

variable {gap : Bool} {stop : Char} {kind : Kind} {prelude : Text}

/-- What stands ahead at the start of a written at-rule. -/
structure AtHead (c : Cursor) (name prelude : Text) (gap : Bool) (stop : Char) (rest : Text) : Prop where
  isKeyword : Kind.atKeyword.Spells ('@' :: name)
  kept : KeepsBehind .ofPrelude prelude
  ahead : c.lexemes = Token.lexemes (headText name prelude gap stop ++ rest)

theorem AtHead.behindName (head : c.AtHead name prelude gap stop rest) (notPart : isNamePart stop = false) :
    c.lexemes = ⟨.atKeyword, '@' :: name⟩ ::
      Token.lexemes (keptText prelude ++ (stopText gap stop ++ rest)) := by
  rw [head.ahead, lexemes_headText head.isKeyword notPart]

theorem AtHead.atName_eq (head : c.AtHead name prelude gap stop rest) (notPart : isNamePart stop = false) :
    c.atName = name := by
  rw [Cursor.atName, text_of_ahead (head.behindName notPart)]
  rfl

theorem AtHead.kind_eq (head : c.AtHead name prelude gap stop rest) (notPart : isNamePart stop = false) :
    c.kind = .atKeyword :=
  kind_of_ahead (head.behindName notPart)

/-- The signs that end the head of an at-rule. -/
def HeadStop (stop : Char) (kind : Kind) : Prop :=
  (stop, kind) ∈ [('\x7b', Kind.openBrace), (';', .semicolon)]

theorem HeadStop.facts (isStop : HeadStop stop kind) : singles.lookup stop = some kind ∧
    Delimits stop ∧ kind ∈ [.openBrace, .semicolon, .closeBrace] ∧ isNamePart stop = false ∧
      kind ≠ .colon := by
  have all : ∀ pair ∈ [('\x7b', Kind.openBrace), (';', .semicolon)],
      singles.lookup pair.1 = some pair.2 ∧ (isInner pair.1 = false ∧ pair.1 ≠ '*') ∧
        pair.2 ∈ [.openBrace, .semicolon, .closeBrace] ∧ isNamePart pair.1 = false ∧
          pair.2 ≠ .colon := by decide
  exact all _ isStop

theorem AtHead.prelude_eq (head : c.AtHead name prelude gap stop rest) (isStop : HeadStop stop kind) :
    c.prelude.1 = prelude ∧ c.GoesTo c.prelude.2 (⟨kind, [stop]⟩ :: Token.lexemes rest) ∧
      (DefinesNothing name prelude → ¬ c.AtDefinition) := by
  obtain ⟨single, delimits, ends, notPart, notColon⟩ := isStop.facts
  obtain ⟨raw, goes, l, first, known⟩ := rereads_kept (c := c.advance) head.kept gap single delimits ends
    (lexemes_advance (head.behindName notPart))
  refine ⟨raw, ⟨goes.ahead, goes.quiet⟩, fun nothing isDefinition => ?_⟩
  obtain ⟨notReserved, colon⟩ := isDefinition
  rw [head.atName_eq notPart] at notReserved
  obtain ⟨ls, atFirst⟩ := List.head?_eq_some_iff.mp first
  have isColon : l.kind = .colon :=
    (kind_of_ahead atFirst).symm.trans (colonFollows_iff.mp colon)
  rcases known with listed | rfl
  · exact nothing.resolve_left (by simp [notReserved]) l listed isColon
  · exact notColon isColon

/-- An at-rule that defines and imports nothing goes by what its head ends with. -/
theorem AtHead.parseStatement_eq (head : c.AtHead name prelude gap stop rest)
    (isStop : HeadStop stop kind) (definesNothing : DefinesNothing name prelude)
    (notImport : Text.lower name ≠ "import".toList) : c.parseStatement = c.parseAtRule ∧
      ¬ c.AtDefinition ∧ Text.lower c.atName ≠ "import".toList := by
  obtain ⟨_, _, _, notPart, _⟩ := isStop.facts
  refine ⟨?_, (head.prelude_eq isStop).2.2 definesNothing, ?_⟩
  · rw [Cursor.parseStatement, head.kind_eq notPart]
  · rwa [head.atName_eq notPart]

theorem rereads_atRule_none (head : c.AtHead name prelude false ';' rest)
    (definesNothing : DefinesNothing name prelude) (notImport : Text.lower name ≠ "import".toList) :
    c.RereadsStatement (.atRule name prelude none span) rest := by
  have isStop : HeadStop ';' .semicolon := by simp [HeadStop]
  obtain ⟨isRule, notDefinition, notImport⟩ := head.parseStatement_eq isStop definesNothing notImport
  obtain ⟨raw, goes, _⟩ := head.prelude_eq isStop
  rw [RereadsStatement, isRule, parseAtRule_eq notDefinition notImport, kind_of_ahead goes.ahead]
  refine ⟨⟨_, rfl, ?_⟩, lexemes_advance goes.ahead, goes.quiet⟩
  rw [raw, head.atName_eq (by decide)]
  rfl

theorem rereads_atRule_declarations {block : Block} (head : c.AtHead name prelude true '\x7b'
      (itemsText layout (depth + 1) block.items ++ (layout.separator depth ++ '\x7d' :: rest)))
    (definesNothing : DefinesNothing name prelude) (notImport : Text.lower name ≠ "import".toList)
    (notConditional : conditionalNames.contains (Text.lower name) = false)
    (holdsDeclarations : declarationNames.contains (Text.lower name) = true)
    (wellFormed : block.WellFormed) (steady : ∀ item ∈ block.items, SteadyTerms item.terms) :
    c.RereadsStatement (.atRule name prelude (some (.declarations block)) span) rest := by
  have isStop : HeadStop '\x7b' .openBrace := by simp [HeadStop]
  obtain ⟨isRule, notDefinition, notImport⟩ := head.parseStatement_eq isStop definesNothing notImport
  obtain ⟨raw, goes, _⟩ := head.prelude_eq isStop
  obtain ⟨same, goesOn⟩ := rereads_block wellFormed steady goes.ahead
  rw [RereadsStatement, isRule, parseAtRule_eq notDefinition notImport, kind_of_ahead goes.ahead]
  dsimp only
  rw [head.atName_eq (by decide), if_neg (by simpa using notConditional), if_pos holdsDeclarations]
  refine ⟨⟨_, rfl, ?_⟩, goesOn.ahead, goesOn.quiet.trans goes.quiet⟩
  rw [raw, Statement.bare, Statement.bare, same]

theorem rereads_atRule_raw
    (head : c.AtHead name prelude true '\x7b' (' ' :: (text ++ ' ' :: '\x7d' :: rest)))
    (definesNothing : DefinesNothing name prelude) (notImport : Text.lower name ≠ "import".toList)
    (notConditional : conditionalNames.contains (Text.lower name) = false)
    (notDeclarations : declarationNames.contains (Text.lower name) = false)
    (keeps : Fence.ofBlock.Keeps text) :
    c.RereadsStatement (.atRule name prelude (some (.raw text)) span) rest := by
  have isStop : HeadStop '\x7b' .openBrace := by simp [HeadStop]
  obtain ⟨isRule, notDefinition, notImport⟩ := head.parseStatement_eq isStop definesNothing notImport
  obtain ⟨raw, goes, _⟩ := head.prelude_eq isStop
  obtain ⟨same, ahead, quiet⟩ := rereads_readBlock keeps goes.ahead
  rw [RereadsStatement, isRule, parseAtRule_eq notDefinition notImport, kind_of_ahead goes.ahead]
  dsimp only
  rw [head.atName_eq (by decide), if_neg (by simpa using notConditional),
    if_neg (by simpa using notDeclarations)]
  refine ⟨⟨_, rfl, ?_⟩, ahead, quiet.trans goes.quiet⟩
  rw [raw, same]
  rfl

end AtRules

section Directives

theorem rereads_statementDefinition {d : Definition} (isDirective : d.form = .directive)
    (notReserved : isReserved (Text.lower d.name) = false) (names : d.form.Names d.name)
    (wellFormed : WellFormedTerms d.value.terms) (steady : SteadyTerms d.value.terms)
    (ahead : c.lexemes = Token.lexemes (d.render ++ rest)) :
    c.RereadsStatement (.definition d) rest := by
  rw [render_definition, entryText_append, lexemes_definitionHead names, ← entryText_append] at ahead
  obtain ⟨found, parsed, same, goes⟩ := rereads_definition wellFormed steady ahead
  obtain ⟨name, value, form, span⟩ := d
  subst isDirective
  have isName : c.atName = name := by
    rw [Cursor.atName, text_of_ahead ahead]
    rfl
  have atColon := lexemes_advance ahead
  rw [entryText_append, lexemes_single (by rfl)] at atColon
  have isDefinition : c.AtDefinition :=
    ⟨by rwa [isName], colonFollows_iff.mpr (kind_of_ahead (lexemes_skipTrivia_of_solid atColon rfl))⟩
  rw [RereadsStatement, parseStatement, kind_of_ahead ahead]
  dsimp only [DefinitionForm.kind]
  rw [parseAtRule_definition isDefinition, parsed]
  refine ⟨⟨_, rfl, ?_⟩, goes⟩
  rw [Statement.bare, Statement.bare, same]

theorem keepsBehind_nil {fence : Fence} : KeepsBehind fence [] := by
  refine ⟨⟨?_, ?_, ?_⟩, ?_⟩ <;> rw [lexemes_nil]
  · exact ⟨isCut_nil, nofun, fun within => absurd (List.infix_nil.mp within) (List.cons_ne_nil _ _)⟩
  · exact ⟨nofun, nofun⟩
  · exact .nil
  · nofun

theorem unquote_quoted (target : Text) : unquote ('"' :: (target ++ ['"'])) = target := by
  cases target with
  | nil => rfl
  | cons d target =>
      rw [List.cons_append, unquote, if_pos (by simp [List.getLast?_append, List.getLast?_cons]),
        ← List.cons_append, List.dropLast_concat]

theorem rereads_importing {target : Text} {media : Option Text}
    (wellFormed : ∀ text ∈ media, text ≠ [] ∧ KeepsBehind .ofMedia text)
    (isString : Kind.string.Spells ('"' :: (target ++ ['"'])))
    (ahead : c.lexemes =
      Token.lexemes ((Statement.importing target media span).render layout depth ++ rest)) :
    c.RereadsStatement (.importing target media span) rest := by
  have kept : KeepsBehind .ofMedia (media.getD []) := by
    cases media with
    | none => exact keepsBehind_nil
    | some text => exact (wellFormed text rfl).2
  have written : media.elim [] (' ' :: ·) = keptText (media.getD []) := by
    cases media with
    | none => rfl
    | some text => exact (if_neg (by simpa using (wellFormed text rfl).1)).symm
  have isEmpty : (if (media.getD []).isEmpty then none else some (media.getD [])) = media := by
    cases media with
    | none => rfl
    | some text => exact if_neg (by simpa using (wellFormed text rfl).1)
  rw [Statement.render_importing, written,
    lexemes_atKeyword (spells_of_accepts (by rfl)) (by rintro _ ⟨⟩; decide),
    lexemes_space (by rintro _ ⟨⟩; decide), lexemes_string isString] at ahead
  have atTarget := lexemes_skipTrivia_of_trivia (lexemes_advance ahead) rfl
  rw [List.dropWhile_cons_of_neg (by simp [Lexeme.isTrivia, Kind.isTrivia])] at atTarget
  obtain ⟨raw, goes, _⟩ := rereads_kept kept false
    (show singles.lookup ';' = some .semicolon from rfl) ⟨by decide, by decide⟩ (by decide) (lexemes_advance atTarget)
  have closes := goesTo_expect goes.ahead
  have isName : c.atName = "import".toList := by
    rw [Cursor.atName, text_of_ahead ahead]
    rfl
  rw [RereadsStatement, parseStatement, kind_of_ahead ahead]
  dsimp only
  rw [parseAtRule_import (by rw [isName]; decide), parseImport_string (kind_of_ahead atTarget),
    text_of_ahead atTarget, unquote_quoted, parseMedia, raw, isEmpty]
  exact ⟨⟨_, rfl, rfl⟩, closes.ahead, closes.quiet.trans goes.quiet⟩

theorem rereads_conditional {condition : Text} {statements : List Statement}
    {inside : Text} (head : c.AtHead name condition true '\x7b' inside)
    (conditional : conditionalNames.contains (Text.lower name) = true)
    (rereads : ∀ {c : Cursor}, c.lexemes = Token.lexemes inside →
      bareStatements (c.parseStatements true).1 = bareStatements statements ∧
        c.GoesTo (c.parseStatements true).2 (⟨.closeBrace, ['\x7d']⟩ :: Token.lexemes rest)) :
    c.RereadsStatement (.conditional name condition statements span) rest := by
  have isStop : HeadStop '\x7b' .openBrace := by simp [HeadStop]
  have known : isReserved (Text.lower name) = true ∧ Text.lower name ≠ "import".toList := by
    rw [isReserved, conditional]
    refine ⟨rfl, fun isImport => ?_⟩
    rw [isImport] at conditional
    exact absurd conditional (by decide)
  obtain ⟨isRule, notDefinition, notImport⟩ :=
    head.parseStatement_eq isStop (.inl known.1) known.2
  obtain ⟨raw, goes, _⟩ := head.prelude_eq isStop
  obtain ⟨same, goesOn⟩ := rereads (lexemes_advance goes.ahead)
  have closes := goesTo_expect goesOn.ahead
  have shorter : c.prelude.2.advance.rest.length < c.rest.length :=
    Nat.lt_of_lt_of_le (length_advance_lt goes.ahead) (reads_prelude notDefinition).suffix.length_le
  rw [RereadsStatement, isRule, parseAtRule_eq notDefinition notImport, kind_of_ahead goes.ahead]
  dsimp only
  rw [head.atName_eq (by decide), if_pos conditional, if_pos shorter]
  refine ⟨⟨_, rfl, ?_⟩, closes.ahead, (closes.quiet.trans goesOn.quiet).trans goes.quiet⟩
  rw [raw, Statement.bare, Statement.bare, same]

end Directives

end Cursor

theorem join_cons (separator text : Text) (texts : List Text) :
    Text.join separator (text :: texts) = text ++ texts.flatMap (separator ++ ·) := by
  induction texts generalizing text with
  | nil => simp [Text.join]
  | cons next texts inductionHypothesis =>
      rw [List.flatMap_cons, List.append_assoc, ← inductionHypothesis, Text.join,
        List.intercalate_cons_cons, ← List.append_assoc]
      rfl

section Statements

/-- The kinds of the tokens that a written statement starts with. -/
def statementKinds : List Kind :=
  [.comment, .atKeyword] ++ selectorKinds

theorem opens_render_statement (layout : Layout) (depth : Nat) (rest : Text) : ∀ {statement : Statement}, statement.WellFormed →
    ∃ l ls, lexemes (statement.render layout depth ++ rest) = l :: ls ∧ l.kind ∈ statementKinds
  | .rule selectors block span, wellFormed => by
      rw [Statement.render_rule, Cursor.render_block]
      obtain ⟨l, ls, cut, kind⟩ := opens_render_selectorList wellFormed.1.standing
      exact ⟨l, ls, cut, List.mem_append_right _ kind⟩
  | .definition d, wellFormed => by
      obtain ⟨isDirective, _, names, _⟩ := wellFormed
      rw [Statement.render_definition, render_definition, entryText_append,
        lexemes_definitionHead names, isDirective]
      exact ⟨_, _, rfl, by simp [statementKinds, DefinitionForm.kind]⟩
  | .importing target media span, _ => by
      rw [Statement.render_importing,
        lexemes_atKeyword (spells_of_accepts (by rfl)) (by rintro _ ⟨⟩; decide)]
      exact ⟨_, _, rfl, by simp [statementKinds]⟩
  | .conditional name condition statements span, wellFormed => by
      rw [Statement.render_conditional, lexemes_headText wellFormed.1 (by decide)]
      exact ⟨_, _, rfl, by simp [statementKinds]⟩
  | .atRule name prelude none span, wellFormed => by
      rw [Statement.render_atRule_none, lexemes_headText wellFormed.1 (by decide)]
      exact ⟨_, _, rfl, by simp [statementKinds]⟩
  | .atRule name prelude (some (.declarations block)) span, wellFormed => by
      rw [Statement.render_atRule_declarations, lexemes_headText wellFormed.1 (by decide)]
      exact ⟨_, _, rfl, by simp [statementKinds]⟩
  | .atRule name prelude (some (.raw text)) span, wellFormed => by
      rw [Statement.render_atRule_raw, lexemes_headText wellFormed.1 (by decide)]
      exact ⟨_, _, rfl, by simp [statementKinds]⟩
  | .comment text span, wellFormed => by
      rw [Statement.render_comment, lexemes_comment wellFormed]
      exact ⟨_, _, rfl, by simp [statementKinds]⟩

variable {layout : Layout} {depth : Nat}

theorem render_statement_ne_nil {statement : Statement} (wellFormed : statement.WellFormed) :
    statement.render layout depth ≠ [] := by
  intro nothing
  obtain ⟨l, ls, cut, _⟩ := opens_render_statement layout depth [] wellFormed
  rw [List.append_nil, nothing, lexemes_nil] at cut
  cases cut

theorem head_render_statement {statement : Statement} (wellFormed : statement.WellFormed) :
    ∀ c ∈ (statement.render layout depth ++ rest).head?, c ∉ blanks := by
  obtain ⟨l, ls, cut, kind⟩ := opens_render_statement layout depth rest wellFormed
  have notBlank : l.kind ≠ .whitespace := by
    revert kind
    cases l.kind <;> decide
  have spells : l.kind.Spells l.text :=
    (isCut_lexemes _).spells (cut ▸ List.mem_cons_self : l ∈ lexemes _)
  rw [← textOf_lexemes (statement.render layout depth ++ rest), cut, textOf_cons]
  exact not_mem_blanks_of_spells spells notBlank _

namespace Cursor

variable {c : Cursor}

/-- The parser passes over the separator between two statements. -/
theorem parseStatements_separator {blank : Text} {ls : List Lexeme} (nested : Bool)
    (ahead : c.lexemes = ⟨.whitespace, blank⟩ :: ls) :
    c.parseStatements nested = c.advance.parseStatements nested := by
  have isBlank := kind_of_ahead ahead
  have stepped : c.parseStatement = (none, c.advance) := by
    rw [parseStatement, isBlank]
  have shorter : c.parseStatement.2.rest.length < c.rest.length := by
    rw [stepped]
    exact length_advance_lt ahead
  rw [parseStatements_more (by simp [isBlank]) (by simp [isBlank]) shorter, stepped]
  rfl

theorem bareStatements_toList {statement? : Option Statement} {statement : Statement}
    (found : ∃ found, statement? = some found ∧ found.bare = statement.bare) :
    bareStatements statement?.toList = [statement.bare] := by
  obtain ⟨found, rfl, same⟩ := found
  rw [Option.toList_some, bareStatements, bareStatements, same]

/-- A written statement is one step through the statements around it. -/
theorem parseStatements_rereads {statement : Statement} {statements : List Statement} (nested : Bool)
    (wellFormed : statement.WellFormed)
    (ahead : c.lexemes = Token.lexemes (statement.render layout depth ++ rest))
    (rereads : c.RereadsStatement statement rest)
    (more : bareStatements (c.parseStatement.2.parseStatements nested).1 =
      bareStatements statements) :
    bareStatements (c.parseStatements nested).1 = bareStatements (statement :: statements) ∧
      (c.parseStatements nested).2 = (c.parseStatement.2.parseStatements nested).2 := by
  obtain ⟨l, ls, cut, kind⟩ := opens_render_statement layout depth rest wellFormed
  rw [← kind_of_ahead (ahead.trans cut)] at kind
  have inside : c.kind ≠ .endOfInput ∧ c.kind ≠ .closeBrace := by
    revert kind
    cases c.kind <;> decide
  have shorter := length_lt_of_goesTo ahead (render_statement_ne_nil wellFormed)
    c.reads_parseStatement.suffix rereads.2.ahead
  rw [parseStatements_more inside.1 (fun _ => inside.2) shorter, bareStatements_append,
    bareStatements_toList rereads.1, more]
  exact ⟨rfl, rfl⟩

mutual

theorem rereads_statement : ∀ {statement : Statement} {c : Cursor} {depth : Nat} {rest : Text},
    statement.WellFormed → statement.Steady →
    c.lexemes = Token.lexemes (statement.render layout depth ++ rest) →
    c.RereadsStatement statement rest
  | .rule _ _ _, _, _, _, wellFormed, steady, ahead => by
      rw [Statement.render_rule] at ahead
      exact rereads_rule wellFormed.1 wellFormed.2 steady.terms ahead
  | .definition _, _, _, _, wellFormed, steady, ahead =>
      rereads_statementDefinition wellFormed.1 wellFormed.2.1 wellFormed.2.2.1 wellFormed.2.2.2
        (steady.terms _ (List.mem_singleton_self _)) ahead
  | .importing _ _ _, _, _, _, wellFormed, steady, ahead =>
      rereads_importing wellFormed (steady.targets _ (List.mem_singleton_self _)) ahead
  | .conditional _ _ _ _, _, _, _, wellFormed, steady, ahead => by
      obtain ⟨isKeyword, conditional, kept, inside⟩ := wellFormed
      rw [Statement.render_conditional] at ahead
      exact rereads_conditional ⟨isKeyword, kept, ahead⟩ conditional
        fun ahead => rereads_statements inside ⟨steady.terms, steady.targets⟩ ahead
  | .atRule _ _ none _, _, _, _, wellFormed, _, ahead => by
      obtain ⟨isKeyword, notImport, kept, definesNothing, _⟩ := wellFormed
      rw [Statement.render_atRule_none] at ahead
      exact rereads_atRule_none ⟨isKeyword, kept, ahead⟩ definesNothing notImport
  | .atRule _ _ (some (.declarations _)) _, _, _, _, wellFormed, steady, ahead => by
      obtain ⟨isKeyword, notImport, kept, definesNothing, body⟩ := wellFormed
      obtain ⟨notConditional, holdsDeclarations, block⟩ := body _ rfl
      rw [Statement.render_atRule_declarations] at ahead
      exact rereads_atRule_declarations ⟨isKeyword, kept, ahead⟩ definesNothing notImport
        notConditional holdsDeclarations block steady.terms
  | .atRule _ _ (some (.raw _)) _, _, _, _, wellFormed, _, ahead => by
      obtain ⟨isKeyword, notImport, kept, definesNothing, body⟩ := wellFormed
      obtain ⟨notConditional, notDeclarations, keeps⟩ := body _ rfl
      rw [Statement.render_atRule_raw] at ahead
      exact rereads_atRule_raw ⟨isKeyword, kept, ahead⟩ definesNothing notImport notConditional
        notDeclarations keeps
  | .comment _ _, _, _, _, wellFormed, _, ahead => rereads_comment wellFormed ahead

/-- Nested statements are read one after the other, up to the brace that closes their block. -/
theorem rereads_statements : ∀ {statements : List Statement} {c : Cursor} {depth depthToo : Nat}
    {rest : Text}, WellFormedStatements statements → SteadyStatements statements →
    c.lexemes = Token.lexemes (renderStatements layout depth statements ++
      (layout.separator depthToo ++ '}' :: rest)) →
    bareStatements (c.parseStatements true).1 = bareStatements statements ∧
      c.GoesTo (c.parseStatements true).2 (⟨.closeBrace, ['}']⟩ :: Token.lexemes rest)
  | [], c, _, depthToo, rest, _, _, ahead => by
      rw [show renderStatements layout _ [] = [] from rfl, List.nil_append,
        lexemes_separator layout depthToo (by rintro _ ⟨⟩; decide), lexemes_single (by rfl)] at ahead
      have atBrace := lexemes_advance ahead
      rw [parseStatements_separator true ahead, parseStatements_close (kind_of_ahead atBrace)]
      exact ⟨rfl, atBrace, rfl⟩
  | statement :: statements, c, depth, depthToo, rest, wellFormed, steady, ahead => by
      obtain ⟨steady, steadyToo⟩ := steadyStatements_cons_iff.mp steady
      have split : renderStatements layout depth (statement :: statements) =
          layout.separator depth ++ statement.render layout depth ++
            renderStatements layout depth statements := rfl
      rw [split, List.append_assoc, List.append_assoc,
        lexemes_separator layout depth (head_render_statement wellFormed.1)] at ahead
      have atStatement := lexemes_advance ahead
      have first := rereads_statement wellFormed.1 steady atStatement
      obtain ⟨same, goesOn⟩ := rereads_statements wellFormed.2 steadyToo first.2.ahead
      obtain ⟨all, last⟩ := parseStatements_rereads true wellFormed.1 atStatement first same
      rw [parseStatements_separator true ahead, last]
      exact ⟨all, goesOn.ahead, goesOn.quiet.trans first.2.quiet⟩

end

theorem kind_of_nothing (ahead : c.lexemes = []) : c.kind = .endOfInput := by
  rw [kind, current, List.map_eq_nil_iff.mp ahead]
  rfl

/-- Where a rule is everything that is left, it is the only statement. -/
theorem parseStatements_onlyRule {next : Cursor} {list : SelectorList} (kind : c.kind ∈ selectorKinds)
    (selects : c.parseSelectorList .openBrace = (.ok list, next)) (opens : next.kind = .openBrace)
    (finished : next.parseBlock.2.rest = []) :
    (∃ span, (c.parseStatements false).1 = [.rule list next.parseBlock.1 span]) ∧
      (c.parseStatements false).2 = next.parseBlock.2 := by
  have step : c.parseStatement = (some (.rule list next.parseBlock.1
      ⟨c.current.span.start, next.parseBlock.2.lastEnd⟩), next.parseBlock.2) := by
    rw [parseStatement_rule kind, parseRule, selects]
    exact if_pos opens
  have inside : c.kind ≠ .endOfInput := by
    intro ends
    rw [ends] at kind
    revert kind
    decide
  have shorter : c.parseStatement.2.rest.length < c.rest.length := by
    rw [step, finished]
    apply List.length_pos_iff.mpr
    intro nothing
    apply inside
    simp [Cursor.kind, current, nothing]
  have ends : next.parseBlock.2.kind = .endOfInput := by simp [Cursor.kind, current, finished]
  rw [parseStatements_more inside Bool.noConfusion shorter, step, parseStatements_end ends]
  exact ⟨⟨_, rfl⟩, rfl⟩

/-- The statement of a rule that is everything there is has the entries that are written. -/
theorem rereads_onlyRule {next : Cursor} {list : SelectorList} {block : Block}
    (kind : c.kind ∈ selectorKinds) (selects : c.parseSelectorList .openBrace = (.ok list, next))
    (isBlock : block.WellFormed) (steady : ∀ item ∈ block.items, SteadyTerms item.terms)
    (ahead : next.lexemes = ⟨.openBrace, ['\x7b']⟩ ::
      Token.lexemes (itemsText layout 1 block.items ++ (layout.separator 0 ++ ['\x7d']))) :
    (∃ body span, (c.parseStatements false).1 = [.rule list body span] ∧
        body.items.map Item.bare? = (block.items.filterMap Item.bare?).map some) ∧
      (c.parseStatements false).2.errors = next.errors := by
  obtain ⟨entries, goes⟩ := rereads_entries isBlock steady ahead
  have finished : next.parseBlock.2.rest = [] := by
    have nothing := goes.ahead
    rw [lexemes_nil] at nothing
    exact List.map_eq_nil_iff.mp nothing
  obtain ⟨⟨span, only⟩, last⟩ :=
    parseStatements_onlyRule kind selects (kind_of_ahead ahead) finished
  rw [last]
  exact ⟨⟨_, span, only, entries⟩, goes.quiet⟩

/-- What may stand behind the last statement of a sheet. -/
def IsSheetEnd (ending : Text) : Prop :=
  ending = [] ∨ ending = ['\n']

theorem parseStatements_sheetEnd {ending : Text} (ends : IsSheetEnd ending)
    (ahead : c.lexemes = Token.lexemes ending) :
    (c.parseStatements false).1 = [] ∧ (c.parseStatements false).2.errors = c.errors := by
  rcases ends with rfl | rfl
  · rw [lexemes_nil] at ahead
    rw [parseStatements_end (kind_of_nothing ahead)]
    exact ⟨rfl, rfl⟩
  · have blank : Token.lexemes ['\n'] = [⟨.whitespace, ['\n']⟩] := by
      rw [show ['\n'] = Layout.lines.separator 0 ++ [] from rfl,
        lexemes_separator .lines 0 (by rintro _ ⟨⟩), lexemes_nil]
      rfl
    rw [blank] at ahead
    rw [parseStatements_separator false ahead,
      parseStatements_end (kind_of_nothing (lexemes_advance ahead))]
    exact ⟨rfl, rfl⟩

/-- The statements behind the first one, each on a new line. -/
theorem rereads_lines (layout : Layout) {ending : Text} (ends : IsSheetEnd ending) :
    ∀ {statements : List Statement} {c : Cursor},
    WellFormedStatements statements → SteadyStatements statements →
    c.lexemes = Token.lexemes
      ((statements.flatMap fun statement => '\n' :: statement.render layout 0) ++ ending) →
    bareStatements (c.parseStatements false).1 = bareStatements statements ∧
      (c.parseStatements false).2.errors = c.errors
  | [], c, _, _, ahead => by
      obtain ⟨nothing, quiet⟩ := parseStatements_sheetEnd ends ahead
      exact ⟨congrArg bareStatements nothing, quiet⟩
  | statement :: statements, c, wellFormed, steady, ahead => by
      obtain ⟨steady, steadyToo⟩ := steadyStatements_cons_iff.mp steady
      rw [List.flatMap_cons, List.append_assoc, List.cons_append, ← List.singleton_append,
        show ['\n'] = Layout.lines.separator 0 from rfl,
        lexemes_separator .lines 0 (head_render_statement wellFormed.1)] at ahead
      have atStatement := lexemes_advance ahead
      have first := rereads_statement wellFormed.1 steady atStatement
      obtain ⟨same, quiet⟩ := rereads_lines layout ends wellFormed.2 steadyToo first.2.ahead
      obtain ⟨all, last⟩ := parseStatements_rereads false wellFormed.1 atStatement first same
      rw [parseStatements_separator false ahead, last]
      exact ⟨all, quiet.trans first.2.quiet⟩

theorem rereads_sheet {statements : List Statement} {ending : Text} (ends : IsSheetEnd ending)
    (wellFormed : WellFormedStatements statements) (steady : SteadyStatements statements)
    (ahead : c.lexemes = Token.lexemes
      (Text.join ['\n'] (statements.map (Statement.render layout 0)) ++ ending)) :
    bareStatements (c.parseStatements false).1 = bareStatements statements ∧
      (c.parseStatements false).2.errors = c.errors := by
  cases statements with
  | nil => exact rereads_lines layout ends wellFormed steady ahead
  | cons statement statements =>
      rw [List.map_cons, join_cons, List.flatMap_map, List.append_assoc] at ahead
      obtain ⟨steady, steadyToo⟩ := steadyStatements_cons_iff.mp steady
      have first := rereads_statement wellFormed.1 steady ahead
      obtain ⟨same, quiet⟩ := rereads_lines layout ends wellFormed.2 steadyToo first.2.ahead
      obtain ⟨all, last⟩ := parseStatements_rereads false wellFormed.1 ahead first same
      rw [last]
      exact ⟨all, quiet.trans first.2.quiet⟩

end Cursor

/-- Well-formed and steady statements are read again from their lines. -/
theorem Stylesheet.parseAt_lines {statements : List Statement} {ending : Text}
    (ends : Cursor.IsSheetEnd ending) (wellFormed : WellFormedStatements statements)
    (steady : SteadyStatements statements) (file : File) (offset : Nat) (layout : Layout) :
    let text := Text.join ['\n'] (statements.map (Statement.render layout 0)) ++ ending
    (parseAt file offset text).errors = [] ∧
      bareStatements (parseAt file offset text).tree.statements = bareStatements statements := by
  intro text
  have ahead : (Cursor.start offset text (Token.ofText offset text)).lexemes = lexemes text :=
    lexemes_ofText offset _
  obtain ⟨same, quiet⟩ := Cursor.rereads_sheet ends wellFormed steady ahead
  exact ⟨quiet, same⟩

/-- A well-formed and steady tree is read again from its written form. -/
theorem Stylesheet.parseAt_render {sheet : Stylesheet} (wellFormed : WellFormedStatements sheet.statements)
    (steady : SteadyStatements sheet.statements) (file : File) (offset : Nat) (layout : Layout) :
    (parseAt file offset (sheet.render layout)).errors = [] ∧
      bareStatements (parseAt file offset (sheet.render layout)).tree.statements =
        bareStatements sheet.statements := by
  have lines := parseAt_lines (.inl rfl) wellFormed steady file offset layout
  rwa [List.append_nil] at lines

end Statements

end ComponentStyles
