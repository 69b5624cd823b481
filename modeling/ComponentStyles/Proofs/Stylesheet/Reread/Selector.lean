import ComponentStyles.Proofs.Stylesheet.Parser.Selector
import ComponentStyles.Proofs.Stylesheet.Reread.Value

/-!
# Reading written selectors

The parts of a selector are written so that they do not run into each other, and a blank stands
between them only where it is a combinator or surrounds one.
-/

namespace ComponentStyles

open Token

variable {rest name text : Text}

section Tokens

/-- A text that does not go on with a name. -/
def EndsName (rest : Text) : Prop :=
  ∀ c ∈ rest.head?, isNamePart c = false ∧ c ≠ '('

theorem lexemes_attribute (keeps : Fence.ofAttribute.KeepsBefore text (']' :: rest)) :
    lexemes ('[' :: (text ++ ']' :: rest)) =
      ⟨.openBracket, ['[']⟩ :: (lexemes text ++ ⟨.closeBracket, [']']⟩ :: lexemes rest) := by
  rw [lexemes_single (by rfl), keeps.cut, lexemes_single (by rfl)]

theorem lexemes_byClass (isName : Kind.identifier.Spells name) (beyond : EndsName rest) :
    lexemes ('.' :: (name ++ rest)) =
      ⟨.dot, ['.']⟩ :: ⟨.identifier, name⟩ :: lexemes rest := by
  rw [lexemes_dot isName, lexemes_name isName beyond]

/-- Whether a text may stand right behind a simple selector. -/
def SimpleSelector.EndsIn (simple : SimpleSelector) (rest : Text) : Prop :=
  simple.endsInName = true → EndsName rest

/-- The kinds of the tokens that a simple selector may start with. -/
def simpleKinds : List Kind :=
  [.star, .identifier, .hash, .dot, .openBracket, .colon]

variable {simple : SimpleSelector} {demands : Demands}

theorem opens_render_simple : ∀ {simple : SimpleSelector}, simple.Meets demands rest →
    simple.EndsIn rest → ∃ l ls, lexemes (simple.render ++ rest) = l :: ls ∧ l.kind ∈ simpleKinds
  | .universal _, _, _ => ⟨_, _, lexemes_single (by rfl), by simp [simpleKinds]⟩
  | .element _ _, isName, ends => ⟨_, _, lexemes_name isName (ends rfl), by simp [simpleKinds]⟩
  | .byClass _ _, isName, ends =>
      ⟨_, _, lexemes_byClass isName (ends rfl), by simp [simpleKinds]⟩
  | .byId _ _, isHash, ends =>
      ⟨_, _, lexemes_hash isHash fun c next => (ends rfl c next).1, by simp [simpleKinds]⟩
  | .attribute _ _, _, _ => ⟨_, _, lexemes_single (by rfl), by simp [simpleKinds]⟩
  | .pseudo form name argument span, _, _ => by
      obtain ⟨more, same⟩ : ∃ more,
          (SimpleSelector.pseudo form name argument span).render ++ rest = ':' :: more := by
        cases form <;> cases argument <;> exact ⟨_, by rw [SimpleSelector.render]; rfl⟩
      rw [same]
      exact ⟨_, _, lexemes_single (by rfl), by simp [simpleKinds]⟩

/-- The kinds of the tokens that a selector may start with. -/
def selectorKinds : List Kind :=
  [.greater, .plus, .tilde] ++ simpleKinds

theorem startsSolid_of_selectorKind {l : Lexeme} {ls : List Lexeme} (cut : lexemes text = l :: ls)
    (kind : l.kind ∈ selectorKinds) : StartsSolid text := by
  refine ⟨l, ls, cut, ?_⟩
  revert kind
  rw [Lexeme.isTrivia]
  cases l.kind <;> decide

theorem startsSolid_of_simpleKind {l : Lexeme} {ls : List Lexeme} (cut : lexemes text = l :: ls)
    (kind : l.kind ∈ simpleKinds) : StartsSolid text :=
  startsSolid_of_selectorKind cut (List.mem_append_right _ kind)

end Tokens

section Simple

/-- What the parser makes of a written simple selector. -/
def Cursor.RereadsSimple (c : Cursor) (simple : SimpleSelector) (rest : Text) : Prop :=
  (∃ found, c.parseSimple.1 = .ok found ∧ found.bare = simple.bare) ∧
    c.GoesTo c.parseSimple.2 (Token.lexemes rest)

/-- What the parser makes of the name of a pseudo selector and of its argument. -/
def Cursor.RereadsPseudo (c : Cursor) (form : PseudoForm) (name : Text) (argument : PseudoArgument)
    (rest : Text) : Prop :=
  ∀ start, (∃ found, (c.parsePseudo start form).1 = .ok found ∧
      found.bare = (SimpleSelector.pseudo form name argument .detached).bare) ∧
    c.GoesTo (c.parsePseudo start form).2 (Token.lexemes rest)

namespace Cursor

variable {c : Cursor} {span : Span} {form : PseudoForm} {argument : PseudoArgument}

theorem rereads_universal (ahead : c.lexemes = Token.lexemes ('*' :: rest)) :
    c.RereadsSimple (.universal span) rest := by
  rw [lexemes_single (by rfl)] at ahead
  obtain ⟨token, tail, whole, same, _⟩ := exists_token ahead
  rw [RereadsSimple, parseSimple_star whole (Lexeme.mk.inj same).1]
  exact ⟨⟨_, rfl, rfl⟩, goesTo_advance ahead⟩

theorem rereads_element (isName : Kind.identifier.Spells name) (beyond : EndsName rest)
    (ahead : c.lexemes = Token.lexemes (name ++ rest)) :
    c.RereadsSimple (.element name span) rest := by
  rw [lexemes_name isName beyond] at ahead
  obtain ⟨token, tail, whole, same, _⟩ := exists_token ahead
  obtain ⟨kind, rfl⟩ := Lexeme.mk.inj same
  rw [RereadsSimple, parseSimple_element whole kind]
  exact ⟨⟨_, rfl, rfl⟩, goesTo_advance ahead⟩

theorem rereads_byClass (isName : Kind.identifier.Spells name) (beyond : EndsName rest)
    (ahead : c.lexemes = Token.lexemes ('.' :: (name ++ rest))) :
    c.RereadsSimple (.byClass name span) rest := by
  rw [lexemes_byClass isName beyond] at ahead
  obtain ⟨token, tail, whole, same, _⟩ := exists_token ahead
  have behind := lexemes_advance ahead
  rw [RereadsSimple, parseSimple_byClass whole (Lexeme.mk.inj same).1 (kind_of_ahead behind),
    text_of_ahead behind]
  exact ⟨⟨_, rfl, rfl⟩, lexemes_advance behind, rfl⟩

theorem rereads_byId (isHash : Kind.hash.Spells ('#' :: name)) (beyond : EndsName rest)
    (ahead : c.lexemes = Token.lexemes ('#' :: (name ++ rest))) :
    c.RereadsSimple (.byId name span) rest := by
  rw [lexemes_hash isHash fun d next => (beyond d next).1] at ahead
  obtain ⟨token, tail, whole, same, _⟩ := exists_token ahead
  obtain ⟨kind, text⟩ := Lexeme.mk.inj same
  rw [RereadsSimple, parseSimple_byId whole kind, text]
  exact ⟨⟨_, rfl, rfl⟩, goesTo_advance ahead⟩

theorem rereads_attribute (keeps : Fence.ofAttribute.KeepsBefore text (']' :: rest))
    (ahead : c.lexemes = Token.lexemes ('[' :: (text ++ ']' :: rest))) :
    c.RereadsSimple (.attribute text span) rest := by
  rw [lexemes_attribute keeps] at ahead
  obtain ⟨token, tail, whole, same, _⟩ := exists_token ahead
  obtain ⟨raw, behind, quiet⟩ := readRaw_of_bounds _ keeps.bounds [] [] (lexemes_advance ahead)
    nofun (by decide)
  rw [RereadsSimple, parseSimple_attribute whole (Lexeme.mk.inj same).1 (kind_of_ahead behind), raw]
  exact ⟨⟨_, rfl, rfl⟩, lexemes_advance behind, quiet⟩

theorem rereads_absent (isName : Kind.identifier.Spells name) (beyond : EndsName rest)
    (ahead : c.lexemes = Token.lexemes (name ++ rest)) : c.RereadsPseudo form name .absent rest := by
  intro start
  rw [lexemes_name isName beyond] at ahead
  obtain ⟨token, tail, whole, same, _⟩ := exists_token ahead
  obtain ⟨kind, rfl⟩ := Lexeme.mk.inj same
  rw [parsePseudo_absent start form whole kind]
  exact ⟨⟨_, rfl, rfl⟩, goesTo_advance ahead⟩

theorem goesTo_closePseudo (start : Nat) (form : PseudoForm) (name : Text) (argument : PseudoArgument)
    (ahead : c.lexemes = Token.lexemes (')' :: rest)) :
    (∃ spanToo, (c.closePseudo start form name argument).1 =
        .ok (.pseudo form name argument spanToo)) ∧
      c.GoesTo (c.closePseudo start form name argument).2 (Token.lexemes rest) := by
  rw [lexemes_single (by rfl)] at ahead
  rw [closePseudo, if_pos (kind_of_ahead ahead)]
  exact ⟨⟨_, rfl⟩, goesTo_advance ahead⟩

theorem rereads_raw (isName : IsFunctionName name)
    (takesText : selectorListPseudos.contains (Text.lower name) = false)
    (keeps : Fence.ofArgument.KeepsBefore text (')' :: rest))
    (ahead : c.lexemes = Token.lexemes (name ++ '(' :: (text ++ ')' :: rest))) :
    c.RereadsPseudo form name (.raw text) rest := by
  intro start
  rw [lexemes_call isName, keeps.cut, lexemes_single (by rfl)] at ahead
  obtain ⟨token, tail, whole, same, _⟩ := exists_token ahead
  obtain ⟨kind, isFunction⟩ := Lexeme.mk.inj same
  have isName : token.text.dropLast = name := by rw [isFunction, List.dropLast_concat]
  obtain ⟨raw, behind, quiet⟩ := readRaw_of_bounds _ keeps.bounds [] [] (lexemes_advance ahead)
    nofun (by decide)
  rw [← lexemes_single (by rfl)] at behind
  obtain ⟨⟨spanToo, closed⟩, goes⟩ := goesTo_closePseudo start form name (.raw text) behind
  rw [parsePseudo_raw start form whole kind (by rwa [isName]), isName, raw, closed]
  exact ⟨⟨_, rfl, rfl⟩, goes.ahead, goes.quiet.trans quiet⟩

theorem rereads_pseudo (text : Text)
    (ahead : c.lexemes = Token.lexemes (form.render ++ (name ++ text)))
    (named : ∃ l ls, Token.lexemes (name ++ text) = l :: ls ∧ l.kind ≠ .colon)
    (rereads : ∀ {c : Cursor}, c.lexemes = Token.lexemes (name ++ text) →
      c.RereadsPseudo form name argument rest) :
    c.RereadsSimple (.pseudo form name argument span) rest := by
  obtain ⟨l, ls, cut, notColon⟩ := named
  have bare : (SimpleSelector.pseudo form name argument span).bare =
      (SimpleSelector.pseudo form name argument .detached).bare := by
    cases argument <;> rfl
  rw [RereadsSimple, bare]
  cases form with
  | ofClass =>
      rw [PseudoForm.render, List.singleton_append, lexemes_single (by rfl)] at ahead
      obtain ⟨token, tail, whole, same, _⟩ := exists_token ahead
      have behind := lexemes_advance ahead
      rw [parseSimple_ofClass whole (Lexeme.mk.inj same).1
        (by rwa [kind_of_ahead (behind.trans cut)])]
      obtain ⟨found, goes⟩ := rereads behind token.span.start
      exact ⟨found, goes.ahead, goes.quiet⟩
  | ofElement =>
      rw [PseudoForm.render, List.cons_append, List.singleton_append, lexemes_single (by rfl),
        lexemes_single (by rfl)] at ahead
      obtain ⟨token, tail, whole, same, _⟩ := exists_token ahead
      have behind := lexemes_advance ahead
      rw [parseSimple_ofElement whole (Lexeme.mk.inj same).1 (kind_of_ahead behind)]
      obtain ⟨found, goes⟩ := rereads (lexemes_advance behind) token.span.start
      exact ⟨found, goes.ahead, goes.quiet⟩

end Cursor

end Simple

section Parts

/-- What may stand right behind a selector that is read up to `close`. -/
structure EndsSelector (close : Kind) (rest : Text) : Prop where
  beyond : EndsName rest
  ends : ∃ l ls, (lexemes rest).dropWhile Lexeme.isTrivia = l :: ls ∧
    (l.kind = close ∨ l.kind = .comma) ∧ l.kind ∈ [.openBrace, .closeParen, .comma]

theorem endsSelector_brace : EndsSelector .openBrace (' ' :: '\x7b' :: rest) := by
  refine ⟨by rintro _ ⟨⟩; decide, ⟨.openBrace, ['\x7b']⟩, lexemes rest, ?_, by simp⟩
  rw [lexemes_space (by simp; decide), lexemes_single (by rfl)]
  rfl

theorem endsSelector_paren : EndsSelector .closeParen (')' :: rest) := by
  refine ⟨by rintro _ ⟨⟩; decide, ⟨.closeParen, [')']⟩, lexemes rest, ?_, by simp⟩
  rw [lexemes_single (by rfl)]
  rfl

theorem endsSelector_comma {close : Kind} : EndsSelector close (',' :: rest) := by
  refine ⟨by rintro _ ⟨⟩; decide, ⟨.comma, [',']⟩, lexemes rest, ?_, by simp⟩
  rw [lexemes_single (by rfl)]
  rfl

/-- The combinators that may be left over at the end of a selector. -/
def Combinator.Dangles (combinator : Combinator) : Prop :=
  combinator = .same ∨ combinator = .descendant

theorem Combinator.Dangles.behindBlank {combinator : Combinator} (dangles : combinator.Dangles)
    (started : Bool) : (Cursor.behindBlank started combinator).Dangles := by
  rw [Cursor.behindBlank]
  split
  · exact .inr rfl
  · exact dangles

/-- What the parser makes of the written parts of a selector. -/
def Cursor.RereadsParts (c : Cursor) (close : Kind) (combinator : Combinator) (started : Bool)
    (parts : List SelectorPart) (rest : Text) : Prop :=
  ∃ found dangling, (c.parseParts close combinator started).1 = .ok (found, dangling) ∧
    bareParts found = bareParts parts ∧ dangling.Dangles ∧
    c.GoesTo (c.parseParts close combinator started).2 ((Token.lexemes rest).dropWhile Lexeme.isTrivia)

namespace Cursor

variable {close : Kind}

theorem rereads_noParts (ends : EndsSelector close rest) (started : Bool) {c : Cursor}
    {combinator : Combinator} (dangles : combinator.Dangles)
    (ahead : c.lexemes.dropWhile Lexeme.isTrivia =
      (Token.lexemes rest).dropWhile Lexeme.isTrivia) :
    c.RereadsParts close combinator started [] rest := by
  obtain ⟨l, ls, cut, isEnd, kind⟩ := ends.ends
  have isPart : isPartKind l.kind = true := by
    revert kind
    cases l.kind <;> decide
  rw [RereadsParts, cut]
  rw [cut] at ahead
  generalize trivia : c.lexemes = row at ahead
  induction row generalizing c combinator with
  | nil => cases ahead
  | cons first row inductionHypothesis =>
      obtain ⟨token, tail, whole, rfl, _⟩ := exists_token trivia
      cases isTrivia : token.lexeme.isTrivia with
      | true =>
          rw [List.dropWhile_cons_of_pos isTrivia] at ahead
          rw [parseParts_trivia close combinator started whole isTrivia]
          obtain ⟨found, dangling, parsed, same, danglesToo, goes⟩ :=
            inductionHypothesis (c := c.advance) (dangles.behindBlank started)
              (lexemes_advance trivia) ahead
          exact ⟨found, dangling, parsed, same, danglesToo, goes.ahead, goes.quiet⟩
      | false =>
          rw [List.dropWhile_cons_of_neg (by simp [isTrivia])] at ahead
          obtain ⟨rfl, rfl⟩ := List.cons.inj ahead
          rw [parseParts_end close combinator started whole isPart isEnd]
          exact ⟨[], combinator, rfl, rfl, dangles, trivia, rfl⟩

/-- The sign of a combinator that has one. -/
structure IsSign (combinator : Combinator) (sign : Char) (kind : Kind) : Prop where
  spells : kind.Spells [sign]
  reads : combinatorOf? kind = some combinator
  writes : ∀ first, combinator.render first = (if first then [] else [' ']) ++ [sign, ' ']
  solid : sign ∉ blanks

theorem IsSign.kind_mem {combinator : Combinator} {sign : Char} {kind : Kind}
    (isSign : IsSign combinator sign kind) : kind ∈ [.greater, .plus, .tilde] := by
  have reads := isSign.reads
  revert reads
  cases kind <;> simp [combinatorOf?]

theorem IsSign.lexemes {combinator : Combinator} {sign : Char} {kind : Kind}
    (isSign : IsSign combinator sign kind) (starts : StartsSolid text) :
    Token.lexemes (sign :: ' ' :: text) =
      ⟨kind, [sign]⟩ :: ⟨.whitespace, [' ']⟩ :: Token.lexemes text := by
  have known := isSign.kind_mem
  rw [← starts.space]
  refine lexemes_tame isSign.spells ?_ ⟨by decide, by decide⟩ ?_
  · exact tame_of_kind (by revert known; cases kind <;> decide)
  · revert known
    cases kind <;> decide

theorem exists_sign {combinator : Combinator} (signed : ¬ combinator.Dangles) :
    ∃ sign kind, IsSign combinator sign kind := by
  cases combinator with
  | same => exact absurd (.inl rfl) signed
  | descendant => exact absurd (.inr rfl) signed
  | child =>
      exact ⟨'>', .greater, spells_of_accepts (by rfl), rfl,
        fun first => by cases first <;> rfl, by decide⟩
  | next =>
      exact ⟨'+', .plus, spells_of_accepts (by rfl), rfl,
        fun first => by cases first <;> rfl, by decide⟩
  | subsequent =>
      exact ⟨'~', .tilde, spells_of_accepts (by rfl), rfl,
        fun first => by cases first <;> rfl, by decide⟩

theorem parseParts_space (close : Kind) (combinator : Combinator) (started : Bool) {c : Cursor}
    {ls : List Lexeme} (ahead : c.lexemes = ⟨.whitespace, [' ']⟩ :: ls) :
    c.parseParts close combinator started =
      c.advance.parseParts close (behindBlank started combinator) started := by
  obtain ⟨token, tail, whole, same, _⟩ := exists_token ahead
  exact parseParts_trivia close combinator started whole (by rw [(Lexeme.mk.inj same).1]; rfl)

theorem goesTo_sign (close : Kind) {combinator : Combinator} (before : Combinator) (started : Bool)
    {sign : Char} {kind : Kind} (isSign : IsSign combinator sign kind) {c : Cursor}
    (starts : StartsSolid text) (ahead : c.lexemes = Token.lexemes (sign :: ' ' :: text)) :
    ∃ next, c.parseParts close before started = next.parseParts close combinator started ∧
      c.GoesTo next (Token.lexemes text) := by
  have known := isSign.kind_mem
  rw [isSign.lexemes starts] at ahead
  obtain ⟨token, tail, whole, same, _⟩ := exists_token ahead
  have behind := lexemes_advance ahead
  rw [parseParts_sign close before started whole ((Lexeme.mk.inj same).1 ▸ isSign.reads),
    parseParts_space close combinator started behind]
  refine ⟨c.advance.advance, ?_, lexemes_advance behind, rfl⟩
  rw [behindBlank, if_neg]
  have reads := isSign.reads
  revert reads known
  cases kind <;> cases combinator <;> simp [combinatorOf?]

/-- What the written form of a combinator leaves the parser with. -/
theorem goesTo_combinator (close : Kind) (combinator : Combinator) (first : Bool) {c : Cursor}
    (starts : StartsSolid text) (tied : first = true → combinator ≠ .descendant)
    (ahead : c.lexemes = Token.lexemes (combinator.render first ++ text)) :
    ∃ next, c.parseParts close .same (!first) = next.parseParts close combinator (!first) ∧
      c.GoesTo next (Token.lexemes text) := by
  by_cases dangles : combinator.Dangles
  · rcases dangles with rfl | rfl
    · exact ⟨c, rfl, ahead, rfl⟩
    · obtain rfl : first = false := Bool.eq_false_iff.mpr fun isFirst => tied isFirst rfl
      rw [Combinator.render, if_neg Bool.false_ne_true, List.singleton_append, starts.space] at ahead
      exact ⟨c.advance, parseParts_space close .same true ahead, goesTo_advance ahead⟩
  · obtain ⟨sign, kind, isSign⟩ := exists_sign dangles
    rw [isSign.writes] at ahead
    cases first with
    | true => exact goesTo_sign close .same false isSign starts ahead
    | false =>
        have cut : Token.lexemes (' ' :: sign :: ' ' :: text) =
            ⟨.whitespace, [' ']⟩ :: Token.lexemes (sign :: ' ' :: text) :=
          lexemes_space (by rintro _ ⟨⟩; exact isSign.solid)
        have blank := ahead.trans cut
        obtain ⟨next, same, goes⟩ :=
          goesTo_sign close .descendant true isSign starts (lexemes_advance blank)
        exact ⟨next, (parseParts_space close .same true blank).trans same, goes.ahead, goes.quiet⟩

end Cursor

variable {demands : Demands}

theorem endsName_renderParts (beyond : EndsName rest) : ∀ {parts : List SelectorPart},
    PartsMeet demands true parts rest → EndsName (renderParts false parts ++ rest)
  | [], _ => beyond
  | .mk combinator simple :: more, ⟨_, notElement, _⟩ => by
      have head : ∀ c ∈ [' ', '*', '.', '#', '[', ':'], isNamePart c = false ∧ c ≠ '(' := by decide
      obtain ⟨c, listed, tail, same⟩ : ∃ c ∈ [' ', '*', '.', '#', '[', ':'], ∃ tail,
          renderParts false (.mk combinator simple :: more) ++ rest = c :: tail := by
        by_cases isSame : combinator = .same
        · subst isSame
          have notElement := notElement rfl rfl
          match simple, notElement with
          | .universal _, _ => exact ⟨'*', by simp, _, rfl⟩
          | .byClass _ _, _ => exact ⟨'.', by simp, _, rfl⟩
          | .byId _ _, _ => exact ⟨'#', by simp, _, rfl⟩
          | .attribute _ _, _ => exact ⟨'[', by simp, _, rfl⟩
          | .pseudo form _ argument _, _ =>
              cases form <;> cases argument <;> exact ⟨':', by simp, _, rfl⟩
        · cases combinator with
          | same => exact absurd rfl isSame
          | _ => exact ⟨' ', by simp, _, rfl⟩
      rw [same]
      rintro _ ⟨⟩
      exact head c listed

theorem SimpleSelector.endsIn_renderParts {simple : SimpleSelector} {parts : List SelectorPart}
    (meets : PartsMeet demands simple.endsInName parts rest) (beyond : EndsName rest) :
    simple.EndsIn (renderParts false parts ++ rest) := by
  intro endsInName
  rw [endsInName] at meets
  exact endsName_renderParts beyond meets

theorem SimpleSelector.render_ne_nil : ∀ {simple : SimpleSelector}, simple.Meets demands rest →
    simple.render ≠ []
  | .universal _, _ => List.cons_ne_nil _ _
  | .element _ _, isName => isName.ne_nil
  | .byClass _ _, _ => List.cons_ne_nil _ _
  | .byId _ _, _ => List.cons_ne_nil _ _
  | .attribute _ _, _ => List.cons_ne_nil _ _
  | .pseudo form _ argument _, _ => by
      cases form <;> cases argument <;> exact List.cons_ne_nil _ _

namespace Cursor

variable {close : Kind} {c : Cursor}

/-- The parts of a selector are read one after the other. -/
theorem rereads_part {combinator : Combinator} {simple : SimpleSelector} {parts : List SelectorPart}
    {first : Bool} (isClose : close ∈ [.openBrace, .closeParen])
    (meets : simple.Meets demands (renderParts false parts ++ rest))
    (ends : simple.EndsIn (renderParts false parts ++ rest))
    (tied : first = true → combinator ≠ .descendant)
    (reads : ∀ {c : Cursor}, c.lexemes =
      Token.lexemes (simple.render ++ (renderParts false parts ++ rest)) →
        c.RereadsSimple simple (renderParts false parts ++ rest))
    (readsMore : ∀ {c : Cursor}, c.lexemes = Token.lexemes (renderParts false parts ++ rest) →
      c.RereadsParts close .same true parts rest)
    (ahead : c.lexemes =
      Token.lexemes (renderParts first (.mk combinator simple :: parts) ++ rest)) :
    c.RereadsParts close .same (!first) (.mk combinator simple :: parts) rest := by
  obtain ⟨l, ls, cut, kind⟩ := opens_render_simple meets ends
  rw [renderParts, List.append_assoc, List.append_assoc] at ahead
  obtain ⟨next, same, goes⟩ := goesTo_combinator close combinator first
    (startsSolid_of_simpleKind cut kind) tied ahead
  obtain ⟨⟨found, parsed, sameSimple⟩, goesOn⟩ := reads goes.ahead
  obtain ⟨more, dangling, parsedMore, sameMore, dangles, goesFurther⟩ := readsMore goesOn.ahead
  obtain ⟨token, tail, whole, rfl, _⟩ := exists_token (goes.ahead.trans cut)
  have inside : isPartKind token.kind = true ∧ ¬ (token.kind = close ∨ token.kind = .comma) := by
    simp only [lexeme_kind, simpleKinds, List.mem_cons, List.not_mem_nil, or_false] at kind isClose
    rcases isClose with rfl | rfl <;> rcases kind with kind | kind | kind | kind | kind | kind <;>
      rw [kind] <;> decide
  have shorter := length_lt_of_goesTo goes.ahead (SimpleSelector.render_ne_nil meets)
    (passes_parseSimple .blind next).suffix goesOn.ahead
  have simpleRead : next.parseSimple = (.ok found, next.parseSimple.2) := Prod.ext parsed rfl
  have partsRead : next.parseSimple.2.parseParts close .same true =
      (.ok (more, dangling), (next.parseSimple.2.parseParts close .same true).2) :=
    Prod.ext parsedMore rfl
  rw [RereadsParts, same, parseParts_part close combinator (!first) whole inside.1 inside.2,
    simpleRead]
  dsimp only
  rw [if_pos shorter, partsRead]
  refine ⟨.mk combinator found :: more, dangling, rfl, ?_, dangles, goesFurther.ahead, ?_⟩
  · rw [bareParts, bareParts, sameSimple, sameMore]
  · exact (goesFurther.quiet.trans goesOn.quiet).trans goes.quiet

/-- What follows a list of selectors that is read up to `close`. -/
def EndsSelectors (close : Kind) (rest : Text) : Prop :=
  (close = .openBrace ∧ ∃ more, rest = ' ' :: '\x7b' :: more) ∨
    close = .closeParen ∧ ∃ more, rest = ')' :: more

theorem EndsSelectors.isClose (ends : EndsSelectors close rest) :
    close ∈ [.openBrace, .closeParen] := by
  rcases ends with ⟨rfl, _⟩ | ⟨rfl, _⟩ <;> decide

theorem EndsSelectors.endsSelector (ends : EndsSelectors close rest) : EndsSelector close rest := by
  rcases ends with ⟨rfl, more, rfl⟩ | ⟨rfl, more, rfl⟩
  · exact endsSelector_brace
  · exact endsSelector_paren

theorem EndsSelectors.kind_ne_comma (ends : EndsSelectors close rest)
    (ahead : c.lexemes = (Token.lexemes rest).dropWhile Lexeme.isTrivia) : c.kind ≠ .comma := by
  rcases ends with ⟨rfl, more, rfl⟩ | ⟨rfl, more, rfl⟩
  · rw [lexemes_space (by simp; decide), lexemes_single (by rfl)] at ahead
    rw [kind_of_ahead ahead]
    decide
  · rw [lexemes_single (by rfl)] at ahead
    rw [kind_of_ahead ahead]
    decide

/-- What the parser makes of written selectors. -/
def RereadsSelectors (c : Cursor) (close : Kind) (list : List Selector) (rest : Text) : Prop :=
  (∃ found, (c.parseSelectors close).1 = .ok found ∧ bareSelectors found = bareSelectors list) ∧
    c.GoesTo (c.parseSelectors close).2 ((Token.lexemes rest).dropWhile Lexeme.isTrivia)

/-- A selector is made of its parts. -/
theorem rereads_selector {parts : List SelectorPart} (starts : StartsSelector parts)
    (reads : c.RereadsParts close .same false parts rest) :
    (∃ found, (c.parseSelector close).1 = .ok found ∧
        bareSelectors [found] = bareSelectors [.mk parts .detached]) ∧
      c.GoesTo (c.parseSelector close).2 ((Token.lexemes rest).dropWhile Lexeme.isTrivia) := by
  obtain ⟨found, dangling, parsed, same, dangles, goes⟩ := reads
  have read : c.parseParts close .same false =
      (.ok (found, dangling), (c.parseParts close .same false).2) := Prod.ext parsed rfl
  have notEmpty : found.isEmpty = false := by
    cases found with
    | nil =>
        cases parts with
        | nil => cases starts
        | cons part parts =>
            obtain ⟨combinator, simple⟩ := part
            cases same
    | cons part found => rfl
  rw [parseSelector, read]
  dsimp only
  rw [if_neg (by simp [notEmpty]), if_pos (by simpa [Combinator.Dangles] using dangles)]
  exact ⟨⟨_, rfl, by rw [bareSelectors, bareSelectors, same]; rfl⟩, goes⟩

theorem rereads_lastSelector {selector : Selector} (ends : EndsSelectors close rest)
    (read : ∃ found, (c.parseSelector close).1 = .ok found ∧
      bareSelectors [found] = bareSelectors [selector])
    (goes : c.GoesTo (c.parseSelector close).2 ((Token.lexemes rest).dropWhile Lexeme.isTrivia)) :
    c.RereadsSelectors close [selector] rest := by
  obtain ⟨found, parsed, same⟩ := read
  have read : c.parseSelector close = (.ok found, (c.parseSelector close).2) := Prod.ext parsed rfl
  rw [RereadsSelectors, parseSelectors, read]
  dsimp only
  rw [if_neg (ends.kind_ne_comma goes.ahead)]
  exact ⟨⟨_, rfl, same⟩, goes⟩

/-- A selector starts with a part of it or with the sign of a combinator. -/
theorem opens_renderParts {parts : List SelectorPart} (starts : StartsSelector parts)
    (meets : PartsMeet demands false parts rest) (beyond : EndsName rest) :
    ∃ l ls, Token.lexemes (renderParts true parts ++ rest) = l :: ls ∧ l.kind ∈ selectorKinds := by
  match parts, starts, meets with
  | .mk combinator simple :: parts, tied, ⟨meets, _, meetsToo⟩ =>
      obtain ⟨l, ls, cut, kind⟩ := opens_render_simple meets
        (SimpleSelector.endsIn_renderParts meetsToo beyond)
      rw [renderParts, List.append_assoc, List.append_assoc]
      by_cases dangles : combinator.Dangles
      · obtain rfl := dangles.resolve_right tied
        exact ⟨l, ls, cut, List.mem_append_right _ kind⟩
      · obtain ⟨sign, kindToo, isSign⟩ := exists_sign dangles
        rw [isSign.writes]
        exact ⟨_, _, isSign.lexemes (startsSolid_of_simpleKind cut kind),
          List.mem_append_left _ isSign.kind_mem⟩

theorem rereads_moreSelectors {selector : Selector} {list : List Selector}
    (starts : StartsSolid (renderSelectors true list ++ rest))
    (read : ∃ found, (c.parseSelector close).1 = .ok found ∧
      bareSelectors [found] = bareSelectors [selector])
    (goes : c.GoesTo (c.parseSelector close).2
      (Token.lexemes (',' :: ' ' :: (renderSelectors true list ++ rest))))
    (reads : ∀ {c : Cursor}, c.lexemes = Token.lexemes (renderSelectors true list ++ rest) →
      c.RereadsSelectors close list rest) :
    c.RereadsSelectors close (selector :: list) rest := by
  obtain ⟨found, parsed, same⟩ := read
  have read : c.parseSelector close = (.ok found, (c.parseSelector close).2) := Prod.ext parsed rfl
  have atComma := goes.ahead
  rw [lexemes_single (by rfl), starts.space] at atComma
  have behind : (c.parseSelector close).2.advance.skipTrivia.lexemes =
      Token.lexemes (renderSelectors true list ++ rest) := by
    rw [lexemes_skipTrivia_of_trivia (lexemes_advance atComma) rfl, starts.dropWhile]
  have shorter : (c.parseSelector close).2.advance.skipTrivia.rest.length < c.rest.length := by
    obtain ⟨token, tail, whole, _⟩ := exists_token atComma
    have := (passes_parseSelector .blind close c).suffix.length_le
    have := (c.parseSelector close).2.advance.length_skipTrivia
    have := (c.parseSelector close).2.length_advance
    rw [whole, List.length_cons] at *
    omega
  obtain ⟨⟨more, parsedMore, sameMore⟩, goesOn⟩ := reads behind
  have readMore : (c.parseSelector close).2.advance.skipTrivia.parseSelectors close =
      (.ok more, ((c.parseSelector close).2.advance.skipTrivia.parseSelectors close).2) :=
    Prod.ext parsedMore rfl
  rw [RereadsSelectors, parseSelectors, read]
  dsimp only
  rw [if_pos (kind_of_ahead atComma), dif_pos shorter, readMore]
  refine ⟨⟨found :: more, rfl, ?_⟩, goesOn.ahead, goesOn.quiet.trans goes.quiet⟩
  obtain ⟨parts, span⟩ := selector
  obtain ⟨partsToo, spanToo⟩ := found
  rw [bareSelectors, bareSelectors, sameMore, (List.cons.inj same).1]

theorem parseSelectorList_eq (c : Cursor) (close : Kind) :
    c.parseSelectorList close =
      match c.skipTrivia.parseSelectors close with
      | (.error error, last) => (.error error, last)
      | (.ok selectors, last) =>
          (.ok ⟨selectors, ⟨c.skipTrivia.current.span.start, last.lastEnd⟩⟩, last) :=
  (parseSelectorList.eq_def close c).trans rfl

theorem rereads_selectorArgument {form : PseudoForm} {list : List Selector} {listSpan : Span}
    (isName : IsFunctionName name)
    (takesList : selectorListPseudos.contains (Text.lower name) = true)
    (starts : StartsSolid (renderSelectors true list ++ ')' :: rest))
    (reads : ∀ {c : Cursor}, c.lexemes = Token.lexemes (renderSelectors true list ++ ')' :: rest) →
      c.RereadsSelectors .closeParen list (')' :: rest))
    (ahead : c.lexemes =
      Token.lexemes (name ++ '(' :: (renderSelectors true list ++ ')' :: rest))) :
    c.RereadsPseudo form name (.selectors list listSpan) rest := by
  intro start
  rw [lexemes_call isName] at ahead
  obtain ⟨token, tail, whole, same, _⟩ := exists_token ahead
  obtain ⟨kind, isFunction⟩ := Lexeme.mk.inj same
  have isName : token.text.dropLast = name := by rw [isFunction, List.dropLast_concat]
  have inside : c.advance.skipTrivia.lexemes =
      Token.lexemes (renderSelectors true list ++ ')' :: rest) := by
    rw [lexemes_skipTrivia, lexemes_advance ahead, starts.dropWhile]
  obtain ⟨⟨found, parsed, sameList⟩, goes⟩ := reads inside
  have read : c.advance.skipTrivia.parseSelectors .closeParen =
      (.ok found, (c.advance.skipTrivia.parseSelectors .closeParen).2) := Prod.ext parsed rfl
  have closes : (c.advance.skipTrivia.parseSelectors .closeParen).2.skipTrivia.lexemes =
      Token.lexemes (')' :: rest) := by
    rw [lexemes_skipTrivia, goes.ahead, lexemes_single (by rfl)]
    rfl
  obtain ⟨⟨spanToo, closed⟩, goesOn⟩ := goesTo_closePseudo start form name
    (.selectors found ⟨c.advance.skipTrivia.current.span.start,
      (c.advance.skipTrivia.parseSelectors .closeParen).2.lastEnd⟩) closes
  rw [parsePseudo_selectors start form whole kind (by rwa [isName]), isName, parseSelectorList_eq,
    read]
  dsimp only
  rw [closed]
  refine ⟨⟨_, rfl, ?_⟩, goesOn.ahead, goesOn.quiet.trans goes.quiet⟩
  rw [SimpleSelector.bare, SimpleSelector.bare, sameList]

end Cursor

theorem opens_renderSelectors {list : List Selector} (notEmpty : list ≠ [])
    (meets : SelectorsMeet demands list rest) (beyond : EndsName rest) :
    ∃ l ls, lexemes (renderSelectors true list ++ rest) = l :: ls ∧ l.kind ∈ selectorKinds := by
  match list, notEmpty, meets with
  | .mk parts span :: [], _, ⟨starts, meets, _⟩ =>
      rw [renderSelectors, renderSelectors, List.append_nil, if_pos rfl, List.nil_append]
      exact Cursor.opens_renderParts starts meets beyond
  | .mk parts span :: next :: more, _, ⟨starts, meets, _⟩ =>
      rw [renderSelectors, if_pos rfl, List.nil_append, List.append_assoc]
      refine Cursor.opens_renderParts starts meets ?_
      obtain ⟨partsToo, spanToo⟩ := next
      rintro _ ⟨⟩
      decide

/-- A comma and a blank stand in front of every selector but the first. -/
theorem renderSelectors_later {next : Selector} {more : List Selector} :
    renderSelectors false (next :: more) ++ rest =
      ',' :: ' ' :: (renderSelectors true (next :: more) ++ rest) := by
  obtain ⟨parts, span⟩ := next
  simp [renderSelectors]

theorem renderSelectors_cons_cons {parts : List SelectorPart} {span : Span} {next : Selector}
    {more : List Selector} :
    renderSelectors true (.mk parts span :: next :: more) ++ rest =
      renderParts true parts ++ ',' :: ' ' :: (renderSelectors true (next :: more) ++ rest) := by
  rw [← renderSelectors_later, renderSelectors, if_pos rfl, List.nil_append, List.append_assoc]

theorem startsSolid_renderSelectors {list : List Selector} (notEmpty : list ≠ [])
    (meets : SelectorsMeet demands list rest) (beyond : EndsName rest) :
    StartsSolid (renderSelectors true list ++ rest) := by
  obtain ⟨l, ls, cut, kind⟩ := opens_renderSelectors notEmpty meets beyond
  exact startsSolid_of_selectorKind cut kind

/-- The selectors of a rule in front of its block. -/
theorem opens_render_selectorList {list : SelectorList}
    (meets : list.Meets demands (' ' :: '\x7b' :: rest)) :
    ∃ l ls, lexemes (list.render ++ ' ' :: '\x7b' :: rest) = l :: ls ∧ l.kind ∈ selectorKinds :=
  opens_renderSelectors meets.1 meets.2 (by rintro _ ⟨⟩; decide)

mutual

theorem rereads_simple : ∀ {simple : SimpleSelector} {c : Cursor} {rest : Text},
    simple.Meets .standing rest → simple.EndsIn rest → c.lexemes = lexemes (simple.render ++ rest) →
      c.RereadsSimple simple rest
  | .universal _, _, _, _, _, ahead => Cursor.rereads_universal ahead
  | .element _ _, _, _, isName, ends, ahead => Cursor.rereads_element isName (ends rfl) ahead
  | .byClass _ _, _, _, isName, ends, ahead => Cursor.rereads_byClass isName (ends rfl) ahead
  | .byId _ _, _, _, isHash, ends, ahead => Cursor.rereads_byId isHash (ends rfl) ahead
  | .attribute _ _, _, _, keeps, _, ahead => by
      refine Cursor.rereads_attribute keeps (ahead.trans ?_)
      simp [SimpleSelector.render]
  | .pseudo form name .absent _, _, rest, isName, ends, ahead => by
      refine Cursor.rereads_pseudo rest (ahead.trans ?_)
        ⟨_, _, lexemes_name isName (ends rfl), by simp⟩
        fun ahead => Cursor.rereads_absent isName (ends rfl) ahead
      simp [SimpleSelector.render]
  | .pseudo form name (.raw text) _, _, rest, ⟨isName, takesText, keeps⟩, _, ahead => by
      refine Cursor.rereads_pseudo ('(' :: (text ++ ')' :: rest)) (ahead.trans ?_)
        ⟨_, _, lexemes_call isName, by simp⟩
        fun ahead => Cursor.rereads_raw isName takesText keeps ahead
      simp [SimpleSelector.render]
  | .pseudo form name (.selectors list _) _, _, rest, ⟨isName, takesList, notEmpty, meets⟩, _,
      ahead => by
      have starts : StartsSolid (renderSelectors true list ++ ')' :: rest) :=
        startsSolid_renderSelectors notEmpty meets endsSelector_paren.beyond
      refine Cursor.rereads_pseudo ('(' :: (renderSelectors true list ++ ')' :: rest))
        (ahead.trans ?_) ⟨_, _, lexemes_call isName, by simp⟩
        fun ahead => Cursor.rereads_selectorArgument isName takesList starts (fun ahead =>
          rereads_selectors notEmpty meets (.inr ⟨rfl, rest, rfl⟩) ahead) ahead
      simp [SimpleSelector.render]

theorem rereads_selectors : ∀ {list : List Selector} {close : Kind} {c : Cursor} {rest : Text},
    list ≠ [] → SelectorsMeet .standing list rest → Cursor.EndsSelectors close rest →
      c.lexemes = lexemes (renderSelectors true list ++ rest) →
        c.RereadsSelectors close list rest
  | [.mk parts span], close, c, rest, _, ⟨starts, meets, _⟩, ends, ahead => by
      rw [renderSelectors, renderSelectors, List.append_nil, if_pos rfl, List.nil_append] at ahead
      obtain ⟨read, goes⟩ := Cursor.rereads_selector starts
        (rereads_parts (fun _ => starts) meets ends.isClose ends.endsSelector ahead)
      exact Cursor.rereads_lastSelector ends read goes
  | .mk parts span :: next :: more, close, c, rest, _, ⟨starts, meets, meetsToo⟩, ends,
      ahead => by
      have notEmpty : next :: more ≠ [] := List.cons_ne_nil next more
      rw [renderSelectors_later] at meets
      rw [renderSelectors_cons_cons] at ahead
      obtain ⟨read, goes⟩ := Cursor.rereads_selector starts
        (rereads_parts (fun _ => starts) meets ends.isClose endsSelector_comma ahead)
      refine Cursor.rereads_moreSelectors
        (startsSolid_renderSelectors notEmpty meetsToo ends.endsSelector.beyond) read ?_
        fun ahead => rereads_selectors notEmpty meetsToo ends ahead
      rwa [lexemes_single (by rfl)] at goes ⊢

theorem rereads_parts : ∀ {parts : List SelectorPart} {first afterName : Bool} {close : Kind}
    {c : Cursor} {rest : Text}, (first = true → StartsSelector parts) →
      PartsMeet .standing afterName parts rest → close ∈ [.openBrace, .closeParen] →
        EndsSelector close rest → c.lexemes = lexemes (renderParts first parts ++ rest) →
          c.RereadsParts close .same (!first) parts rest
  | [], first, _, _, _, _, _, _, _, ends, ahead =>
      Cursor.rereads_noParts ends (!first) (.inl rfl) (congrArg _ ahead)
  | .mk combinator simple :: parts, first, _, close, c, rest, starts,
      ⟨meets, _, meetsToo⟩, isClose, ends, ahead => by
      have endsSimple := SimpleSelector.endsIn_renderParts meetsToo ends.beyond
      exact Cursor.rereads_part isClose meets endsSimple starts
        (fun ahead => rereads_simple meets endsSimple ahead)
        (fun ahead => @rereads_parts parts false _ _ _ _ nofun meetsToo isClose ends ahead) ahead

end

end Parts

end ComponentStyles
