import ComponentStyles.Proofs.Stylesheet.Bare
import ComponentStyles.Proofs.Stylesheet.Parser.Value
import ComponentStyles.Proofs.Token.Written
import ComponentStyles.Stylesheet.Printer

/-!
# Reading written values

What a value is written as is cut into the tokens of its terms, and the parser makes the same terms
of them again.
-/

namespace ComponentStyles

open Token

section Starts

/-- A text whose first token is no trivia. -/
def Token.StartsSolid (text : Text) : Prop :=
  ∃ l ls, lexemes text = l :: ls ∧ l.isTrivia = false

variable {text : Text}

theorem Token.StartsSolid.head (starts : StartsSolid text) : ∀ c ∈ text.head?, c ∉ blanks := by
  obtain ⟨l, ls, cut, solid⟩ := starts
  have spells : l.kind.Spells l.text :=
    (isCut_lexemes text).spells (cut ▸ List.mem_cons_self : l ∈ lexemes text)
  have notBlank : l.kind ≠ .whitespace := by
    intro blank
    rw [Lexeme.isTrivia, blank] at solid
    cases solid
  rw [← textOf_lexemes text, cut, textOf_cons]
  exact not_mem_blanks_of_spells spells notBlank _

theorem Token.StartsSolid.space (starts : StartsSolid text) :
    lexemes (' ' :: text) = ⟨.whitespace, [' ']⟩ :: lexemes text :=
  lexemes_space starts.head

theorem Token.StartsSolid.dropWhile (starts : StartsSolid text) :
    (lexemes text).dropWhile Lexeme.isTrivia = lexemes text := by
  obtain ⟨l, ls, cut, solid⟩ := starts
  rw [cut, List.dropWhile_cons_of_neg (by simp [solid])]

end Starts

namespace Cursor

/-- A step that reads up to some lexemes and reports nothing. -/
structure GoesTo (c next : Cursor) (ls : List Lexeme) : Prop where
  ahead : next.lexemes = ls
  quiet : next.errors = c.errors

variable {c next last : Cursor} {l : Lexeme} {ls others : List Lexeme}

theorem GoesTo.trans (first : c.GoesTo next ls) (second : next.GoesTo last others) :
    c.GoesTo last others :=
  ⟨second.ahead, second.quiet.trans first.quiet⟩

theorem goesTo_refl (ahead : c.lexemes = ls) : c.GoesTo c ls :=
  ⟨ahead, rfl⟩

theorem goesTo_advance (ahead : c.lexemes = l :: ls) : c.GoesTo c.advance ls :=
  ⟨lexemes_advance ahead, rfl⟩

theorem goesTo_expect {kind : Kind} {text : Text} (ahead : c.lexemes = ⟨kind, text⟩ :: ls) :
    c.GoesTo (c.expect kind) ls := by
  rw [show c.expect kind = c.advance from expect_of_ahead ahead]
  exact goesTo_advance ahead

/-- A step over a written piece goes on. -/
theorem length_lt_of_goesTo {front rest : Text} (ahead : c.lexemes = Token.lexemes (front ++ rest))
    (notEmpty : front ≠ []) (suffix : next.rest <:+ c.rest)
    (behind : next.lexemes = Token.lexemes rest) : next.rest.length < c.rest.length := by
  refine Nat.lt_of_le_of_ne suffix.length_le fun same => notEmpty ?_
  have stays : next.lexemes = c.lexemes :=
    congrArg (List.map Token.lexeme) (suffix.eq_of_length same)
  rw [ahead, behind] at stays
  have texts := congrArg textOf stays
  rw [textOf_lexemes, textOf_lexemes] at texts
  exact List.self_eq_append_left.mp texts

end Cursor

section Terms

variable {rest name text target : Text} {term : Term}

section Written

variable {span : Span}

@[simp] theorem Term.render_literal : (Term.literal text span).render = text := rfl

@[simp] theorem Term.render_usage : (Term.usage name none span).render =
    "var(".toList ++ name ++ [')'] := rfl

@[simp] theorem Term.render_usage_some {fallback : Term} :
    (Term.usage name (some fallback) span).render =
      "var(".toList ++ name ++ ", ".toList ++ fallback.render ++ [')'] := rfl

@[simp] theorem Term.render_url : (Term.url target span).render =
    "url(".toList ++ (if needsQuotes target then quoteTarget target else target) ++ [')'] := rfl

@[simp] theorem Term.render_call {arguments : List Term} {argumentsSpan : Span} :
    (Term.call name arguments argumentsSpan span).render =
      name ++ '(' :: renderTerms false arguments ++ [')'] := rfl

@[simp] theorem Term.render_operator {op : Operator} :
    (Term.operator op span).render = [op.char] := rfl

end Written

/-- What may stand right behind a term. -/
def FollowsTerm (rest : Text) : Prop :=
  ∃ d ∈ [' ', ',', '/', ')', ';'], rest.head? = some d

/-- What may stand right behind a value. -/
structure EndsValue (rest : Text) : Prop where
  follows : FollowsTerm rest
  ends : ∃ l ls, (lexemes rest).dropWhile Lexeme.isTrivia = l :: ls ∧
    l.kind ∈ [.semicolon, .bang, .closeParen]

theorem endsValue_paren : EndsValue (')' :: rest) :=
  ⟨⟨')', by simp, rfl⟩, ⟨.closeParen, [')']⟩, lexemes rest,
    by rw [lexemes_single (by rfl)]; rfl, by decide⟩

theorem endsValue_semicolon : EndsValue (';' :: rest) :=
  ⟨⟨';', by simp, rfl⟩, ⟨.semicolon, [';']⟩, lexemes rest,
    by rw [lexemes_single (by rfl)]; rfl, by decide⟩

theorem endsValue_mark : EndsValue (' ' :: '!' :: rest) := by
  refine ⟨⟨' ', by simp, rfl⟩, ⟨.bang, ['!']⟩, lexemes rest, ?_, by decide⟩
  rw [lexemes_space (by simp; decide), lexemes_single (by rfl)]
  rfl

theorem FollowsTerm.beyond (follows : FollowsTerm rest) :
    ∀ c ∈ rest.head?, isNamePart c = false ∧ c ≠ '(' := by
  have all : ∀ d ∈ [' ', ',', '/', ')', ';'], isNamePart d = false ∧ d ≠ '(' := by decide
  obtain ⟨d, listed, isHead⟩ := follows
  intro c next
  rw [isHead] at next
  cases next
  exact all d listed

theorem lexemes_literal {kind : Kind} (isLiteral : kind.isLiteral = true) (spells : kind.Spells text)
    (tame : Lexeme.IsTame ⟨kind, text⟩) (follows : FollowsTerm rest) :
    lexemes (text ++ rest) = ⟨kind, text⟩ :: lexemes rest := by
  have all : ∀ d ∈ [' ', ',', '/', ')', ';'], isInner d = false ∧ d ≠ '*' := by decide
  obtain ⟨d, listed, isHead⟩ := follows
  obtain ⟨more, rfl⟩ := List.head?_eq_some_iff.mp isHead
  refine lexemes_tame spells tame (all d listed) ?_
  rintro rfl
  cases isLiteral

theorem lexemes_usage (isName : IsVariableName name)
    (beyond : ∀ c ∈ rest.head?, isNamePart c = false ∧ c ≠ '(') :
    lexemes ("var(".toList ++ (name ++ rest)) =
      ⟨.function, "var(".toList⟩ :: ⟨.identifier, name⟩ :: lexemes rest := by
  have isVar : Kind.identifier.Spells "var".toList :=
    spells_of_accepts (by rfl)
  have opens : lexemes ("var(".toList ++ (name ++ rest)) =
      ⟨.function, "var(".toList⟩ :: lexemes (name ++ rest) := by
    have function : lexemes ("var".toList ++ '(' :: (name ++ rest)) = _ :=
      lexemes_function isVar (by decide)
    exact function
  rw [opens, lexemes_name isName.1 beyond]

theorem lexemes_call (isName : IsFunctionName name) :
    lexemes (name ++ '(' :: rest) = ⟨.function, name ++ ['(']⟩ :: lexemes rest :=
  lexemes_function isName.1 isName.2

section Urls

theorem quoteTarget_of_not_mem (plain : '"' ∉ target) :
    quoteTarget target = '"' :: (target ++ ['"']) := by
  have same : target.flatMap (fun c => if c = '"' then ['\\', '"'] else [c]) = target := by
    induction target with
    | nil => rfl
    | cons c target inductionHypothesis =>
        obtain ⟨other, later⟩ := not_or.mp (mt List.mem_cons.mpr plain)
        rw [List.flatMap_cons, if_neg (Ne.symm other), inductionHypothesis later]
        rfl
  rw [quoteTarget, same]
  rfl

/-- The target of a url as it is written, between quotes where that is needed. -/
def writtenTarget (target : Text) : Text :=
  if needsQuotes target then quoteTarget target else target

theorem not_needsQuotes (bare : needsQuotes target = false) {c : Char} (listed : c ∈ target) :
    Text.isBlank c = false ∧ c ∉ ['(', ')', '\'', '"'] := by
  rw [needsQuotes, List.any_eq_false] at bare
  have plain := bare c listed
  simp only [Bool.or_eq_true, not_or, Bool.not_eq_true, List.contains_iff_mem] at plain
  exact plain

theorem isUrlTarget_writtenTarget (plain : '"' ∉ target) : UrlTarget (writtenTarget target) := by
  rw [writtenTarget]
  split
  case isTrue =>
    rw [quoteTarget_of_not_mem plain]
    exact .quoted (by simp) plain
  case isFalse bare =>
    refine .bare fun c listed sign => ?_
    obtain ⟨notBlank, notSign⟩ := not_needsQuotes (Bool.eq_false_iff.mpr bare) listed
    simp only [String.reduceToList, List.mem_cons, List.not_mem_nil, or_false, not_or] at sign notSign
    rcases sign with rfl | rfl | rfl | rfl | rfl | rfl | rfl <;> simp_all [Text.isBlank]

theorem trim_of_ends {inside : Text} {c d : Char} (first : Text.isBlank c = false)
    (last : Text.isBlank d = false) : Text.trim (c :: (inside ++ [d])) = c :: (inside ++ [d]) := by
  rw [Text.trim, Text.trimStart, List.dropWhile_cons_of_neg (by simp [first]), Text.trimEnd]
  simp [last]

theorem unquote_writtenTarget (plain : '"' ∉ target) :
    unquote (Text.trim (writtenTarget target)) = target := by
  rw [writtenTarget]
  split
  case isTrue =>
    rw [quoteTarget_of_not_mem plain, trim_of_ends (by decide) (by decide)]
    cases target with
    | nil => rfl
    | cons c target =>
        rw [List.cons_append, unquote, if_pos (by simp [List.getLast?_append, List.getLast?_cons]),
          ← List.cons_append, List.dropLast_concat]
  case isFalse bare =>
    have plain {c : Char} (listed : c ∈ target) :=
      not_needsQuotes (Bool.eq_false_iff.mpr bare) listed
    have trimmed : Text.trim target = target := by
      have keep {text : Text} (solid : ∀ c ∈ text, Text.isBlank c = false) :
          text.dropWhile Text.isBlank = text := by
        cases text with
        | nil => rfl
        | cons c text => exact List.dropWhile_cons_of_neg (by simp [solid c List.mem_cons_self])
      rw [Text.trim, Text.trimStart, keep fun c listed => (plain listed).1, Text.trimEnd,
        keep fun c listed => (plain (List.mem_reverse.mp listed)).1, List.reverse_reverse]
    rw [trimmed]
    cases target with
    | nil => rfl
    | cons c target =>
        cases target with
        | nil => rfl
        | cons d rest =>
            have notSign := (plain (c := c) (by simp)).2
            simp only [List.mem_cons, List.not_mem_nil, or_false, not_or] at notSign
            rw [unquote, if_neg (by simp [notSign])]

theorem render_url_target {span : Span} :
    (Term.url target span).render = "url".toList ++ '(' :: (writtenTarget target ++ [')']) := by
  simp [writtenTarget]

theorem matches_render_url {span : Span} (plain : '"' ∉ target) :
    Kind.url.pattern.Matches (Term.url target span).render := by
  rw [render_url_target]
  exact matches_url_iff.mpr ⟨"url".toList, [], writtenTarget target, [], rfl, by decide, nofun,
    isUrlTarget_writtenTarget plain, nofun⟩

theorem urlTarget_render {span : Span} (plain : '"' ∉ target) :
    ComponentStyles.urlTarget (Term.url target span).render = target := by
  rw [ComponentStyles.urlTarget, render_url_target,
    show ("url".toList ++ '(' :: (writtenTarget target ++ [')'])).drop 4 =
      writtenTarget target ++ [')'] from rfl, List.dropLast_concat]
  exact unquote_writtenTarget plain

theorem CallsUrl.mem_quote (calls : CallsUrl target) : '"' ∈ target := by
  refine Decidable.byContradiction fun plain => ?_
  have isUrl : Kind.url.pattern.Matches ("url(".toList ++ (quoteTarget target ++ [')'])) := by
    rw [quoteTarget_of_not_mem plain]
    exact matches_url_iff.mpr ⟨"url".toList, [], _, [], rfl, by decide, nofun,
      .quoted (by simp) plain, nofun⟩
  have whole := lexemes_append (spells_url_iff.mpr isUrl)
  rw [List.append_nil, calls] at whole
  cases whole

theorem CallsUrl.render (calls : CallsUrl target) {span : Span} :
    (Term.url target span).render = "url(".toList ++ (quoteTarget target ++ [')']) := by
  have quotes : needsQuotes target = true :=
    List.any_eq_true.mpr ⟨'"', calls.mem_quote, by decide⟩
  rw [Term.render_url, if_pos quotes, List.append_assoc]

/-- Whatever follows, the target is a string in a call. -/
theorem CallsUrl.lexemes_render (calls : CallsUrl target) {span : Span} (rest : Text) :
    lexemes ((Term.url target span).render ++ rest) =
      ⟨.function, "url(".toList⟩ :: lexemes (quoteTarget target ++ ')' :: rest) ∧
        Kind.string.Spells (quoteTarget target) := by
  have isString : Kind.string.Spells (quoteTarget target) := by
    have cut := isCut_lexemes ("url(".toList ++ (quoteTarget target ++ [')']))
    rw [calls] at cut
    exact cut.spells (l := ⟨.string, quoteTarget target⟩) (by simp)
  refine ⟨?_, isString⟩
  rw [calls.render, lexemes_string isString, lexemes_single (by rfl), List.append_assoc,
    List.append_assoc]
  exact lexemes_url_string calls rest

theorem isLiteral_string (isString : Kind.string.Spells text) : IsLiteral text :=
  ⟨.string, rfl, isString, nofun, nofun⟩

end Urls

/-- Whether a text may stand right behind a term. -/
def Term.EndsIn (rest : Text) : Term → Prop
  | .operator .slash _ => rest.head? ≠ some '*'
  | _ => FollowsTerm rest

theorem FollowsTerm.endsIn (follows : FollowsTerm rest) : term.EndsIn rest := by
  cases term with
  | operator op span =>
      cases op with
      | comma => exact follows
      | slash =>
          obtain ⟨d, listed, isHead⟩ := follows
          rw [Term.EndsIn, isHead]
          rintro ⟨⟩
          revert listed
          decide
  | _ => exact follows

/-- A token that a term may start with. -/
def Token.Lexeme.OpensTerm (l : Lexeme) : Prop :=
  l.kind ∉ [.whitespace, .comment, .closeParen, .endOfInput]

/-- A token that ends a value, unless it stands in place of a fallback. -/
def Token.Lexeme.StopsValue (l : Lexeme) : Prop :=
  l.kind ∈ [.semicolon, .closeBrace, .bang]

theorem Token.Lexeme.OpensTerm.startsSolid {l : Lexeme} {ls : List Lexeme} (opens : l.OpensTerm)
    (cut : lexemes text = l :: ls) : StartsSolid text := by
  refine ⟨l, ls, cut, ?_⟩
  revert opens
  rw [Lexeme.OpensTerm, Lexeme.isTrivia]
  cases l.kind <;> decide

theorem tame_of_kind {kind : Kind} (plain : kind ∉ [.invalid, .function]) :
    Lexeme.IsTame ⟨kind, text⟩ := by
  refine ⟨fun isKind => ?_, fun isKind => ?_⟩ <;>
    · dsimp only at isKind
      simp [isKind] at plain

theorem opensTerm_literal {kind : Kind} (isLiteral : kind.isLiteral = true) :
    Lexeme.OpensTerm ⟨kind, text⟩ := by
  revert isLiteral
  change _ → kind ∉ _
  cases kind <;> decide

/-- Only a literal that ends a value is such a token. -/
theorem isEnd_of_stopsValue {kind : Kind} {span : Span} (spells : kind.Spells text)
    (stops : Lexeme.StopsValue ⟨kind, text⟩) : (Term.literal text span).IsEnd := by
  change kind ∈ [_, _, _] at stops
  change text ∈ [_, _, _]
  simp only [List.mem_cons, List.not_mem_nil, or_false] at stops
  rcases stops with rfl | rfl | rfl <;>
    · obtain ⟨c, sign, rfl⟩ := matches_oneOf_iff.mp (spells.matches (by decide))
      simp at sign
      simp [sign]

/-- A written term starts with a token that opens it, and that ends a value only if the term does. -/
theorem opens_render (wellFormed : term.WellFormed) (steady : term.Steady)
    (ends : term.EndsIn rest) :
    ∃ l ls, lexemes (term.render ++ rest) = l :: ls ∧ l.OpensTerm ∧ (l.StopsValue → term.IsEnd) := by
  have opens {kind : Kind} {text : Text}
      (listed : kind ∈ [Kind.function, .url, .openParen, .comma, .slash]) :
      Lexeme.OpensTerm ⟨kind, text⟩ ∧ (Lexeme.StopsValue ⟨kind, text⟩ → term.IsEnd) := by
    suffices all : kind ∉ [.whitespace, .comment, .closeParen, .endOfInput] ∧
        kind ∉ [.semicolon, .closeBrace, .bang] from
      ⟨all.1, fun stops => absurd stops all.2⟩
    revert listed
    cases kind <;> decide
  cases term with
  | literal text span =>
      obtain ⟨kind, isLiteral, spells, tame⟩ := wellFormed
      exact ⟨_, _, lexemes_literal isLiteral spells tame ends, opensTerm_literal isLiteral,
        isEnd_of_stopsValue spells⟩
  | usage name fallback span =>
      obtain ⟨more, same⟩ : ∃ more,
          (Term.usage name fallback span).render ++ rest = "var".toList ++ '(' :: more := by
        cases fallback with
        | none => exact ⟨name ++ ')' :: rest, by simp⟩
        | some fallback =>
            exact ⟨name ++ ',' :: ' ' :: (fallback.render ++ ')' :: rest), by simp⟩
      rw [same]
      exact ⟨_, _, lexemes_function (spells_of_accepts (by rfl)) (by decide), opens (by simp)⟩
  | url target span =>
      by_cases quote : '"' ∈ target
      · have calls : CallsUrl target := steady quote
        exact ⟨_, _, (calls.lexemes_render rest).1, opens (by simp)⟩
      · exact ⟨_, _, lexemes_url (matches_render_url quote), opens (by simp)⟩
  | call name arguments argumentsSpan span =>
      rw [Term.render_call, List.append_assoc]
      obtain ⟨rfl | isName, _⟩ := wellFormed
      · exact ⟨_, _, lexemes_single (by rfl), opens (by simp)⟩
      · rw [List.append_assoc]
        exact ⟨_, _, lexemes_call isName, opens (by simp)⟩
  | operator op span =>
      cases op with
      | comma => exact ⟨_, _, lexemes_single (by rfl), opens (by simp)⟩
      | slash => exact ⟨_, _, lexemes_slash ends, opens (by simp)⟩

theorem render_ne_nil (wellFormed : term.WellFormed) : term.render ≠ [] := by
  cases term with
  | literal text span =>
      obtain ⟨kind, _, spells, _⟩ := wellFormed
      exact spells.ne_nil
  | usage name fallback span => cases fallback <;> simp
  | url target span => simp
  | call name arguments argumentsSpan span => simp
  | operator op span => exact List.cons_ne_nil _ _

section Rows

variable {terms : List Term}

theorem follows_renderTerms (follows : FollowsTerm rest) :
    FollowsTerm (renderTerms true terms ++ rest) := by
  cases terms with
  | nil => exact follows
  | cons term terms =>
      cases term with
      | operator op span =>
          cases op with
          | comma => exact ⟨',', by simp, rfl⟩
          | slash => exact ⟨'/', by simp, rfl⟩
      | _ => exact ⟨' ', by simp, rfl⟩

theorem head_render_ne_star (wellFormed : term.WellFormed)
    (notStar : ∀ text span, term = .literal text span → text ≠ ['*']) :
    (term.render ++ rest).head? ≠ some '*' := by
  intro star
  cases term with
  | literal text span =>
      obtain ⟨kind, _, spells, _⟩ := wellFormed
      obtain ⟨c, more, rfl⟩ := List.exists_cons_of_ne_nil spells.ne_nil
      obtain rfl : c = '*' := Option.some.inj star
      have single : Leads Kind.star ['*'] (more ++ []) := leads_single rfl
      have same := spells.unique single (by simp)
      exact notStar _ span rfl same.2
  | usage name fallback span => cases fallback <;> simp at star
  | url target span => simp at star
  | call name arguments argumentsSpan span =>
      obtain ⟨rfl | isName, _⟩ := wellFormed
      · cases star
      · obtain ⟨c, more, rfl, isHead⟩ :=
          exists_head_of_matches_dashedName (spells_identifier_iff.mp isName.1)
        obtain rfl : c = '*' := Option.some.inj star
        revert isHead
        decide
  | operator op span => cases op <;> cases star

/-- A written row is cut behind its first term. -/
theorem exists_renderTerms_cons (due : Bool) (wellFormed : WellFormedTerms (term :: terms))
    (steady : SteadyTerms (term :: terms)) (follows : FollowsTerm rest) :
    ∃ lead dueToo, (lead = [] ∨ due = true ∧ lead = [' ']) ∧
      renderTerms due (term :: terms) = lead ++ (term.render ++ renderTerms dueToo terms) ∧
      term.EndsIn (renderTerms dueToo terms ++ rest) := by
  cases term with
  | operator op span =>
      cases op with
      | comma => exact ⟨[], true, .inl rfl, rfl, follows_renderTerms follows⟩
      | slash =>
          refine ⟨[], false, .inl rfl, rfl, ?_⟩
          cases terms with
          | nil => exact (follows.endsIn : (Term.operator .slash span).EndsIn _)
          | cons next terms =>
              have leads : ∃ more, renderTerms false (next :: terms) = next.render ++ more := by
                cases next <;> exact ⟨_, rfl⟩
              obtain ⟨more, same⟩ := leads
              rw [Term.EndsIn, same, List.append_assoc]
              refine head_render_ne_star wellFormed.2.1 fun text spanToo isLiteral star => ?_
              exact steady.2.2.1 (by simp [isLiteral, OpensComment, star])
  | _ =>
      refine ⟨if due then [' '] else [], true, by cases due <;> simp, by simp [renderTerms],
        follows_renderTerms follows⟩

/-- A written row without a leading blank starts with its first term. -/
theorem startsSolid_renderTerms (wellFormed : WellFormedTerms (term :: terms))
    (steady : SteadyTerms (term :: terms)) (follows : FollowsTerm rest) :
    StartsSolid (renderTerms false (term :: terms) ++ rest) := by
  obtain ⟨lead, dueToo, isLead, same, ends⟩ :=
    exists_renderTerms_cons false wellFormed steady follows
  obtain rfl := isLead.resolve_right fun due => Bool.false_ne_true due.1
  obtain ⟨l, ls, cut, opens, _⟩ := opens_render wellFormed.1 steady.1 ends
  rw [same, List.nil_append, List.append_assoc]
  exact opens.startsSolid cut

end Rows

/-- What the parser makes of a written term. -/
def Cursor.RereadsTerm (c : Cursor) (term : Term) (rest : Text) : Prop :=
  (∃ found, c.parseTerm.1 = some found ∧ found.bare = term.bare) ∧
    c.GoesTo c.parseTerm.2 (Token.lexemes rest)

/-- What the parser makes of written terms. -/
def Cursor.RereadsTerms (c : Cursor) (terms : List Term) (rest : Text) : Prop :=
  bareTerms c.parseTerms.1 = bareTerms terms ∧
    c.GoesTo c.parseTerms.2 ((Token.lexemes rest).dropWhile Lexeme.isTrivia)

namespace Cursor

variable {c : Cursor} {span : Span}

theorem rereads_literal (wellFormed : IsLiteral text) (follows : FollowsTerm rest)
    (ahead : c.lexemes = Token.lexemes (text ++ rest)) :
    c.RereadsTerm (.literal text span) rest := by
  obtain ⟨kind, isLiteral, spells, tame⟩ := wellFormed
  rw [lexemes_literal isLiteral spells tame follows] at ahead
  obtain ⟨token, tail, whole, same, _⟩ := exists_token ahead
  obtain ⟨rfl, rfl⟩ := Lexeme.mk.inj same
  have single : token.kind ∉ [.comma, .slash, .url, .function, .openParen, .openBrace, .openBracket,
      .closeBracket] := by
    revert isLiteral
    cases token.kind <;> decide
  rw [RereadsTerm, parseTerm_single whole single]
  exact ⟨⟨_, rfl, rfl⟩, goesTo_advance ahead⟩

theorem rereads_url (plain : '"' ∉ target)
    (ahead : c.lexemes = Token.lexemes ((Term.url target span).render ++ rest)) :
    c.RereadsTerm (.url target span) rest := by
  rw [lexemes_url (matches_render_url plain)] at ahead
  obtain ⟨token, tail, whole, same, _⟩ := exists_token ahead
  obtain ⟨kind, text⟩ := Lexeme.mk.inj same
  rw [RereadsTerm, parseTerm_url whole kind, text, urlTarget_render plain]
  exact ⟨⟨_, rfl, rfl⟩, goesTo_advance ahead⟩

theorem rereads_comma (ahead : c.lexemes = Token.lexemes (',' :: rest)) :
    c.RereadsTerm (.operator .comma span) rest := by
  rw [lexemes_single (by rfl)] at ahead
  obtain ⟨token, tail, whole, same, _⟩ := exists_token ahead
  rw [RereadsTerm, parseTerm_comma whole (Lexeme.mk.inj same).1]
  exact ⟨⟨_, rfl, rfl⟩, goesTo_advance ahead⟩

theorem rereads_slash (notStar : rest.head? ≠ some '*')
    (ahead : c.lexemes = Token.lexemes ('/' :: rest)) :
    c.RereadsTerm (.operator .slash span) rest := by
  rw [lexemes_slash notStar] at ahead
  obtain ⟨token, tail, whole, same, _⟩ := exists_token ahead
  rw [RereadsTerm, parseTerm_slash whole (Lexeme.mk.inj same).1]
  exact ⟨⟨_, rfl, rfl⟩, goesTo_advance ahead⟩

/-- Where a variable is used, no native custom property comes next. -/
theorem not_atCustomProperty (isName : IsVariableName name)
    {ls : List Lexeme} (ahead : c.lexemes = ⟨.identifier, name⟩ :: ls) :
    c.atCustomProperty = false := by
  refine Bool.eq_false_iff.mpr fun custom => ?_
  obtain ⟨_, starts⟩ := atCustomProperty_iff.mp custom
  rw [text_of_ahead (lexemes_skipTrivia_of_solid ahead rfl)] at starts
  exact absurd starts (by simp [isName.2])

/-- At the end of a value there are no more terms. -/
theorem rereads_nil (ends : EndsValue rest)
    (ahead : c.lexemes.dropWhile Lexeme.isTrivia = (Token.lexemes rest).dropWhile Lexeme.isTrivia) :
    c.RereadsTerms [] rest := by
  rw [← c.lexemes_skipTrivia] at ahead
  obtain ⟨l, ls, cut, kind⟩ := ends.ends
  have atEnd : c.skipTrivia.atValueEnd = true := by
    rw [atValueEnd, kind_of_ahead (ahead.trans cut)]
    revert kind
    cases l.kind <;> decide
  rw [RereadsTerms, parseTerms_end atEnd]
  exact ⟨rfl, ahead, rfl⟩

/-- A term that is read again is one step through the terms around it. -/
theorem rereads_cons {term : Term} {terms : List Term} {behind : Text} {l : Lexeme} {ls : List Lexeme}
    (notEmpty : term.render ≠ [])
    (atTerm : c.skipTrivia.lexemes = Token.lexemes (term.render ++ behind))
    (cut : Token.lexemes (term.render ++ behind) = l :: ls) (opens : l.OpensTerm)
    (inside : ¬ l.StopsValue) (first : c.skipTrivia.RereadsTerm term behind)
    (more : c.skipTrivia.parseTerm.2.RereadsTerms terms rest) :
    c.RereadsTerms (term :: terms) rest := by
  have inside : c.skipTrivia.atValueEnd = false := by
    rw [atValueEnd, kind_of_ahead (atTerm.trans cut)]
    revert opens inside
    rw [Lexeme.OpensTerm, Lexeme.StopsValue]
    cases l.kind <;> decide
  obtain ⟨⟨found, parsed, sameTerm⟩, goes⟩ := first
  obtain ⟨sameTerms, goesOn⟩ := more
  have shorter := length_lt_of_goesTo atTerm notEmpty (reads_parseTerm _).suffix goes.ahead
  rw [RereadsTerms, parseTerms_more inside shorter, parsed]
  refine ⟨?_, goesOn.ahead, goesOn.quiet.trans goes.quiet⟩
  rw [Option.toList_some, List.singleton_append, bareTerms, bareTerms, sameTerm, sameTerms]

/-- The arguments of a call are read up to the parenthesis that closes it. -/
theorem rereads_arguments {arguments : List Term}
    (rereads : c.skipTrivia.RereadsTerms arguments (')' :: rest)) :
    bareTerms c.parseValue.1.terms = bareTerms arguments ∧
      c.GoesTo (c.parseValue.2.expect .closeParen) (Token.lexemes rest) := by
  obtain ⟨terms, last⟩ := c.parseValue_eq
  obtain ⟨same, goes⟩ := rereads
  rw [terms, last]
  refine ⟨same, ?_⟩
  rw [lexemes_single (by rfl)] at goes
  exact GoesTo.trans ⟨rfl, goes.quiet⟩ (goesTo_expect goes.ahead)

/-- A target with a double quote in it is read as the string of a call. -/
theorem rereads_quotedUrl (calls : CallsUrl target)
    (ahead : c.lexemes = Token.lexemes ((Term.url target span).render ++ rest)) :
    c.RereadsTerm (.url target span) rest := by
  obtain ⟨cut, isString⟩ : Token.lexemes ((Term.url target span).render ++ rest) = _ ∧ _ :=
    calls.lexemes_render rest
  rw [cut] at ahead
  obtain ⟨token, tail, whole, same, _⟩ := exists_token ahead
  obtain ⟨kind, text⟩ := Lexeme.mk.inj same
  have follows : FollowsTerm (')' :: rest) := endsValue_paren.follows
  have atString := lexemes_advance ahead
  have solid : c.advance.skipTrivia.lexemes = Token.lexemes (quoteTarget target ++ ')' :: rest) := by
    rw [lexemes_string isString] at atString ⊢
    exact lexemes_skipTrivia_of_solid atString rfl
  have literal : c.advance.skipTrivia.skipTrivia.RereadsTerm
      (.literal (quoteTarget target) .detached) (')' :: rest) :=
    rereads_literal (isLiteral_string isString) follows (by rwa [skipTrivia_skipTrivia])
  have arguments : c.advance.skipTrivia.RereadsTerms [.literal (quoteTarget target) .detached]
      (')' :: rest) := by
    refine rereads_cons (by simp [quoteTarget]) (by rwa [skipTrivia_skipTrivia])
      (lexemes_string isString) (show Kind.string ∉ _ by decide) (show Kind.string ∉ _ by decide)
      literal ?_
    exact rereads_nil endsValue_paren (congrArg (List.dropWhile Lexeme.isTrivia) literal.2.ahead)
  obtain ⟨terms, goes⟩ := rereads_arguments arguments
  have notUsage : Text.sameLetters token.text.dropLast "var".toList ≠ true := by
    rw [text]
    decide
  rw [RereadsTerm, parseTerm_call whole kind fun isVar => absurd isVar notUsage, text]
  refine ⟨⟨_, rfl, ?_⟩, goes.ahead, goes.quiet⟩
  rw [Term.bare, Term.bare, if_pos calls, terms]
  rfl

theorem rereads_call (arguments : List Term) {argumentsSpan : Span}
    (named : name = [] ∨ IsFunctionName name)
    (custom : Text.sameLetters name "var".toList = true → ∀ {c : Cursor},
      c.lexemes = Token.lexemes (renderTerms false arguments ++ ')' :: rest) →
        c.atCustomProperty = true)
    (rereads : ∀ {c : Cursor}, c.lexemes.dropWhile Lexeme.isTrivia =
      (Token.lexemes (renderTerms false arguments ++ ')' :: rest)).dropWhile Lexeme.isTrivia →
        c.RereadsTerms arguments (')' :: rest))
    (ahead : c.lexemes =
      Token.lexemes ((Term.call name arguments argumentsSpan span).render ++ rest)) :
    c.RereadsTerm (.call name arguments argumentsSpan span) rest := by
  have whole : (Term.call name arguments argumentsSpan span).render ++ rest =
      name ++ '(' :: (renderTerms false arguments ++ ')' :: rest) := by
    simp
  rw [whole] at ahead
  -- the arguments are read in the same way behind a name and without one
  have value (behind : c.advance.lexemes =
      Token.lexemes (renderTerms false arguments ++ ')' :: rest)) :=
    rereads_arguments (c := c.advance) (rereads (by
      rw [← lexemes_skipTrivia, skipTrivia_skipTrivia, lexemes_skipTrivia, behind]))
  rcases named with rfl | isName
  · rw [List.nil_append, lexemes_single (by rfl)] at ahead
    obtain ⟨token, tail, whole, same, _⟩ := exists_token ahead
    obtain ⟨terms, goes⟩ := value (lexemes_advance ahead)
    rw [RereadsTerm, parseTerm_paren whole (Lexeme.mk.inj same).1]
    exact ⟨⟨_, rfl, by rw [Term.bare, terms]; rfl⟩, goes.ahead, goes.quiet⟩
  · rw [lexemes_call isName] at ahead
    obtain ⟨token, tail, whole, same, _⟩ := exists_token ahead
    obtain ⟨kind, text⟩ := Lexeme.mk.inj same
    have isName : token.text.dropLast = name := by rw [text, List.dropLast_concat]
    obtain ⟨terms, goes⟩ := value (lexemes_advance ahead)
    rw [RereadsTerm, parseTerm_call whole kind fun isVar => custom (isName ▸ isVar)
      (lexemes_advance ahead), isName]
    exact ⟨⟨_, rfl, by rw [Term.bare, terms]; rfl⟩, goes.ahead, goes.quiet⟩

theorem bare_usage (fallback : Option Term) :
    (Term.usage name fallback span).bare = .usage name (fallback.map Term.bare) .detached := by
  cases fallback <;> rfl

/-- A usage is read from its name on, whatever stands behind the name. -/
theorem rereads_usage {fallback : Option Term} {kind : Kind} (sign : Char) (more : Text)
    (isName : IsVariableName name) (single : singles.lookup sign = some kind)
    (beyond : isNamePart sign = false ∧ sign ≠ '(')
    (reads : ∀ {c behind : Cursor}, behind.lexemes = Token.lexemes (sign :: more) →
      (c.parseFallback behind).1.map Term.bare = fallback.map Term.bare ∧
        behind.GoesTo (c.parseFallback behind).2 (Token.lexemes (')' :: rest)))
    (ahead : c.lexemes = Token.lexemes ("var(".toList ++ (name ++ sign :: more))) :
    c.RereadsTerm (.usage name fallback span) rest := by
  rw [lexemes_usage isName (by rintro _ ⟨⟩; exact beyond), lexemes_single single] at ahead
  obtain ⟨token, tail, whole, same, _⟩ := exists_token ahead
  obtain ⟨isFunction, text⟩ := Lexeme.mk.inj same
  have atName := lexemes_advance ahead
  have named := lexemes_skipTrivia_of_solid atName rfl
  have behind := lexemes_skipTrivia_of_solid (lexemes_advance named) (solid_of_single single)
  rw [← lexemes_single single] at behind
  obtain ⟨sameFallback, goes⟩ := reads (c := c.advance) behind
  rw [RereadsTerm, parseTerm_usage whole isFunction (by rw [text]; decide)
      (not_atCustomProperty isName atName), parseUsage_named (kind_of_ahead named),
    text_of_ahead named]
  refine ⟨⟨_, rfl, ?_⟩, ?_⟩
  · rw [bare_usage, bare_usage, sameFallback]
  · rw [lexemes_single (by rfl)] at goes
    exact GoesTo.trans ⟨rfl, goes.quiet⟩ (goesTo_expect goes.ahead)

theorem reread_noFallback {behind : Cursor} (ahead : behind.lexemes = Token.lexemes (')' :: rest)) :
    (c.parseFallback behind).1.map Term.bare = none ∧
      behind.GoesTo (c.parseFallback behind).2 (Token.lexemes (')' :: rest)) := by
  have closes : behind.kind ≠ .comma := by
    rw [lexemes_single (by rfl)] at ahead
    rw [kind_of_ahead ahead]
    decide
  rw [parseFallback, if_pos closes]
  exact ⟨rfl, goesTo_refl ahead⟩

theorem reread_fallback {behind : Cursor} {fallback : Term}
    (opens : ∃ l ls, Token.lexemes (fallback.render ++ ')' :: rest) = l :: ls ∧ l.OpensTerm)
    (rereads : ∀ {c : Cursor}, c.lexemes = Token.lexemes (fallback.render ++ ')' :: rest) →
      c.RereadsTerm fallback (')' :: rest))
    (ahead : behind.lexemes =
      Token.lexemes (',' :: ' ' :: (fallback.render ++ ')' :: rest))) :
    (c.parseFallback behind).1.map Term.bare = some fallback.bare ∧
      behind.GoesTo (c.parseFallback behind).2 (Token.lexemes (')' :: rest)) := by
  obtain ⟨l, ls, cut, opens⟩ := opens
  have starts := opens.startsSolid cut
  rw [lexemes_single (by rfl), starts.space] at ahead
  have body : behind.advance.skipTrivia.lexemes =
      Token.lexemes (fallback.render ++ ')' :: rest) := by
    rw [lexemes_skipTrivia_of_trivia (lexemes_advance ahead) rfl, starts.dropWhile]
  obtain ⟨⟨found, parsed, same⟩, goes⟩ := rereads body
  have notParen : behind.advance.skipTrivia.kind ≠ .closeParen := by
    rw [kind_of_ahead (body.trans cut)]
    intro isParen
    exact opens (by simp [isParen])
  rw [lexemes_single (by rfl)] at goes ⊢
  have closes := lexemes_skipTrivia_of_solid goes.ahead rfl
  rw [parseFallback, if_neg (by simp [kind_of_ahead ahead])]
  dsimp only
  rw [if_neg notParen, if_pos (kind_of_ahead closes), parsed]
  exact ⟨congrArg some same, closes, goes.quiet⟩

end Cursor

section Custom

theorem exists_lexemes_of_startsCustom {arguments : List Term} (custom : StartsCustom arguments)
    (rest : Text) : ∃ text ls, IsCustomName text ∧
      lexemes (renderTerms false arguments ++ ')' :: rest) = ⟨.identifier, text⟩ :: ls := by
  match arguments, custom with
  | .literal text _ :: more, isName =>
      have follows : FollowsTerm (renderTerms true more ++ ')' :: rest) :=
        follows_renderTerms endsValue_paren.follows
      rw [renderTerms, if_neg Bool.false_ne_true, List.nil_append, Term.render_literal,
        List.append_assoc, lexemes_name isName.1 follows.beyond]
      · exact ⟨text, _, isName, rfl⟩
      · nofun

theorem atCustomProperty_of_startsCustom {arguments : List Term} {c : Cursor}
    (custom : StartsCustom arguments)
    (ahead : c.lexemes = lexemes (renderTerms false arguments ++ ')' :: rest)) :
    c.atCustomProperty = true := by
  obtain ⟨text, ls, isName, cut⟩ := exists_lexemes_of_startsCustom custom rest
  have named := Cursor.lexemes_skipTrivia_of_solid (ahead.trans cut) rfl
  rw [Cursor.atCustomProperty_iff, Cursor.kind_of_ahead named, Cursor.text_of_ahead named]
  exact ⟨rfl, isName.2⟩

end Custom

mutual

theorem rereads_term : ∀ {term : Term} {c : Cursor} {rest : Text}, term.WellFormed →
    term.Steady → term.EndsIn rest → c.lexemes = lexemes (term.render ++ rest) →
      c.RereadsTerm term rest
  | .literal _ _, _, _, wellFormed, _, ends, ahead => Cursor.rereads_literal wellFormed ends ahead
  | .usage name none _, c, rest, wellFormed, _, _, ahead => by
      refine Cursor.rereads_usage ')' rest wellFormed rfl (by decide)
        (fun ahead => Cursor.reread_noFallback ahead) ?_
      rw [ahead]
      simp
  | .usage name (some fallback) _, _, rest, ⟨isName, wellFormed⟩, steady, _, ahead => by
      have follows : FollowsTerm (')' :: rest) := endsValue_paren.follows
      obtain ⟨l, ls, cut, opens, _⟩ := opens_render wellFormed steady follows.endsIn
      refine Cursor.rereads_usage ',' (' ' :: (fallback.render ++ ')' :: rest)) isName rfl
        (by decide) (fun ahead => Cursor.reread_fallback ⟨l, ls, cut, opens⟩
          (fun ahead => rereads_term wellFormed steady follows.endsIn ahead) ahead) ?_
      rw [ahead]
      simp
  | .url target _, _, _, _, steady, _, ahead => by
      by_cases quote : '"' ∈ target
      · exact Cursor.rereads_quotedUrl (steady quote) ahead
      · exact Cursor.rereads_url quote ahead
  | .call _ arguments _ _, _, _, ⟨named, custom, wellFormed⟩, steady, _, ahead =>
      Cursor.rereads_call arguments named
        (fun isVar _ ahead => atCustomProperty_of_startsCustom (custom isVar) ahead)
        (fun ahead => rereads_terms wellFormed steady endsValue_paren ahead) ahead
  | .operator .comma _, _, _, _, _, _, ahead => Cursor.rereads_comma ahead
  | .operator .slash _, _, _, _, _, notStar, ahead => Cursor.rereads_slash notStar ahead

theorem rereads_terms : ∀ {terms : List Term} {due : Bool} {c : Cursor} {rest : Text},
    WellFormedTerms terms → SteadyTerms terms → EndsValue rest →
      c.lexemes.dropWhile Lexeme.isTrivia =
        (lexemes (renderTerms due terms ++ rest)).dropWhile Lexeme.isTrivia →
      c.RereadsTerms terms rest
  | [], _, _, _, _, _, ends, ahead => Cursor.rereads_nil ends ahead
  | term :: terms, due, c, rest, ⟨wellFormed, wellFormedToo⟩, steady, ends, ahead => by
      obtain ⟨lead, dueToo, isLead, same, endsTerm⟩ := exists_renderTerms_cons due
        ⟨wellFormed, wellFormedToo⟩ steady ends.follows
      obtain ⟨steady, inside, _, steadyToo⟩ := steady
      obtain ⟨l, ls, cut, opens, stops⟩ := opens_render wellFormed steady endsTerm
      have starts := opens.startsSolid cut
      have atTerm : c.skipTrivia.lexemes =
          lexemes (term.render ++ (renderTerms dueToo terms ++ rest)) := by
        rw [c.lexemes_skipTrivia, ahead, same, List.append_assoc, List.append_assoc]
        rcases isLead with rfl | ⟨_, rfl⟩
        · exact starts.dropWhile
        · rw [List.singleton_append, starts.space]
          exact starts.dropWhile
      have first := rereads_term wellFormed steady endsTerm atTerm
      refine Cursor.rereads_cons (render_ne_nil wellFormed) atTerm cut opens (mt stops inside) first ?_
      exact rereads_terms wellFormedToo steadyToo ends
        (congrArg (List.dropWhile Lexeme.isTrivia) first.2.ahead)

end

end Terms

end ComponentStyles
