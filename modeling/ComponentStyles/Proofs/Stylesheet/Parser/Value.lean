import ComponentStyles.Proofs.Stylesheet.WellFormed

/-!
# Reading values

The parser goes by the kind of the next token; one equation for each kind says what it does. From
them it follows that the terms it reads from plain tokens are well-formed, unless it reports
something.
-/

namespace ComponentStyles.Cursor

open Token

section Equations

variable {c : Cursor} {token : Token} {tail : List Token}

theorem parseTerm_nil (nothing : c.rest = []) :
    c.parseTerm = (some (.literal [] c.current.span), c) := by
  rw [parseTerm]
  split
  · rfl
  · simp_all

theorem parseTerm_comma (whole : c.rest = token :: tail) (kind : token.kind = .comma) :
    c.parseTerm = (some (.operator .comma token.span), c.advance) := by
  rw [parseTerm]
  split <;> simp_all

theorem parseTerm_slash (whole : c.rest = token :: tail) (kind : token.kind = .slash) :
    c.parseTerm = (some (.operator .slash token.span), c.advance) := by
  rw [parseTerm]
  split <;> simp_all

theorem parseTerm_url (whole : c.rest = token :: tail) (kind : token.kind = .url) :
    c.parseTerm = (some (.url (urlTarget token.text) token.span), c.advance) := by
  rw [parseTerm]
  split <;> simp_all

theorem parseTerm_usage (whole : c.rest = token :: tail) (kind : token.kind = .function)
    (isVar : Text.sameLetters token.text.dropLast "var".toList = true)
    (notCustom : c.advance.atCustomProperty = false) :
    c.parseTerm = parseUsage token.span.start c.advance := by
  rw [parseTerm]
  split <;> simp_all

theorem parseTerm_call (whole : c.rest = token :: tail) (kind : token.kind = .function)
    (notUsage : Text.sameLetters token.text.dropLast "var".toList = true →
      c.advance.atCustomProperty = true) :
    c.parseTerm =
      (some (.call token.text.dropLast c.advance.parseValue.1.terms c.advance.parseValue.1.span
          ⟨token.span.start, (c.advance.parseValue.2.expect .closeParen).lastEnd⟩),
        c.advance.parseValue.2.expect .closeParen) := by
  rw [parseTerm]
  split
  · simp_all
  case h_2 other rest same =>
    obtain ⟨rfl, rfl⟩ := List.cons.inj (same.symm.trans whole)
    simp only [kind]
    rw [if_neg]
    simpa using notUsage

theorem parseTerm_paren (whole : c.rest = token :: tail) (kind : token.kind = .openParen) :
    c.parseTerm =
      (some (.call [] c.advance.parseValue.1.terms c.advance.parseValue.1.span
          ⟨token.span.start, (c.advance.parseValue.2.expect .closeParen).lastEnd⟩),
        c.advance.parseValue.2.expect .closeParen) := by
  rw [parseTerm]
  split <;> simp_all

theorem parseTerm_refused (whole : c.rest = token :: tail)
    (kind : token.kind ∈ [.openBrace, .openBracket, .closeBracket]) :
    c.parseTerm = (none, (c.unexpected .value).advance) := by
  rw [parseTerm]
  simp only [List.mem_cons, List.not_mem_nil, or_false] at kind
  split
  · simp_all
  case h_2 other rest same =>
    obtain ⟨rfl, rfl⟩ := List.cons.inj (same.symm.trans whole)
    rcases kind with kind | kind | kind <;> simp only [kind]

theorem parseTerm_single (whole : c.rest = token :: tail)
    (kind : token.kind ∉ [.comma, .slash, .url, .function, .openParen, .openBrace, .openBracket,
      .closeBracket]) :
    c.parseTerm = (some (.literal token.text token.span), c.advance) := by
  rw [parseTerm]
  split
  · simp_all
  case h_2 other rest same =>
    obtain ⟨rfl, rfl⟩ := List.cons.inj (same.symm.trans whole)
    split <;> simp_all

/-- The ways to read a term, one for each thing that the token in front may ask for. -/
@[elab_as_elim]
theorem parseTerm_cases {motive : Option Term × Cursor → Prop} (whole : c.rest = token :: tail)
    (single : token.kind ∉ [.comma, .slash, .url, .function, .openParen, .openBrace, .openBracket,
        .closeBracket] →
      motive (some (.literal token.text token.span), c.advance))
    (comma : token.kind = .comma → motive (some (.operator .comma token.span), c.advance))
    (slash : token.kind = .slash → motive (some (.operator .slash token.span), c.advance))
    (url : token.kind = .url →
      motive (some (.url (urlTarget token.text) token.span), c.advance))
    (usage : token.kind = .function → Text.sameLetters token.text.dropLast "var".toList = true →
      c.advance.atCustomProperty = false → motive (parseUsage token.span.start c.advance))
    (call : token.kind = .function →
      (Text.sameLetters token.text.dropLast "var".toList = true →
        c.advance.atCustomProperty = true) →
      motive (some (.call token.text.dropLast c.advance.parseValue.1.terms
          c.advance.parseValue.1.span
          ⟨token.span.start, (c.advance.parseValue.2.expect .closeParen).lastEnd⟩),
        c.advance.parseValue.2.expect .closeParen))
    (paren : token.kind = .openParen →
      motive (some (.call [] c.advance.parseValue.1.terms c.advance.parseValue.1.span
          ⟨token.span.start, (c.advance.parseValue.2.expect .closeParen).lastEnd⟩),
        c.advance.parseValue.2.expect .closeParen))
    (refused : token.kind ∈ [.openBrace, .openBracket, .closeBracket] →
      motive (none, (c.unexpected .value).advance)) : motive c.parseTerm := by
  by_cases other : token.kind ∉ [.comma, .slash, .url, .function, .openParen, .openBrace,
      .openBracket, .closeBracket]
  · rw [parseTerm_single whole other]
    exact single other
  have known := Classical.not_not.mp other
  simp only [List.mem_cons, List.not_mem_nil, or_false] at known
  rcases known with kind | kind | kind | kind | kind | kind
  · rw [parseTerm_comma whole kind]
    exact comma kind
  · rw [parseTerm_slash whole kind]
    exact slash kind
  · rw [parseTerm_url whole kind]
    exact url kind
  · by_cases isUsage : Text.sameLetters token.text.dropLast "var".toList = true ∧
        c.advance.atCustomProperty = false
    · rw [parseTerm_usage whole kind isUsage.1 isUsage.2]
      exact usage kind isUsage.1 isUsage.2
    · have notUsage : Text.sameLetters token.text.dropLast "var".toList = true →
          c.advance.atCustomProperty = true := by simpa using isUsage
      rw [parseTerm_call whole kind notUsage]
      exact call kind notUsage
  · rw [parseTerm_paren whole kind]
    exact paren kind
  · have listed : token.kind ∈ [.openBrace, .openBracket, .closeBracket] := by simpa using kind
    rw [parseTerm_refused whole listed]
    exact refused listed

/-- Reads the fallback of a usage from behind its name, where the parenthesis opens at `c`. -/
def parseFallback (c behind : Cursor) : Option Term × Cursor :=
  if behind.kind ≠ .comma then (none, behind)
  else
    let body := behind.advance.skipTrivia
    if body.kind = .closeParen then (none, body.report (.usage .missingFallback))
    else
      let next := body.parseTerm.2.skipTrivia
      if next.kind = .closeParen then (body.parseTerm.1, next)
      else
        let failed := next.report (.usage .longFallback)
        (body.parseTerm.1,
          if failed.rest.length ≤ c.rest.length then failed.skipFallback else failed)

theorem parseUsage_named (isName : c.skipTrivia.kind = .identifier) (start : Nat) :
    c.parseUsage start =
      (some (.usage c.skipTrivia.current.text
          (c.parseFallback c.skipTrivia.advance.skipTrivia).1
          ⟨start, ((c.parseFallback c.skipTrivia.advance.skipTrivia).2.expect .closeParen).lastEnd⟩),
        (c.parseFallback c.skipTrivia.advance.skipTrivia).2.expect .closeParen) := by
  rw [parseUsage]
  simp only [isName, ne_eq, not_true_eq_false, if_false]
  rfl

theorem parseUsage_unnamed (notName : c.skipTrivia.kind ≠ .identifier) (start : Nat) :
    c.parseUsage start =
      (none,
        let last := ((c.skipTrivia.report (.usage .missingName)).readRaw
          [.closeParen, .semicolon, .closeBrace]).2
        if last.kind = .closeParen then last.advance else last) := by
  rw [parseUsage]
  simp only [ne_eq, notName, not_false_eq_true, if_true]

theorem parseTerms_end (ends : c.skipTrivia.atValueEnd = true) : c.parseTerms = ([], c.skipTrivia) := by
  rw [parseTerms]
  exact if_pos ends

theorem parseTerms_more (inside : c.skipTrivia.atValueEnd = false)
    (shorter : c.skipTrivia.parseTerm.2.rest.length < c.skipTrivia.rest.length) :
    c.parseTerms =
      (c.skipTrivia.parseTerm.1.toList ++ c.skipTrivia.parseTerm.2.parseTerms.1,
        c.skipTrivia.parseTerm.2.parseTerms.2) := by
  rw [parseTerms]
  simp only [inside, shorter, Bool.false_eq_true, if_false, dite_true]

theorem parseTerms_stuck (inside : c.skipTrivia.atValueEnd = false)
    (stuck : ¬ c.skipTrivia.parseTerm.2.rest.length < c.skipTrivia.rest.length) :
    c.parseTerms = (c.skipTrivia.parseTerm.1.toList, c.skipTrivia.parseTerm.2) := by
  rw [parseTerms]
  simp only [inside, stuck, Bool.false_eq_true, if_false, dite_false]

theorem parseValue_eq (c : Cursor) : c.parseValue.1.terms = c.skipTrivia.parseTerms.1 ∧
    c.parseValue.2 = c.skipTrivia.parseTerms.2 := by
  rw [parseValue]
  exact ⟨rfl, rfl⟩

end Equations

/-- Whether a term may start here. -/
def StartsTerm (c : Cursor) : Prop :=
  c.kind ∉ [.whitespace, .comment, .closeParen, .endOfInput]

/-- What parsing a value finds. -/
def FindsTerms (c : Cursor) (terms : List Term) : Prop :=
  WellFormedTerms terms ∧ (c.atCustomProperty = true → StartsCustom terms)

theorem kind_skipTrivia_ne (c : Cursor) {kind : Kind} (trivia : kind.isTrivia = true) :
    c.skipTrivia.kind ≠ kind := by
  intro same
  cases whole : c.skipTrivia.rest with
  | nil =>
      rw [Cursor.kind, current, whole] at same
      subst same
      cases trivia
  | cons token rest =>
      have notTrivia := List.head?_dropWhile_not Token.isTrivia c.rest
      rw [show c.rest.dropWhile Token.isTrivia = token :: rest from whole] at notTrivia
      rw [kind_of_rest whole] at same
      simp [Token.isTrivia, same, trivia] at notTrivia

theorem startsTerm_skipTrivia {c : Cursor} (notParen : c.skipTrivia.kind ≠ .closeParen)
    (inside : c.skipTrivia.kind ≠ .endOfInput) : c.skipTrivia.StartsTerm := by
  have notBlank : c.skipTrivia.kind ≠ .whitespace := c.kind_skipTrivia_ne rfl
  have notComment : c.skipTrivia.kind ≠ .comment := c.kind_skipTrivia_ne rfl
  simp [StartsTerm, notBlank, notComment, notParen, inside]

theorem startsTerm_of_not_atValueEnd {c : Cursor} (inside : c.skipTrivia.atValueEnd = false) :
    c.skipTrivia.StartsTerm := by
  refine startsTerm_skipTrivia (fun same => ?_) (fun same => ?_) <;>
    simp [atValueEnd, same] at inside

theorem isLiteral_of_startsTerm {c : Cursor} {token : Token} {tail : List Token}
    (whole : c.rest = token :: tail) (starts : c.StartsTerm)
    (kind : token.kind ∉ [.comma, .slash, .url, .function, .openParen, .openBrace, .openBracket,
      .closeBracket]) : token.kind.isLiteral = true := by
  rw [StartsTerm, kind_of_rest whole] at starts
  revert kind starts
  cases token.kind <;> simp [Kind.isLiteral]

theorem reads_parseFallback {c : Cursor} (behind : Cursor)
    (parsed : behind.advance.skipTrivia.Reads behind.advance.skipTrivia.parseTerm.2
      (behind.advance.skipTrivia.StartsTerm →
        ∀ term ∈ behind.advance.skipTrivia.parseTerm.1, term.WellFormed))
    (skips : ∀ failed : Cursor, failed.rest.length ≤ c.rest.length →
      failed.Reads failed.skipFallback True) :
    behind.Reads (c.parseFallback behind).2
      (∀ term ∈ (c.parseFallback behind).1, term.WellFormed) := by
  have body := behind.reads_advance.trans (reads_skipTrivia _)
  unfold parseFallback
  dsimp only
  split
  · exact (Reads.refl _).imp fun _ _ => nofun
  split
  case isTrue => exact (body.trans (reads_report _ _)).imp fun _ found => found.2.elim
  split
  case isTrue notParen closes =>
    refine ((body.trans parsed).trans (reads_skipTrivia _)).imp fun plain found => found.1.2 ?_
    have inside : behind.advance.skipTrivia.kind ≠ .endOfInput := by
      cases whole : behind.advance.skipTrivia.rest with
      | nil =>
          rw [parseTerm_nil whole] at closes
          rw [kind, current, skipTrivia, whole] at closes
          cases closes
      | cons token tail =>
          rw [kind_of_rest whole]
          have plainBody := plain.of_within (lexemes_suffix body.suffix).isInfix
          exact (spells_of_cut plainBody.cut whole rfl).ne_endOfInput
    exact startsTerm_skipTrivia notParen inside
  case isFalse =>
    have failed := ((body.trans parsed).trans (reads_skipTrivia _)).moves.trans
      (reads_report _ (.usage .longFallback))
    refine (failed.imp fun _ found => found.2).loud ?_
    split
    · exact skips _ ‹_›
    · exact Reads.refl _

theorem atCustomProperty_iff {c : Cursor} : c.atCustomProperty = true ↔
    c.skipTrivia.kind = .identifier ∧ Text.startsWith c.skipTrivia.current.text ['-', '-'] = true := by
  rw [atCustomProperty, Bool.and_eq_true, decide_eq_true_eq]
  rfl

theorem spells_current_of_cut {c : Cursor} {kind : Kind} (cut : IsCut c.lexemes)
    (isKind : c.kind = kind) (notEnd : kind ≠ .endOfInput) : kind.Spells c.current.text := by
  obtain ⟨token, tail, whole⟩ := exists_rest_of_kind (c := c) (by rwa [isKind])
  rw [current_of_rest whole]
  exact spells_of_cut cut whole ((kind_of_rest whole).symm.trans isKind)

/-- A native custom property is read as a literal. -/
theorem startsCustom_parseTerm {c : Cursor} (plain : Plain c.skipTrivia.lexemes)
    (custom : c.atCustomProperty = true) (terms : List Term) :
    StartsCustom (c.skipTrivia.parseTerm.1.toList ++ terms) := by
  obtain ⟨isName, starts⟩ := atCustomProperty_iff.mp custom
  have spells := spells_current_of_cut plain.cut isName (by decide)
  obtain ⟨token, tail, whole⟩ := exists_rest_of_kind (c := c.skipTrivia) (by rw [isName]; decide)
  rw [kind_of_rest whole] at isName
  rw [current_of_rest whole] at spells starts
  rw [parseTerm_single whole (by simp [isName])]
  exact ⟨spells, starts⟩

mutual

theorem reads_parseTerm (c : Cursor) : c.Reads c.parseTerm.2
    (c.StartsTerm → ∀ term ∈ c.parseTerm.1, term.WellFormed) := by
  cases whole : c.rest with
  | nil =>
      rw [parseTerm_nil whole]
      refine (Reads.refl c).imp fun _ _ starts => ?_
      exact absurd (by simp [kind, current, whole]) starts
  | cons token tail =>
      have value := (c.reads_advance.trans (reads_parseValue c.advance)).trans
        (reads_expect _ .closeParen)
      refine parseTerm_cases whole ?single ?comma ?slash ?url ?usage ?call ?paren ?refused
      case single =>
        intro other
        refine c.reads_advance.imp fun plain _ starts => ?_
        rintro _ ⟨⟩
        exact ⟨token.kind, isLiteral_of_startsTerm whole starts other, spells_of_cut plain.cut whole rfl,
          tame_of_plain plain whole⟩
      case comma | slash | url =>
        intro _
        refine c.reads_advance.imp fun _ _ _ => ?_
        rintro _ ⟨⟩
        trivial
      case usage =>
        intro _ _ notCustom
        refine (c.reads_advance.trans (reads_parseUsage token.span.start c.advance)).imp ?_
        exact fun _ found _ => found.2 notCustom
      case call =>
        intro kind notUsage
        refine value.imp fun plain found _ => ?_
        rintro _ ⟨⟩
        have listed : token.lexeme ∈ c.lexemes := by simp [lexemes_of_rest whole]
        exact ⟨.inr (isFunctionName_of_plain plain listed kind),
          fun isVar => found.1.2.2 (notUsage isVar), found.1.2.1⟩
      case paren =>
        intro _
        refine value.imp fun plain found _ => ?_
        rintro _ ⟨⟩
        refine ⟨.inl rfl, fun isVar => ?_, found.1.2.1⟩
        exact absurd isVar (by decide)
      case refused =>
        intro _
        exact (c.reads_unexpected _).loud (reads_advance _)
termination_by 4 * c.rest.length
decreasing_by
  all_goals
    rw [length_advance, whole, List.length_cons]
    omega

theorem reads_parseUsage (start : Nat) (c : Cursor) : c.Reads (c.parseUsage start).2
    (c.atCustomProperty = false → ∀ term ∈ (c.parseUsage start).1, term.WellFormed) := by
  by_cases isName : c.skipTrivia.kind = .identifier
  · rw [parseUsage_named isName]
    have fallback := reads_parseFallback (c := c) c.skipTrivia.advance.skipTrivia
      (reads_parseTerm _) (fun failed shorter => reads_skipFallback failed)
    have through := (c.reads_skipTrivia.trans (reads_advance _)).trans (reads_skipTrivia _)
    refine ((through.trans fallback).trans (reads_expect _ .closeParen)).imp fun plain found regular => ?_
    have plainName := plain.of_within (lexemes_suffix c.reads_skipTrivia.suffix).isInfix
    have isVariable : IsVariableName c.skipTrivia.current.text := by
      refine ⟨spells_current_of_cut plainName.cut isName (by decide), ?_⟩
      refine Bool.eq_false_iff.mpr fun starts => ?_
      rw [atCustomProperty_iff.mpr ⟨isName, starts⟩] at regular
      cases regular
    rintro _ ⟨⟩
    cases parsed : (c.parseFallback c.skipTrivia.advance.skipTrivia).1 with
    | none => exact isVariable
    | some fallback => exact ⟨isVariable, found.1.2 fallback parsed⟩
  · rw [parseUsage_unnamed isName]
    have failed := c.reads_skipTrivia.trans (reads_report _ (.usage .missingName))
    have skipped := (reads_readRaw (by decide : Kind.whitespace ∉
      [Kind.closeParen, .semicolon, .closeBrace])
      (c.skipTrivia.report (.usage .missingName))).moves
    refine (failed.imp fun _ found => found.2).loud ?_
    dsimp only
    split
    · exact (skipped.trans (reads_advance _)).moves
    · exact skipped
termination_by 4 * c.rest.length + 2
decreasing_by
  · have := c.skipTrivia.advance.skipTrivia.length_step_le
    have := c.skipTrivia.length_step_le
    have := c.length_skipTrivia
    omega
  · omega

theorem reads_skipFallback (c : Cursor) : c.Reads c.skipFallback True := by
  rw [skipFallback]
  split
  · exact Reads.refl c
  · dsimp only
    have step := (reads_parseTerm c).trans (reads_skipTrivia _)
    split
    · exact (step.trans (reads_skipFallback _)).imp fun _ _ => trivial
    · exact step.imp fun _ _ => trivial
termination_by 4 * c.rest.length + 1
decreasing_by
  · omega
  · omega

theorem reads_parseTerms (c : Cursor) :
    c.Reads c.parseTerms.2 (c.FindsTerms c.parseTerms.1) := by
  cases ends : c.skipTrivia.atValueEnd with
  | true =>
      rw [parseTerms_end ends]
      refine c.reads_skipTrivia.imp fun _ _ => ⟨trivial, fun custom => ?_⟩
      rw [atValueEnd, (atCustomProperty_iff.mp custom).1] at ends
      cases ends
  | false =>
      have starts := startsTerm_of_not_atValueEnd ends
      have first := c.reads_skipTrivia.trans (reads_parseTerm c.skipTrivia)
      have plainFirst (plain : Plain c.lexemes) : Plain c.skipTrivia.lexemes :=
        plain.of_within (lexemes_suffix c.reads_skipTrivia.suffix).isInfix
      by_cases shorter : c.skipTrivia.parseTerm.2.rest.length < c.skipTrivia.rest.length
      · rw [parseTerms_more ends shorter]
        refine (first.trans (reads_parseTerms _)).imp fun plain found => ?_
        refine ⟨wellFormedTerms_iff.mpr ?_, fun custom => ?_⟩
        · intro term listed
          rcases List.mem_append.mp listed with listed | listed
          · exact found.1.2 starts term (Option.mem_toList.mp listed)
          · exact wellFormedTerms_iff.mp found.2.1 term listed
        · exact startsCustom_parseTerm (plainFirst plain) custom _
      · rw [parseTerms_stuck ends shorter]
        refine first.imp fun plain found => ⟨wellFormedTerms_iff.mpr ?_, fun custom => ?_⟩
        · intro term listed
          exact found.2 starts term (Option.mem_toList.mp listed)
        · rw [← List.append_nil (Option.toList _)]
          exact startsCustom_parseTerm (plainFirst plain) custom []
termination_by 4 * c.rest.length + 1
decreasing_by
  all_goals
    have := c.length_skipTrivia
    omega

theorem reads_parseValue (c : Cursor) :
    c.Reads c.parseValue.2 (c.FindsTerms c.parseValue.1.terms) := by
  obtain ⟨terms, last⟩ := c.parseValue_eq
  rw [terms, last]
  refine (c.reads_skipTrivia.trans (reads_parseTerms c.skipTrivia)).imp fun _ found => ?_
  refine ⟨found.2.1, fun custom => found.2.2 ?_⟩
  rwa [atCustomProperty_iff, skipTrivia_skipTrivia, ← atCustomProperty_iff]
termination_by 4 * c.rest.length + 2
decreasing_by
  have := c.length_skipTrivia
  omega

end

end ComponentStyles.Cursor
