import ComponentStyles.Proofs.Stylesheet.Braces.Cursor
import ComponentStyles.Proofs.Stylesheet.Parser.Selector

/-!
# Braces in selectors

Selectors end in front of braces. Only the inside of an attribute selector and the argument of a pseudo
selector are kept as written. What a selector fails with is never a stray.
-/

namespace ComponentStyles

open Token

/-- Runs of tokens that are read in a selector without counting braces, with the tokens from the sign on
that they stand behind. -/
inductive SelectorRun : List Token → List Token → Prop where
  /-- The inside of an attribute selector. -/
  | bracketed {bracket : Token} {rest : List Token} (isBracket : bracket.kind = .openBracket) :
      SelectorRun (bracket :: rest) (run [.closeBracket, .openBrace] rest)
  /-- The argument of a pseudo selector. -/
  | argument {colon name : Token} {rest : List Token} (isColon : colon.kind = .colon)
      (isFunction : name.kind = .function) :
      SelectorRun (colon :: name :: rest) (run [.closeParen, .openBrace] rest)

/-- Whatever is read without counting braces in selectors that end at `stop` is balanced. -/
def KeepsSelectors (tokens stop : List Token) : Prop :=
  ∀ ahead uncounted, ahead <:+ tokens → stop.length < ahead.length → SelectorRun ahead uncounted →
    Balanced uncounted

namespace Cursor

variable {c next last : Cursor} {token : Token} {tail stop : List Token} {Tree : Type}

section Outcomes

/-- A step in selectors that end at `stop` counts the braces that it reads. -/
structure CountsTo (stop : List Token) (c next : Cursor) : Prop where
  suffix : next.rest <:+ c.rest
  counts : KeepsSelectors c.rest stop → stop.length ≤ next.rest.length → c.Counts next

theorem CountsTo.refl (c : Cursor) : c.CountsTo stop c :=
  ⟨List.suffix_refl _, fun _ _ => Counts.refl c⟩

theorem CountsTo.trans (first : c.CountsTo stop next) (second : next.CountsTo stop last) :
    c.CountsTo stop last where
  suffix := second.suffix.trans first.suffix
  counts keeps long := (first.counts keeps (Nat.le_trans long second.suffix.length_le)).trans
    (second.counts (fun ahead uncounted within => keeps ahead uncounted (within.trans first.suffix)) long)

theorem countsTo_advance (flat : c.kind.weight = 0) : c.CountsTo stop c.advance :=
  ⟨List.drop_suffix 1 c.rest, fun _ _ => counts_advance flat⟩

theorem countsTo_skipTrivia (c : Cursor) : c.CountsTo stop c.skipTrivia :=
  ⟨List.dropWhile_suffix _, fun _ _ => c.counts_skipTrivia⟩

/-- A step that may fail counts the braces that it reads, and it does not fail with a stray. -/
structure CountsOrFails (stop : List Token) (c : Cursor) (result : Except ParseError Tree × Cursor) :
    Prop where
  counts : c.CountsTo stop result.2
  quiet : ∀ error, result.1 = .error error → ¬ error.IsStray

theorem countsOrFails_ok {tree : Tree} (counts : c.CountsTo stop next) :
    c.CountsOrFails stop (Except.ok tree, next) :=
  ⟨counts, nofun⟩

theorem countsOrFails_error {error : ParseError} (counts : c.CountsTo stop next)
    (quiet : ¬ error.IsStray) :
    c.CountsOrFails stop ((Except.error error : Except ParseError Tree), next) := by
  refine ⟨counts, ?_⟩
  rintro _ ⟨⟩
  exact quiet

theorem CountsOrFails.cases {result : Except ParseError Tree × Cursor}
    (counts : c.CountsOrFails stop result) :
    (∃ error last, result = (.error error, last) ∧ c.CountsTo stop last ∧ ¬ error.IsStray) ∨
      ∃ tree last, result = (.ok tree, last) ∧ c.CountsTo stop last := by
  obtain ⟨outcome, last⟩ := result
  cases outcome with
  | error error => exact .inl ⟨error, last, rfl, counts.counts, counts.quiet error rfl⟩
  | ok tree => exact .inr ⟨tree, last, rfl, counts.counts⟩

theorem CountsOrFails.after {result : Except ParseError Tree × Cursor} (counts : c.CountsTo stop next)
    (later : next.CountsOrFails stop result) : c.CountsOrFails stop result :=
  ⟨counts.trans later.counts, later.quiet⟩

theorem countsOrFails_selectorError (c : Cursor) (fault : SelectorFault) :
    c.CountsOrFails stop (c.selectorError fault : Except ParseError Tree × Cursor) :=
  countsOrFails_error (CountsTo.refl c) (by simp [ParseError.IsStray])

theorem countsOrFails_closePseudo (c : Cursor) (start : Nat) (form : PseudoForm) (name : Text)
    (argument : PseudoArgument) : c.CountsOrFails stop (c.closePseudo start form name argument) := by
  rw [closePseudo]
  split
  case isTrue closes => exact countsOrFails_ok (countsTo_advance (by rw [closes]; rfl))
  case isFalse => exact c.countsOrFails_selectorError _

end Outcomes

theorem weight_of_combinatorOf? {kind : Kind} {sign : Combinator}
    (isSign : combinatorOf? kind = some sign) : kind.weight = 0 := by
  revert isSign
  cases kind <;> simp [combinatorOf?, Kind.weight]

theorem countsTo_attribute (isBracket : c.kind = .openBracket) :
    c.CountsTo stop (c.advance.readRaw [.closeBracket, .openBrace]).2 := by
  have suffix : (c.advance.readRaw [.closeBracket, .openBrace]).2.rest <:+ c.advance.rest :=
    (readRaw_moves (by decide) c.advance).1
  refine ⟨suffix.trans (List.drop_suffix 1 c.rest), fun keeps long => ?_⟩
  obtain ⟨bracket, rest, whole⟩ := exists_rest_of_kind (c := c) (by rw [isBracket]; decide)
  have ahead : stop.length < (bracket :: rest).length := by
    rw [rest_advance whole] at suffix
    exact Nat.lt_succ_of_le (Nat.le_trans long suffix.length_le)
  have inside := keeps _ _ ⟨[], whole.symm⟩ ahead
    (.bracketed ((kind_of_rest whole).symm.trans isBracket))
  rw [← rest_advance whole] at inside
  exact (counts_advance (by rw [isBracket]; rfl)).trans (counts_readRaw (by decide) inside)

theorem countsTo_argument (isColon : c.kind = .colon) (isFunction : c.advance.kind = .function) :
    c.CountsTo stop (c.advance.advance.readRaw [.closeParen, .openBrace]).2 := by
  have suffix : (c.advance.advance.readRaw [.closeParen, .openBrace]).2.rest <:+
      c.advance.advance.rest := (readRaw_moves (by decide) c.advance.advance).1
  refine ⟨suffix.trans ((List.drop_suffix 1 _).trans (List.drop_suffix 1 c.rest)), fun keeps long => ?_⟩
  obtain ⟨colon, behind, whole⟩ := exists_rest_of_kind (c := c) (by rw [isColon]; decide)
  obtain ⟨name, rest, atName⟩ := exists_rest_of_kind (c := c.advance) (by rw [isFunction]; decide)
  have here : colon :: name :: rest = c.rest := by rw [whole, ← rest_advance whole, atName]
  have ahead : stop.length < (colon :: name :: rest).length := by
    rw [rest_advance atName] at suffix
    have := Nat.le_trans long suffix.length_le
    simp only [List.length_cons]
    omega
  have inside := keeps _ _ ⟨[], here⟩ ahead (.argument ((kind_of_rest whole).symm.trans isColon)
    ((kind_of_rest atName).symm.trans isFunction))
  rw [← rest_advance atName] at inside
  exact ((counts_advance (by rw [isColon]; rfl)).trans (counts_advance (by rw [isFunction]; rfl))).trans
    (counts_readRaw (by decide) inside)

mutual

theorem counts_parseSimple (c : Cursor) : c.CountsOrFails stop c.parseSimple := by
  cases whole : c.rest with
  | nil =>
      rw [parseSimple_nil whole]
      exact countsOrFails_error (CountsTo.refl c) (by simp [ParseError.IsStray])
  | cons token tail =>
      have step {kind : Kind} (isKind : token.kind = kind) (flat : kind.weight = 0) :
          c.CountsTo stop c.advance :=
        countsTo_advance (by rw [kind_of_rest whole, isKind, flat])
      have raw (isBracket : token.kind = .openBracket) :
          c.CountsTo stop (c.advance.readRaw [.closeBracket, .openBrace]).2 :=
        countsTo_attribute ((kind_of_rest whole).trans isBracket)
      refine parseSimple_cases whole ?star ?element ?byId ?byClass ?unnamed ?closed ?unclosed
        ?ofElement ?ofClass ?other
      case star | element | byId => exact fun kind => countsOrFails_ok (step kind rfl)
      case byClass =>
        exact fun kind named =>
          countsOrFails_ok ((step kind rfl).trans (countsTo_advance (by rw [named]; rfl)))
      case unnamed => exact fun kind _ => .after (step kind rfl) (countsOrFails_selectorError _ _)
      case closed =>
        exact fun kind closes =>
          countsOrFails_ok ((raw kind).trans (countsTo_advance (by rw [closes]; rfl)))
      case unclosed => exact fun kind _ => .after (raw kind) (countsOrFails_selectorError _ _)
      case ofElement =>
        exact fun kind again => .after (step kind rfl) (counts_parsePseudo _ _ c.advance again)
      case ofClass => exact fun kind _ => counts_parsePseudo _ _ c ((kind_of_rest whole).trans kind)
      case other =>
        exact fun _ => countsOrFails_error (CountsTo.refl c) (by simp [ParseError.IsStray])
termination_by 6 * c.rest.length
decreasing_by
  · have := c.advance.length_advance
    rw [length_advance, length_advance, whole, List.length_cons]
    omega
  · rw [length_advance, whole, List.length_cons]
    omega

/-- A pseudo selector is read from the colon in front of its name on. -/
theorem counts_parsePseudo (start : Nat) (form : PseudoForm) (c : Cursor) (isColon : c.kind = .colon) :
    c.CountsOrFails stop (c.advance.parsePseudo start form) := by
  have colon : c.CountsTo stop c.advance := countsTo_advance (by rw [isColon]; rfl)
  cases whole : c.advance.rest with
  | nil =>
      rw [parsePseudo_nil start form whole]
      exact .after colon (countsOrFails_selectorError _ _)
  | cons token tail =>
      have step {kind : Kind} (isKind : token.kind = kind) (flat : kind.weight = 0) :
          c.CountsTo stop c.advance.advance :=
        colon.trans (countsTo_advance (by rw [kind_of_rest whole, isKind, flat]))
      refine parsePseudo_cases whole ?other ?absent ?raw ?selectors
      case other => exact fun _ => .after colon (countsOrFails_selectorError _ _)
      case absent => exact fun kind => countsOrFails_ok (step kind rfl)
      case raw =>
        exact fun kind _ => .after (countsTo_argument isColon ((kind_of_rest whole).trans kind))
          (countsOrFails_closePseudo _ _ _ _ _)
      case selectors =>
        intro kind _
        have inner : c.CountsOrFails stop (c.advance.advance.parseSelectorList .closeParen) :=
          .after (step kind rfl) (counts_parseSelectorList .closeParen c.advance.advance)
        obtain ⟨error, last, parsed, failed, quiet⟩ | ⟨list, last, parsed, through⟩ := inner.cases
        · rw [parsed]
          exact countsOrFails_error failed quiet
        · rw [parsed]
          exact .after (through.trans (countsTo_skipTrivia _)) (countsOrFails_closePseudo _ _ _ _ _)
termination_by 6 * c.advance.rest.length + 1
decreasing_by
  rw [length_advance, whole, List.length_cons]
  omega

theorem counts_parseParts (close : Kind) (combinator : Combinator) (started : Bool) (c : Cursor) :
    c.CountsOrFails stop (c.parseParts close combinator started) := by
  cases whole : c.rest with
  | nil =>
      rw [parseParts_nil close combinator started whole]
      exact countsOrFails_ok (CountsTo.refl c)
  | cons token tail =>
      have isKind := kind_of_rest whole
      refine parseParts_cases whole ?blank ?sign ?ends ?part
      case blank =>
        exact fun trivia => .after (countsTo_advance (isKind ▸ weight_of_isTrivia trivia))
          (counts_parseParts close _ started c.advance)
      case sign =>
        exact fun _ sign => .after (countsTo_advance (isKind ▸ weight_of_combinatorOf? sign))
          (counts_parseParts close _ started c.advance)
      case ends => exact fun _ _ => countsOrFails_ok (CountsTo.refl c)
      case part =>
        intro _ _
        have first : c.CountsOrFails stop c.parseSimple := counts_parseSimple c
        obtain ⟨error, last, parsed, failed, quiet⟩ | ⟨simple, next, parsed, first⟩ := first.cases
        · rw [parsed]
          exact countsOrFails_error failed quiet
        rw [parsed]
        dsimp only
        split
        case isFalse => exact countsOrFails_ok first
        have later := CountsOrFails.after first (counts_parseParts close .same true next)
        obtain ⟨error, last, parsedToo, failed, quiet⟩ | ⟨parts, last, parsedToo, through⟩ :=
          later.cases
        · rw [parsedToo]
          exact countsOrFails_error failed quiet
        · rw [parsedToo]
          exact countsOrFails_ok through
termination_by 6 * c.rest.length + 2
decreasing_by
  all_goals first
    | omega
    | rw [length_advance, whole, List.length_cons]
      omega

theorem counts_parseSelector (close : Kind) (c : Cursor) :
    c.CountsOrFails stop (c.parseSelector close) := by
  rw [parseSelector]
  have inner : c.CountsOrFails stop (c.parseParts close .same false) :=
    counts_parseParts close .same false c
  obtain ⟨error, last, parsed, failed, quiet⟩ | ⟨parts, last, parsed, through⟩ := inner.cases
  · rw [parsed]
    exact countsOrFails_error failed quiet
  rw [parsed]
  dsimp only
  split
  · exact .after through (last.countsOrFails_selectorError _)
  split
  · exact countsOrFails_ok through
  · exact .after through (last.countsOrFails_selectorError _)
termination_by 6 * c.rest.length + 3
decreasing_by omega

theorem counts_parseSelectors (close : Kind) (c : Cursor) :
    c.CountsOrFails stop (c.parseSelectors close) := by
  rw [parseSelectors]
  have first : c.CountsOrFails stop (c.parseSelector close) := counts_parseSelector close c
  obtain ⟨error, last, parsed, failed, quiet⟩ | ⟨selector, last, parsed, through⟩ := first.cases
  · rw [parsed]
    exact countsOrFails_error failed quiet
  rw [parsed]
  dsimp only
  split
  case isFalse => exact countsOrFails_ok through
  case isTrue comma =>
    have behind := (through.trans (countsTo_advance (by rw [comma]; rfl))).trans (countsTo_skipTrivia _)
    split
    case isFalse => exact countsOrFails_ok behind
    have later := CountsOrFails.after behind (counts_parseSelectors close last.advance.skipTrivia)
    obtain ⟨error, last, parsedToo, failed, quiet⟩ | ⟨selectors, last, parsedToo, through⟩ := later.cases
    · rw [parsedToo]
      exact countsOrFails_error failed quiet
    · rw [parsedToo]
      exact countsOrFails_ok through
termination_by 6 * c.rest.length + 4
decreasing_by
  · omega
  · omega

/-- Reading selectors counts braces, and does not fail with a stray. -/
theorem counts_parseSelectorList (close : Kind) (c : Cursor) :
    c.CountsOrFails stop (c.parseSelectorList close) := by
  rw [parseSelectorList]
  have inner : c.CountsOrFails stop (c.skipTrivia.parseSelectors close) :=
    .after c.countsTo_skipTrivia (counts_parseSelectors close c.skipTrivia)
  obtain ⟨error, last, parsed, failed, quiet⟩ | ⟨selectors, last, parsed, through⟩ := inner.cases
  · rw [parsed]
    exact countsOrFails_error failed quiet
  · rw [parsed]
    exact countsOrFails_ok through
termination_by 6 * c.rest.length + 5
decreasing_by
  have := c.length_skipTrivia
  omega

end

/-- What reading the selectors of a rule comes to. -/
theorem exists_counts_parseSelectorList {close : Kind}
    (keeps : KeepsSelectors c.rest (c.parseSelectorList close).2.rest) :
    (∃ error last, c.parseSelectorList close = (.error error, last) ∧ c.Counts last ∧ ¬ error.IsStray) ∨
      ∃ list last, c.parseSelectorList close = (.ok list, last) ∧ c.Counts last := by
  generalize stops : (c.parseSelectorList close).2.rest = stop at keeps
  have selectors : c.CountsOrFails stop (c.parseSelectorList close) := counts_parseSelectorList close c
  obtain ⟨error, last, parsed, failed, quiet⟩ | ⟨list, last, parsed, through⟩ := selectors.cases
  · rw [parsed] at stops
    exact .inl ⟨error, last, parsed, failed.counts keeps (Nat.le_of_eq (stops ▸ rfl)), quiet⟩
  · rw [parsed] at stops
    exact .inr ⟨list, last, parsed, through.counts keeps (Nat.le_of_eq (stops ▸ rfl))⟩

end Cursor

end ComponentStyles
