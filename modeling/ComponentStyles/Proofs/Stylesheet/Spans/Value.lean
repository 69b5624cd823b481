import ComponentStyles.Proofs.Stylesheet.Located.Value
import ComponentStyles.Proofs.Stylesheet.Spans.Cursor

/-!
# The spans of values

Each term stands between the token that is next when the term is read and the end of the last token
read for it, so the terms of a row stand one behind the other, whatever is refused between them.
Only the fallback of a usage may be read where nothing is left; it is empty then, at the end of the
source.
-/

namespace ComponentStyles.Cursor

open Token

variable {before source text : Text}

theorem follows_parseTerm (c : Cursor) : c.Follows text c.parseTerm.2 :=
  (reads_parseTerm c).follows (goes_parseTerm c)

theorem span_parseValue (c : Cursor) : c.parseValue.1.span =
    if c.skipTrivia.parseTerms.1.isEmpty then .emptyAt c.skipTrivia.current.span.start
    else ⟨c.skipTrivia.current.span.start, c.skipTrivia.parseTerms.2.lastEnd⟩ := by
  rw [parseValue]

theorem faithful_parseFallback {c behind : Cursor}
    (parsed : ∀ term ∈ behind.advance.skipTrivia.parseTerm.1,
      term.Faithful (Text.size before) source) :
    ∀ term ∈ (c.parseFallback behind).1, term.Faithful (Text.size before) source := by
  unfold parseFallback
  dsimp only
  split
  · exact nofun
  split
  · exact nofun
  split
  · exact parsed
  · exact parsed

mutual

theorem lined_parseTerm (c : Cursor) {token : Token} {tail : List Token}
    (inside : c.Within before source) (whole : c.rest = token :: tail)
    (solid : token.isTrivia = false) :
    Lined Term.span (Term.Faithful (Text.size before) source) (c.ahead (before ++ source))
      c.parseTerm.2.lastEnd c.parseTerm.1.toList := by
  have shows := inside.shows whole
  have insideToo := inside.goOn c.follows_advance
  have arguments : c.advance.parseValue.1.Faithful (Text.size before) source :=
    faithful_parseValue c.advance insideToo
  have goes : c.advance.Goes (before ++ source) _ _ :=
    (goes_parseValue c.advance).trans (goes_expect _ .closeParen)
  refine parseTerm_cases whole ?single ?comma ?slash ?url ?usage ?call ?paren ?refused
  case single => exact fun _ => lined_token whole solid rfl (.literal shows)
  case comma | slash => exact fun _ => lined_token whole solid rfl (.operator shows.liesIn)
  case url => exact fun _ => lined_token whole solid rfl (.url shows.liesIn)
  case usage =>
    intro _ _ _
    have starts : token.span.start ≤ c.advance.lastEnd :=
      inside.start_le_lastEnd whole solid (Goes.refl _)
    have found := faithful_parseUsage token.span.start c.advance insideToo
      (inside.low_token whole) starts
    cases parsed : (c.advance.parseUsage token.span.start).1 with
    | none => exact lined_nil
    | some term =>
        obtain ⟨same, faithful⟩ := found term parsed
        exact lined_through whole same faithful
  case call | paren =>
    intros
    exact inside.lined_from whole solid goes rfl fun within =>
      .call within arguments.span arguments.ordered arguments.terms
  case refused => exact fun _ => lined_nil
termination_by 4 * c.rest.length
decreasing_by
  all_goals
    rw [length_advance, whole, List.length_cons]
    omega

/-- A usage goes from where its function token starts to what is read last for it. -/
theorem faithful_parseUsage (start : Nat) (c : Cursor) (inside : c.Within before source)
    (low : Text.size before ≤ start) (starts : start ≤ c.lastEnd) :
    ∀ term ∈ (c.parseUsage start).1, term.span = ⟨start, (c.parseUsage start).2.lastEnd⟩ ∧
      term.Faithful (Text.size before) source := by
  have goes : c.Goes (before ++ source) (c.parseUsage start).2 _ := goes_parseUsage start c
  have within := (goes.stands inside.stands).liesIn_lastEnd low
    (starts.trans (goes.onward inside.stands))
  by_cases isName : c.skipTrivia.kind = .identifier
  · rw [parseUsage_named isName] at within ⊢
    have body := inside.goOn ((c.follows_skipTrivia.trans (follows_step _)).trans (follows_step _))
    have parsed : ∀ term ∈ c.skipTrivia.advance.skipTrivia.advance.skipTrivia.parseTerm.1,
        term.Faithful (Text.size before) source := by
      cases whole : c.skipTrivia.advance.skipTrivia.advance.skipTrivia.rest with
      | nil =>
          rw [parseTerm_nil whole]
          rintro _ ⟨⟩
          exact .literal (body.shows_end whole)
      | cons token tail =>
          have found := lined_parseTerm _ body whole (solid_skipTrivia whole)
          exact fun term parsed => found.good term (Option.mem_toList.mpr parsed)
    rintro _ ⟨⟩
    exact ⟨rfl, .usage within (faithful_parseFallback parsed)⟩
  · rw [parseUsage_unnamed isName]
    exact nofun
termination_by 4 * c.rest.length + 2
decreasing_by
  have := c.skipTrivia.advance.skipTrivia.length_step_le
  have := c.skipTrivia.length_step_le
  have := c.length_skipTrivia
  omega

theorem lined_parseTerms (c : Cursor) (inside : c.Within before source) :
    Lined Term.span (Term.Faithful (Text.size before) source) (c.ahead (before ++ source))
      c.parseTerms.2.lastEnd c.parseTerms.1 := by
  cases ends : c.skipTrivia.atValueEnd with
  | true =>
      rw [parseTerms_end ends]
      exact lined_nil
  | false =>
      have notOver : c.skipTrivia.kind ≠ .endOfInput := by
        intro same
        simp [atValueEnd, same] at ends
      obtain ⟨token, tail, whole⟩ := exists_rest_of_kind notOver
      have insideToo := inside.goOn c.follows_skipTrivia
      have first := lined_parseTerm c.skipTrivia insideToo whole (solid_skipTrivia whole)
      have passed : c.ahead (before ++ source) ≤ c.skipTrivia.ahead (before ++ source) :=
        inside.stands.ahead_le_of_suffix c.reads_skipTrivia.suffix
      by_cases shorter : c.skipTrivia.parseTerm.2.rest.length < c.skipTrivia.rest.length
      · rw [parseTerms_more ends shorter]
        have step : c.skipTrivia.Follows (before ++ source) _ := follows_parseTerm c.skipTrivia
        have later := lined_parseTerms c.skipTrivia.parseTerm.2 (insideToo.goOn step)
        exact (insideToo.lined_append step (goes_parseTerms _) first later).widen passed
          (Nat.le_refl _)
      · rw [parseTerms_stuck ends shorter]
        exact first.widen passed (Nat.le_refl _)
termination_by 4 * c.rest.length + 1
decreasing_by
  all_goals
    have := c.length_skipTrivia
    omega

theorem faithful_parseValue (c : Cursor) (inside : c.Within before source) :
    c.parseValue.1.Faithful (Text.size before) source := by
  obtain ⟨terms, last⟩ := c.parseValue_eq
  have insideToo := inside.goOn c.follows_skipTrivia
  have found := lined_parseTerms c.skipTrivia insideToo
  refine ⟨?_, terms ▸ found.ordered, terms ▸ found.good⟩
  rw [span_parseValue]
  split
  · exact insideToo.liesIn_emptyAt_current
  case isFalse notEmpty =>
    have behind := (goes_parseTerms c.skipTrivia).stands insideToo.stands
    refine behind.liesIn_lastEnd insideToo.low_current ?_
    exact insideToo.stands.current_le_ahead.trans
      (found.low_le_high (by simpa using notEmpty) fun _ faithful => faithful.liesIn.ordered)
termination_by 4 * c.rest.length + 2
decreasing_by
  have := c.length_skipTrivia
  omega

end

end ComponentStyles.Cursor
