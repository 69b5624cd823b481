import ComponentStyles.Proofs.Stylesheet.Located.Selector
import ComponentStyles.Proofs.Stylesheet.Spans.Cursor

/-!
# The spans of selectors

A simple selector starts with its first token and stops with its last one. The name of a class is
the token right behind the dot, so that the span shows the two together.
-/

namespace ComponentStyles

open Token

theorem Token.text_of_spells_dot {text : Text} (spells : Kind.dot.Spells text) : text = ['.'] := by
  obtain ⟨c, isDot, rfl⟩ := matches_oneOf_iff.mp (spells.matches (by decide))
  obtain rfl : c = '.' := by simpa using isDot
  rfl

namespace Cursor

variable {before source text : Text}

theorem follows_parseSimple (c : Cursor) : c.Follows text c.parseSimple.2 :=
  ⟨(passes_parseSimple .blind c).suffix, (goes_parseSimple c).moves⟩

theorem follows_parseSelector (close : Kind) (c : Cursor) :
    c.Follows text (c.parseSelector close).2 :=
  ⟨(passes_parseSelector .blind close c).suffix, (goes_parseSelector close c).moves⟩

theorem follows_parseSelectorList (close : Kind) (c : Cursor) :
    c.Follows text (c.parseSelectorList close).2 :=
  (reads_parseSelectorList close c).follows (goes_parseSelectorList close c)

theorem faithful_closePseudo {start : Nat} {argument : PseudoArgument} (form : PseudoForm)
    (name : Text) {c : Cursor} (stands : c.Stands (before ++ source))
    (low : Text.size before ≤ start) (starts : start ≤ c.lastEnd)
    (faithful : argument.Faithful (Text.size before) source) :
    ∀ simple, (c.closePseudo start form name argument).1 = .ok simple →
      simple.span = ⟨start, (c.closePseudo start form name argument).2.lastEnd⟩ ∧
        simple.Faithful (Text.size before) source := by
  rw [closePseudo]
  split
  · rintro _ ⟨⟩
    refine ⟨rfl, .pseudo ((c.goes_advance.stands stands).liesIn_lastEnd low ?_) faithful⟩
    exact starts.trans (c.goes_advance.onward stands)
  · rintro _ ⟨⟩

/-- The sign or the name that a simple selector starts with is no trivia. -/
theorem solid_of_simple {token : Token}
    (starts : token.kind ∈ [.star, .identifier, .hash, .dot, .openBracket, .colon]) :
    token.isTrivia = false := by
  rw [Token.isTrivia]
  revert starts
  cases token.kind <;> decide

mutual

theorem lined_parseSimple (c : Cursor) (inside : c.Within before source) :
    ∀ simple, c.parseSimple.1 = .ok simple →
      Lined SimpleSelector.span (SimpleSelector.Faithful (Text.size before) source)
        (c.ahead (before ++ source)) c.parseSimple.2.lastEnd [simple] := by
  cases whole : c.rest with
  | nil =>
      rw [parseSimple_nil whole]
      exact nofun
  | cons token tail =>
      have shows := inside.shows whole
      have spells := inside.stands.spells whole
      have insideToo := inside.goOn c.follows_advance
      refine parseSimple_cases whole ?star ?element ?byId ?byClass ?unnamed ?closed ?unclosed
        ?ofElement ?ofClass ?other
      case star =>
        rintro kind _ ⟨⟩
        exact lined_token whole (solid_of_simple (by simp [kind])) rfl (.universal shows.liesIn)
      case element =>
        rintro kind _ ⟨⟩
        exact lined_token whole (solid_of_simple (by simp [kind])) rfl (.element shows)
      case byId =>
        rintro kind _ ⟨⟩
        obtain ⟨name, same⟩ := exists_hash_of_spells (kind ▸ spells)
        refine lined_token whole (solid_of_simple (by simp [kind])) rfl (.byId ?_)
        rwa [same] at shows ⊢
      case byClass =>
        rintro kind named _ ⟨⟩
        obtain ⟨name, rest, wholeToo, solidName⟩ := exists_solid named (by decide)
        have pair : c.rest = token :: name :: rest := by
          rw [whole, ← rest_advance whole, wholeToo]
        have both := inside.shows_pair pair
        have dot : token.text = ['.'] := text_of_spells_dot (kind ▸ spells)
        rw [dot] at both
        refine lined_through whole rfl (.byClass ?_)
        rwa [current_of_rest wholeToo, lastEnd_advance wholeToo solidName]
      case closed =>
        rintro kind _ _ ⟨⟩
        have raw : c.advance.Goes (before ++ source)
            (c.advance.readRaw [.closeBracket, .openBrace]).2 True := goes_readRaw (by decide) _
        exact inside.lined_from whole (solid_of_simple (by simp [kind])) (raw.trans (goes_advance _)) rfl
          .attribute
      case ofElement =>
        intro kind _ simple parsed
        have starts : token.span.start ≤ c.advance.lastEnd :=
          inside.start_le_lastEnd whole (solid_of_simple (by simp [kind])) (Goes.refl _)
        have follows : c.advance.Follows (before ++ source) c.advance.advance :=
          c.advance.follows_advance
        obtain ⟨same, faithful⟩ := faithful_parsePseudo token.span.start .ofElement
          c.advance.advance (insideToo.goOn follows) (inside.low_token whole)
          (starts.trans (follows.goes.onward insideToo.stands)) simple parsed
        exact lined_through whole same faithful
      case ofClass =>
        intro kind _ simple parsed
        have starts : token.span.start ≤ c.advance.lastEnd :=
          inside.start_le_lastEnd whole (solid_of_simple (by simp [kind])) (Goes.refl _)
        obtain ⟨same, faithful⟩ := faithful_parsePseudo token.span.start .ofClass c.advance
          insideToo (inside.low_token whole) starts simple parsed
        exact lined_through whole same faithful
      case unnamed | unclosed => exact fun _ _ => nofun
      case other => exact fun _ => nofun
termination_by 6 * c.rest.length
decreasing_by
  · have := c.advance.length_advance
    rw [length_advance, length_advance, whole, List.length_cons]
    omega
  · rw [length_advance, whole, List.length_cons]
    omega

theorem faithful_parsePseudo (start : Nat) (form : PseudoForm) (c : Cursor)
    (inside : c.Within before source) (low : Text.size before ≤ start)
    (starts : start ≤ c.lastEnd) :
    ∀ simple, (c.parsePseudo start form).1 = .ok simple →
      simple.span = ⟨start, (c.parsePseudo start form).2.lastEnd⟩ ∧
        simple.Faithful (Text.size before) source := by
  cases whole : c.rest with
  | nil =>
      rw [parsePseudo_nil start form whole]
      exact nofun
  | cons token tail =>
      have insideToo := inside.goOn c.follows_advance
      have startsToo := starts.trans (c.goes_advance.onward inside.stands)
      refine parsePseudo_cases whole ?other ?absent ?raw ?selectors
      case other => exact fun _ => nofun
      case absent =>
        rintro _ _ ⟨⟩
        exact ⟨rfl, .pseudo (insideToo.stands.liesIn_lastEnd low startsToo) .absent⟩
      case raw =>
        intro _ _
        have raw : c.advance.Goes (before ++ source)
            (c.advance.readRaw [.closeParen, .openBrace]).2 True := goes_readRaw (by decide) _
        exact faithful_closePseudo form _ (raw.stands insideToo.stands) low
          (startsToo.trans (raw.onward insideToo.stands)) .raw
      case selectors =>
        intro _ _
        have list := faithful_parseSelectorList .closeParen c.advance insideToo
        have goes : c.advance.Goes (before ++ source)
            (c.advance.parseSelectorList .closeParen).2.skipTrivia _ :=
          (goes_parseSelectorList .closeParen c.advance).trans (goes_skipTrivia _)
        rcases parsed : c.advance.parseSelectorList .closeParen with ⟨error | selectors, last⟩
        · exact nofun
        rw [parsed] at list goes
        obtain ⟨within, ordered, faithful⟩ := list selectors rfl
        exact faithful_closePseudo form _ (goes.stands insideToo.stands) low
          (startsToo.trans (goes.onward insideToo.stands))
          (.selectors within ordered faithful)
termination_by 6 * c.rest.length + 1
decreasing_by
  rw [length_advance, whole, List.length_cons]
  omega

theorem lined_parseParts (close : Kind) (combinator : Combinator) (started : Bool) (c : Cursor)
    (inside : c.Within before source) :
    ∀ found, (c.parseParts close combinator started).1 = .ok found →
      Lined SelectorPart.span (SelectorPart.Faithful (Text.size before) source)
        (c.ahead (before ++ source)) (c.parseParts close combinator started).2.lastEnd found.1 := by
  cases whole : c.rest with
  | nil =>
      rw [parseParts_nil close combinator started whole]
      rintro _ ⟨⟩
      exact lined_nil
  | cons token tail =>
      have insideToo := inside.goOn c.follows_advance
      have onward := inside.stands.ahead_le_of_suffix c.reads_advance.suffix
      refine parseParts_cases whole ?blank ?sign ?ends ?part
      case blank =>
        exact fun _ found parsed => (lined_parseParts close _ started c.advance insideToo found
          parsed).widen onward (Nat.le_refl _)
      case sign =>
        exact fun _ _ found parsed => (lined_parseParts close _ started c.advance insideToo found
          parsed).widen onward (Nat.le_refl _)
      case ends =>
        rintro _ _ _ ⟨⟩
        exact lined_nil
      case part =>
        intro _ _
        have first := lined_parseSimple c inside
        have follows : c.Follows (before ++ source) c.parseSimple.2 := c.follows_parseSimple
        rcases parsed : c.parseSimple with ⟨error | simple, next⟩
        · exact nofun
        rw [parsed] at first follows
        have part : Lined SelectorPart.span (SelectorPart.Faithful (Text.size before) source) _ _
            [.mk combinator simple] :=
          (first simple rfl).map (fun _ => rfl) fun _ => .mk
        dsimp only
        split
        case isFalse =>
          rintro _ ⟨⟩
          exact part
        have later := lined_parseParts close .same true next (inside.goOn follows)
        have goes : next.GoesOrFails (before ++ source) (next.parseParts close .same true) :=
          goes_parseParts close .same true next
        rcases parsedToo : next.parseParts close .same true with ⟨error | found, last⟩
        · exact nofun
        rw [parsedToo] at later goes
        rintro _ ⟨⟩
        exact inside.lined_append follows goes part (later found rfl)
termination_by 6 * c.rest.length + 2
decreasing_by
  all_goals first
    | omega
    | rw [length_advance, whole, List.length_cons]
      omega

theorem lined_parseSelector (close : Kind) (c : Cursor) (inside : c.Within before source) :
    ∀ selector, (c.parseSelector close).1 = .ok selector →
      Lined Selector.span (Selector.Faithful (Text.size before) source)
        (c.ahead (before ++ source)) (c.parseSelector close).2.lastEnd [selector] := by
  rw [parseSelector]
  cases whole : c.rest with
  | nil =>
      -- Where nothing is left no part is found, and without parts there is no selector.
      rw [parseParts_nil close .same false whole]
      exact nofun
  | cons token tail =>
      have inner := lined_parseParts close .same false c inside
      have goes : c.GoesOrFails (before ++ source) (c.parseParts close .same false) :=
        goes_parseParts close .same false c
      rcases parsed : c.parseParts close .same false with ⟨error | found, last⟩
      · exact nofun
      rw [parsed] at inner goes
      have parts := inner found rfl
      dsimp only
      split
      case isTrue => exact nofun
      case isFalse notEmpty =>
        split
        case isFalse => exact nofun
        case isTrue =>
          rintro _ ⟨⟩
          rw [current_of_rest whole]
          have through : token.span.start ≤ last.lastEnd := by
            rw [← ahead_of_rest whole]
            exact parts.low_le_high (by simpa using notEmpty) fun _ faithful =>
              faithful.liesIn.ordered
          have behind := goes.stands inside.stands
          have within := behind.liesIn_lastEnd (inside.low_token whole) through
          exact lined_through whole rfl (.mk within parts.ordered parts.good)
termination_by 6 * c.rest.length + 3
decreasing_by omega

theorem lined_parseSelectors (close : Kind) (c : Cursor) (inside : c.Within before source) :
    ∀ list, (c.parseSelectors close).1 = .ok list → list ≠ [] ∧
      Lined Selector.span (Selector.Faithful (Text.size before) source)
        (c.ahead (before ++ source)) (c.parseSelectors close).2.lastEnd list := by
  rw [parseSelectors]
  have first := lined_parseSelector close c inside
  have follows : c.Follows (before ++ source) (c.parseSelector close).2 :=
    follows_parseSelector close c
  rcases parsed : c.parseSelector close with ⟨error | selector, last⟩
  · exact nofun
  rw [parsed] at first follows
  have selectors := first selector rfl
  dsimp only
  split
  case isFalse =>
    rintro _ ⟨⟩
    exact ⟨List.cons_ne_nil _ _, selectors⟩
  have stepped : last.Follows (before ++ source) last.advance.skipTrivia := last.follows_step
  -- The comma and the blanks behind it belong to neither selector.
  have passed := selectors.widen (Nat.le_refl _)
    (stepped.goes.onward (follows.goes.stands inside.stands))
  split
  case isFalse =>
    rintro _ ⟨⟩
    exact ⟨List.cons_ne_nil _ _, passed⟩
  have step := follows.trans stepped
  have later := lined_parseSelectors close last.advance.skipTrivia (inside.goOn step)
  have goes : last.advance.skipTrivia.GoesOrFails (before ++ source)
      (last.advance.skipTrivia.parseSelectors close) := goes_parseSelectors close _
  rcases parsedToo : last.advance.skipTrivia.parseSelectors close with ⟨error | list, lastToo⟩
  · exact nofun
  rw [parsedToo] at later goes
  rintro _ ⟨⟩
  exact ⟨List.cons_ne_nil _ _, inside.lined_append step goes passed (later list rfl).2⟩
termination_by 6 * c.rest.length + 4
decreasing_by
  · omega
  · omega

theorem faithful_parseSelectorList (close : Kind) (c : Cursor) (inside : c.Within before source) :
    ∀ list, (c.parseSelectorList close).1 = .ok list →
      list.Faithful (Text.size before) source := by
  rw [parseSelectorList]
  have insideToo := inside.goOn c.follows_skipTrivia
  have inner := lined_parseSelectors close c.skipTrivia insideToo
  have goes : c.skipTrivia.GoesOrFails (before ++ source) (c.skipTrivia.parseSelectors close) :=
    goes_parseSelectors close c.skipTrivia
  rcases parsed : c.skipTrivia.parseSelectors close with ⟨error | list, last⟩
  · exact nofun
  rw [parsed] at inner goes
  rintro _ ⟨⟩
  obtain ⟨notEmpty, selectors⟩ := inner list rfl
  refine ⟨?_, selectors.ordered, selectors.good⟩
  refine (goes.stands insideToo.stands).liesIn_lastEnd insideToo.low_current ?_
  exact insideToo.stands.current_le_ahead.trans
    (selectors.low_le_high notEmpty fun _ faithful => faithful.liesIn.ordered)
termination_by 6 * c.rest.length + 5
decreasing_by
  have := c.length_skipTrivia
  omega

end

end Cursor

end ComponentStyles
