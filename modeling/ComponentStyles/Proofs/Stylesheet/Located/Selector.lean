import ComponentStyles.Proofs.Stylesheet.Located.Cursor
import ComponentStyles.Proofs.Stylesheet.Parser.Selector

/-!
# Where selectors fail

Reading a selector stops at the first problem and hands the error back, so it is the handed back
error that must point into the text.
-/

namespace ComponentStyles.Cursor

open Token

variable {text : Text} {c last : Cursor} {found : Prop} {Tree Other : Type}

section Outcomes

/-- A step that may fail keeps standing in a text, and the error it fails with points there. -/
def GoesOrFails (text : Text) (c : Cursor) (result : Except ParseError Tree × Cursor) : Prop :=
  c.Goes text result.2 (∀ error, result.1 = .error error → error.span.IsWithin text)

theorem goesOrFails_ok {tree : Tree} (goes : c.Goes text last found) :
    c.GoesOrFails text (Except.ok tree, last) :=
  goes.imp fun _ _ => nofun

theorem goesOrFails_error {error : ParseError}
    (goes : c.Goes text last (error.span.IsWithin text)) :
    c.GoesOrFails text ((Except.error error : Except ParseError Tree), last) := by
  refine goes.imp fun _ within => ?_
  rintro _ ⟨⟩
  exact within

theorem GoesOrFails.cases {result : Except ParseError Tree × Cursor}
    (goes : c.GoesOrFails text result) :
    (∃ error last, result = (.error error, last) ∧ c.Goes text last (error.span.IsWithin text)) ∨
      ∃ tree last, result = (.ok tree, last) ∧ c.Goes text last True := by
  obtain ⟨outcome, last⟩ := result
  cases outcome with
  | error error => exact .inl ⟨error, last, rfl, goes.imp fun _ within => within error rfl⟩
  | ok tree => exact .inr ⟨tree, last, rfl, goes.moves⟩

theorem GoesOrFails.after {result : Except ParseError Tree × Cursor}
    (goes : c.Goes text last found) (later : last.GoesOrFails text result) :
    c.GoesOrFails text result :=
  (goes.trans later).imp fun _ found => found.2

theorem goesOrFails_selectorError (c : Cursor) (fault : SelectorFault) :
    c.GoesOrFails text (c.selectorError fault : Except ParseError Tree × Cursor) :=
  goesOrFails_error ((Goes.refl c).imp fun stands _ => stands.current)

theorem goesOrFails_closePseudo (c : Cursor) (start : Nat) (form : PseudoForm) (name : Text)
    (argument : PseudoArgument) :
    c.GoesOrFails text (c.closePseudo start form name argument) := by
  rw [closePseudo]
  split
  · exact goesOrFails_ok c.goes_advance
  · exact c.goesOrFails_selectorError _

end Outcomes

mutual

theorem goes_parseSimple (c : Cursor) : c.GoesOrFails text c.parseSimple := by
  have here : c.Goes text c (c.current.span.IsWithin text) :=
    (Goes.refl c).imp fun stands _ => stands.current
  cases whole : c.rest with
  | nil =>
      rw [parseSimple_nil whole]
      exact goesOrFails_error here
  | cons token tail =>
      have raw : c.Goes text (c.advance.readRaw [.closeBracket, .openBrace]).2 _ :=
        c.goes_advance.trans (goes_readRaw (by decide) c.advance)
      refine parseSimple_cases whole ?star ?element ?byId ?byClass ?unnamed ?closed ?unclosed
        ?ofElement ?ofClass ?other
      case star | element | byId => exact fun _ => goesOrFails_ok c.goes_advance
      case byClass => exact fun _ _ => goesOrFails_ok (c.goes_advance.trans (goes_advance _))
      case unnamed => exact fun _ _ => .after c.goes_advance (goesOrFails_selectorError _ _)
      case closed => exact fun _ _ => goesOrFails_ok (raw.trans (goes_advance _))
      case unclosed => exact fun _ _ => .after raw (goesOrFails_selectorError _ _)
      case ofElement =>
        exact fun _ _ => .after (c.goes_advance.trans (goes_advance _)) (goes_parsePseudo _ _ _)
      case ofClass => exact fun _ _ => .after c.goes_advance (goes_parsePseudo _ _ _)
      case other =>
        intro _
        rw [← current_of_rest whole]
        exact goesOrFails_error here
termination_by 6 * c.rest.length
decreasing_by
  · have := c.advance.length_advance
    rw [length_advance, length_advance, whole, List.length_cons]
    omega
  · rw [length_advance, whole, List.length_cons]
    omega

theorem goes_parsePseudo (start : Nat) (form : PseudoForm) (c : Cursor) :
    c.GoesOrFails text (c.parsePseudo start form) := by
  cases whole : c.rest with
  | nil =>
      rw [parsePseudo_nil start form whole]
      exact c.goesOrFails_selectorError _
  | cons token tail =>
      refine parsePseudo_cases whole ?other ?absent ?raw ?selectors
      case other => exact fun _ => c.goesOrFails_selectorError _
      case absent => exact fun _ => goesOrFails_ok c.goes_advance
      case raw =>
        exact fun _ _ => .after (c.goes_advance.trans (goes_readRaw (by decide) _))
          (goesOrFails_closePseudo _ _ _ _ _)
      case selectors =>
        intro _ _
        have inner : c.GoesOrFails text (c.advance.parseSelectorList .closeParen) :=
          .after c.goes_advance (goes_parseSelectorList .closeParen c.advance)
        obtain ⟨error, last, parsed, failed⟩ | ⟨list, last, parsed, through⟩ := inner.cases
        · rw [parsed]
          exact goesOrFails_error failed
        · rw [parsed]
          exact .after (through.trans (goes_skipTrivia _)) (goesOrFails_closePseudo _ _ _ _ _)
termination_by 6 * c.rest.length + 1
decreasing_by
  rw [length_advance, whole, List.length_cons]
  omega

theorem goes_parseParts (close : Kind) (combinator : Combinator) (started : Bool) (c : Cursor) :
    c.GoesOrFails text (c.parseParts close combinator started) := by
  cases whole : c.rest with
  | nil =>
      rw [parseParts_nil close combinator started whole]
      exact goesOrFails_ok (Goes.refl c)
  | cons token tail =>
      refine parseParts_cases whole ?blank ?sign ?ends ?part
      case blank => exact fun _ => .after c.goes_advance (goes_parseParts close _ started c.advance)
      case sign => exact fun _ _ => .after c.goes_advance (goes_parseParts close _ started c.advance)
      case ends => exact fun _ _ => goesOrFails_ok (Goes.refl c)
      case part =>
        intro _ _
        have first : c.GoesOrFails text c.parseSimple := goes_parseSimple c
        obtain ⟨error, last, parsed, failed⟩ | ⟨simple, next, parsed, first⟩ := first.cases
        · rw [parsed]
          exact goesOrFails_error failed
        rw [parsed]
        dsimp only
        split
        case isFalse => exact goesOrFails_ok first
        have later := GoesOrFails.after first (goes_parseParts close .same true next)
        obtain ⟨error, last, parsedToo, failed⟩ | ⟨parts, last, parsedToo, through⟩ := later.cases
        · rw [parsedToo]
          exact goesOrFails_error failed
        · rw [parsedToo]
          exact goesOrFails_ok through
termination_by 6 * c.rest.length + 2
decreasing_by
  all_goals first
    | omega
    | rw [length_advance, whole, List.length_cons]
      omega

theorem goes_parseSelector (close : Kind) (c : Cursor) :
    c.GoesOrFails text (c.parseSelector close) := by
  rw [parseSelector]
  have inner : c.GoesOrFails text (c.parseParts close .same false) :=
    goes_parseParts close .same false c
  obtain ⟨error, last, parsed, failed⟩ | ⟨parts, last, parsed, through⟩ := inner.cases
  · rw [parsed]
    exact goesOrFails_error failed
  rw [parsed]
  dsimp only
  split
  · exact .after through (last.goesOrFails_selectorError _)
  split
  · exact goesOrFails_ok through
  · exact .after through (last.goesOrFails_selectorError _)
termination_by 6 * c.rest.length + 3
decreasing_by omega

theorem goes_parseSelectors (close : Kind) (c : Cursor) :
    c.GoesOrFails text (c.parseSelectors close) := by
  rw [parseSelectors]
  have first : c.GoesOrFails text (c.parseSelector close) := goes_parseSelector close c
  obtain ⟨error, last, parsed, failed⟩ | ⟨selector, last, parsed, through⟩ := first.cases
  · rw [parsed]
    exact goesOrFails_error failed
  rw [parsed]
  dsimp only
  split
  case isFalse => exact goesOrFails_ok through
  have behind := (through.trans (goes_advance last)).trans (goes_skipTrivia _)
  split
  case isFalse => exact goesOrFails_ok behind
  have later := GoesOrFails.after behind (goes_parseSelectors close last.advance.skipTrivia)
  obtain ⟨error, last, parsedToo, failed⟩ | ⟨selectors, last, parsedToo, through⟩ := later.cases
  · rw [parsedToo]
    exact goesOrFails_error failed
  · rw [parsedToo]
    exact goesOrFails_ok through
termination_by 6 * c.rest.length + 4
decreasing_by
  · omega
  · omega

/-- Reading selectors stands in the text, and fails there. -/
theorem goes_parseSelectorList (close : Kind) (c : Cursor) :
    c.GoesOrFails text (c.parseSelectorList close) := by
  rw [parseSelectorList]
  have inner : c.GoesOrFails text (c.skipTrivia.parseSelectors close) :=
    .after c.goes_skipTrivia (goes_parseSelectors close c.skipTrivia)
  obtain ⟨error, last, parsed, failed⟩ | ⟨selectors, last, parsed, through⟩ := inner.cases
  · rw [parsed]
    exact goesOrFails_error failed
  · rw [parsed]
    exact goesOrFails_ok through
termination_by 6 * c.rest.length + 5
decreasing_by
  have := c.length_skipTrivia
  omega

end

end ComponentStyles.Cursor
