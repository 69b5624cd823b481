import ComponentStyles.Proofs.Stylesheet.Parser.Selector
import ComponentStyles.Proofs.Stylesheet.Shifted.Cursor

/-!
# Selectors further on

Reading selectors commutes with the shift, and where it fails it fails with the same problem further
on.
-/

namespace ComponentStyles.Cursor

open Token

variable {distance : Nat}

section Outcomes

variable {Tree Other : Type}

/-- The tree or the error that a step ends with, further on. -/
def shiftOutcome (distance : Nat) (further : Tree → Other) :
    Except ParseError Tree → Except ParseError Other
  | .ok tree => .ok (further tree)
  | .error error => .error (error.shift distance)

theorem selectorError_shift (further : Tree → Other) (c : Cursor) (fault : SelectorFault) :
    (c.shift distance).selectorError fault =
      (c.selectorError fault).map (shiftOutcome distance further) (shift distance) := by
  rw [selectorError, selectorError, current_shift]
  rfl

theorem closePseudo_shift (c : Cursor) (start : Nat) (form : PseudoForm) (name : Text)
    (argument : PseudoArgument) :
    (c.shift distance).closePseudo (start + distance) form name (argument.shift distance) =
      (c.closePseudo start form name argument).map
        (shiftOutcome distance (SimpleSelector.shift distance)) (shift distance) := by
  rw [closePseudo, closePseudo, kind_shift]
  split
  · rw [advance_shift]
    rfl
  · exact selectorError_shift _ c _

end Outcomes

mutual

theorem parseSimple_shift (c : Cursor) :
    (c.shift distance).parseSimple =
      c.parseSimple.map (shiftOutcome distance (SimpleSelector.shift distance))
        (shift distance) := by
  cases whole : c.rest with
  | nil =>
      rw [parseSimple_nil whole, parseSimple_nil (rest_shift_of_nil whole), current_shift]
      rfl
  | cons token tail =>
      have wholeToo : (c.shift distance).rest = _ := rest_shift_of_rest whole
      refine parseSimple_cases whole ?star ?element ?byId ?byClass ?unnamed ?closed ?unclosed
        ?ofElement ?ofClass ?other
      case star =>
        intro kind
        rw [parseSimple_star wholeToo kind, advance_shift]
        rfl
      case element =>
        intro kind
        rw [parseSimple_element wholeToo kind, advance_shift]
        rfl
      case byId =>
        intro kind
        rw [parseSimple_byId wholeToo kind, advance_shift]
        rfl
      case byClass =>
        intro kind named
        rw [parseSimple_byClass wholeToo kind (by simpa using named)]
        simp only [advance_shift, current_shift]
        rfl
      case unnamed =>
        intro kind unnamed
        rw [parseSimple_unnamed wholeToo kind (by simpa using unnamed), advance_shift]
        exact selectorError_shift _ _ _
      case closed =>
        intro kind closes
        rw [parseSimple_attribute wholeToo kind (by simpa using closes)]
        simp only [advance_shift, readRaw_shift, Prod.map_fst, Prod.map_snd]
        rfl
      case unclosed =>
        intro kind unclosed
        rw [parseSimple_unclosed wholeToo kind (by simpa using unclosed), advance_shift,
          readRaw_shift]
        exact selectorError_shift _ _ _
      case ofElement =>
        intro kind again
        rw [parseSimple_ofElement wholeToo kind (by simpa using again), advance_shift,
          advance_shift]
        exact parsePseudo_shift _ _ c.advance.advance
      case ofClass =>
        intro kind once
        rw [parseSimple_ofClass wholeToo kind (by simpa using once), advance_shift]
        exact parsePseudo_shift _ _ c.advance
      case other =>
        intro other
        rw [parseSimple_other wholeToo other]
        rfl
termination_by 6 * c.rest.length
decreasing_by
  · have := c.advance.length_advance
    rw [length_advance, length_advance, whole, List.length_cons]
    omega
  · rw [length_advance, whole, List.length_cons]
    omega

theorem parsePseudo_shift (start : Nat) (form : PseudoForm) (c : Cursor) :
    (c.shift distance).parsePseudo (start + distance) form =
      (c.parsePseudo start form).map (shiftOutcome distance (SimpleSelector.shift distance))
        (shift distance) := by
  cases whole : c.rest with
  | nil =>
      rw [parsePseudo_nil _ form whole, parsePseudo_nil _ form (rest_shift_of_nil whole)]
      exact selectorError_shift _ c _
  | cons token tail =>
      have wholeToo : (c.shift distance).rest = _ := rest_shift_of_rest whole
      refine parsePseudo_cases whole ?other ?absent ?raw ?selectors
      case other =>
        intro other
        rw [parsePseudo_other _ form wholeToo other]
        exact selectorError_shift _ c _
      case absent =>
        intro kind
        rw [parsePseudo_absent _ form wholeToo kind, advance_shift]
        rfl
      case raw =>
        intro kind takesText
        rw [parsePseudo_raw _ form wholeToo kind takesText, advance_shift, readRaw_shift]
        exact closePseudo_shift _ _ _ _ (.raw _)
      case selectors =>
        intro kind takesList
        have inner : (c.advance.shift distance).parseSelectorList .closeParen = _ :=
          parseSelectorList_shift .closeParen c.advance
        rw [parsePseudo_selectors _ form wholeToo kind takesList, advance_shift, inner]
        rcases c.advance.parseSelectorList .closeParen with ⟨error | list, last⟩
        · rfl
        · simp only [Prod.map_apply, shiftOutcome, skipTrivia_shift]
          exact closePseudo_shift _ _ _ _ (.selectors _ _)
termination_by 6 * c.rest.length + 1
decreasing_by
  rw [length_advance, whole, List.length_cons]
  omega

theorem parseParts_shift (close : Kind) (combinator : Combinator) (started : Bool) (c : Cursor) :
    (c.shift distance).parseParts close combinator started =
      (c.parseParts close combinator started).map
        (shiftOutcome distance (Prod.map (shiftParts distance) id)) (shift distance) := by
  cases whole : c.rest with
  | nil =>
      rw [parseParts_nil close combinator started whole,
        parseParts_nil close combinator started (rest_shift_of_nil whole)]
      rfl
  | cons token tail =>
      have wholeToo : (c.shift distance).rest = _ := rest_shift_of_rest whole
      refine parseParts_cases whole ?blank ?sign ?ends ?part
      case blank =>
        intro trivia
        rw [parseParts_trivia close combinator started wholeToo trivia, advance_shift]
        exact parseParts_shift close _ started c.advance
      case sign =>
        intro _ sign
        rw [parseParts_sign close combinator started wholeToo sign, advance_shift]
        exact parseParts_shift close _ started c.advance
      case ends =>
        intro isPart ends
        rw [parseParts_end close combinator started wholeToo isPart ends]
        rfl
      case part =>
        intro isPart inside
        have first : (c.shift distance).parseSimple = _ := parseSimple_shift c
        rw [parseParts_part close combinator started wholeToo isPart inside, first]
        rcases c.parseSimple with ⟨error | simple, next⟩
        · rfl
        simp only [Prod.map_apply, shiftOutcome, length_rest_shift]
        split
        case isFalse => rfl
        have later : (next.shift distance).parseParts close .same true = _ :=
          parseParts_shift close .same true next
        rw [later]
        rcases next.parseParts close .same true with ⟨error | ⟨parts, dangling⟩, last⟩
        · rfl
        · rfl
termination_by 6 * c.rest.length + 2
decreasing_by
  all_goals first
    | omega
    | rw [length_advance, whole, List.length_cons]
      omega

theorem parseSelector_shift (close : Kind) (c : Cursor) :
    (c.shift distance).parseSelector close =
      (c.parseSelector close).map (shiftOutcome distance (Selector.shift distance))
        (shift distance) := by
  have inner : (c.shift distance).parseParts close .same false = _ :=
    parseParts_shift close .same false c
  rw [parseSelector, parseSelector, inner]
  rcases c.parseParts close .same false with ⟨error | ⟨parts, dangling⟩, last⟩
  · rfl
  have sameEmpty : (shiftParts distance parts).isEmpty = parts.isEmpty := by
    rcases parts with _ | ⟨⟨_, _⟩, _⟩ <;> rfl
  simp only [Prod.map_apply, shiftOutcome, sameEmpty, current_shift, id_eq]
  split
  · exact selectorError_shift _ last _
  split
  · rfl
  · exact selectorError_shift _ last _
termination_by 6 * c.rest.length + 3
decreasing_by omega

theorem parseSelectors_shift (close : Kind) (c : Cursor) :
    (c.shift distance).parseSelectors close =
      (c.parseSelectors close).map (shiftOutcome distance (shiftSelectors distance))
        (shift distance) := by
  have first : (c.shift distance).parseSelector close = _ := parseSelector_shift close c
  rw [parseSelectors, parseSelectors.eq_def close c, first]
  rcases c.parseSelector close with ⟨error | selector, last⟩
  · rfl
  simp only [Prod.map_apply, shiftOutcome, kind_shift, advance_shift, skipTrivia_shift,
    length_rest_shift]
  split
  case isFalse => rfl
  split
  case isFalse => rfl
  have later : (last.advance.skipTrivia.shift distance).parseSelectors close = _ :=
    parseSelectors_shift close last.advance.skipTrivia
  rw [later]
  rcases last.advance.skipTrivia.parseSelectors close with ⟨error | selectors, last⟩
  · rfl
  · rfl
termination_by 6 * c.rest.length + 4

theorem parseSelectorList_shift (close : Kind) (c : Cursor) :
    (c.shift distance).parseSelectorList close =
      (c.parseSelectorList close).map (shiftOutcome distance (SelectorList.shift distance))
        (shift distance) := by
  have inner : (c.skipTrivia.shift distance).parseSelectors close = _ :=
    parseSelectors_shift close c.skipTrivia
  rw [parseSelectorList, parseSelectorList.eq_def close c, skipTrivia_shift, inner]
  dsimp only
  rcases c.skipTrivia.parseSelectors close with ⟨error | selectors, last⟩
  · rfl
  · simp only [Prod.map_apply, shiftOutcome, current_shift]
    rfl
termination_by 6 * c.rest.length + 5
decreasing_by
  have := c.length_skipTrivia
  omega

end

end ComponentStyles.Cursor
