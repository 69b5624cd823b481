import ComponentStyles.Proofs.Stylesheet.Parser.Value
import ComponentStyles.Proofs.Stylesheet.Shifted.Cursor

/-!
# Values further on

Reading a value commutes with the shift. Every step goes by the kinds and the texts of tokens, which
are the same further on, and the guards of the recursions by how many tokens are left.
-/

namespace ComponentStyles.Cursor

open Token

variable {distance : Nat}

@[simp] theorem atValueEnd_shift (c : Cursor) :
    (c.shift distance).atValueEnd = c.atValueEnd := by
  rw [atValueEnd, atValueEnd, kind_shift]

@[simp] theorem atFallbackEnd_shift (c : Cursor) :
    (c.shift distance).atFallbackEnd = c.atFallbackEnd := by
  rw [atFallbackEnd, atFallbackEnd, kind_shift]

@[simp] theorem atCustomProperty_shift (c : Cursor) :
    (c.shift distance).atCustomProperty = c.atCustomProperty := by
  simp only [atCustomProperty, significant, skipTrivia_shift, current_shift]
  rfl

theorem parseFallback_shift {c : Cursor} (behind : Cursor)
    (parsed : (behind.advance.skipTrivia.shift distance).parseTerm =
      behind.advance.skipTrivia.parseTerm.map (Option.map (Term.shift distance)) (shift distance))
    (skips : ∀ failed : Cursor, failed.rest.length ≤ c.rest.length →
      (failed.shift distance).skipFallback = failed.skipFallback.shift distance) :
    (c.shift distance).parseFallback (behind.shift distance) =
      (c.parseFallback behind).map (Option.map (Term.shift distance)) (shift distance) := by
  unfold parseFallback
  simp only [kind_shift, advance_shift, skipTrivia_shift, parsed, report_shift, Prod.map_fst,
    Prod.map_snd, length_rest_shift]
  split
  · rfl
  split
  · rfl
  split
  · rfl
  split
  · rw [skips _ ‹_›]
    rfl
  · rfl

mutual

theorem parseTerm_shift (c : Cursor) :
    (c.shift distance).parseTerm =
      c.parseTerm.map (Option.map (Term.shift distance)) (shift distance) := by
  cases whole : c.rest with
  | nil =>
      rw [parseTerm_nil whole, parseTerm_nil (rest_shift_of_nil whole), current_shift]
      rfl
  | cons token tail =>
      have wholeToo : (c.shift distance).rest = _ := rest_shift_of_rest whole
      refine parseTerm_cases whole ?single ?comma ?slash ?url ?usage ?call ?paren ?refused
      case single =>
        intro other
        rw [parseTerm_single wholeToo other, advance_shift]
        rfl
      case comma =>
        intro kind
        rw [parseTerm_comma wholeToo kind, advance_shift]
        rfl
      case slash =>
        intro kind
        rw [parseTerm_slash wholeToo kind, advance_shift]
        rfl
      case url =>
        intro kind
        rw [parseTerm_url wholeToo kind, advance_shift]
        rfl
      case usage =>
        intro kind isVar notCustom
        rw [parseTerm_usage wholeToo kind isVar (by simpa using notCustom), advance_shift]
        exact parseUsage_shift token.span.start c.advance
      case call =>
        intro kind notUsage
        rw [parseTerm_call wholeToo kind (by simpa using notUsage), advance_shift,
          parseValue_shift c.advance]
        simp only [Prod.map_fst, Prod.map_snd, expect_shift]
        rfl
      case paren =>
        intro kind
        rw [parseTerm_paren wholeToo kind, advance_shift, parseValue_shift c.advance]
        simp only [Prod.map_fst, Prod.map_snd, expect_shift]
        rfl
      case refused =>
        intro kind
        rw [parseTerm_refused wholeToo kind, unexpected_shift, advance_shift]
        rfl
termination_by 4 * c.rest.length
decreasing_by
  all_goals
    rw [length_advance, whole, List.length_cons]
    omega

theorem parseUsage_shift (start : Nat) (c : Cursor) :
    (c.shift distance).parseUsage (start + distance) =
      (c.parseUsage start).map (Option.map (Term.shift distance)) (shift distance) := by
  by_cases isName : c.skipTrivia.kind = .identifier
  · have fallback := parseFallback_shift (c := c) c.skipTrivia.advance.skipTrivia
      (parseTerm_shift _) (fun failed shorter => skipFallback_shift failed)
    rw [parseUsage_named isName, parseUsage_named (by simpa using isName)]
    simp only [skipTrivia_shift, advance_shift, fallback, Prod.map_fst, Prod.map_snd, expect_shift,
      current_shift]
    rw [Prod.map_apply, Option.map_some, Term.shift_usage]
    rfl
  · rw [parseUsage_unnamed isName, parseUsage_unnamed (by simpa using isName)]
    simp only [skipTrivia_shift, report_shift, readRaw_shift, Prod.map_snd, kind_shift,
      advance_shift]
    rw [Prod.map_apply, apply_ite (shift distance)]
    rfl
termination_by 4 * c.rest.length + 2
decreasing_by
  · have := c.skipTrivia.advance.skipTrivia.length_step_le
    have := c.skipTrivia.length_step_le
    have := c.length_skipTrivia
    omega
  · omega

theorem skipFallback_shift (c : Cursor) :
    (c.shift distance).skipFallback = c.skipFallback.shift distance := by
  rw [skipFallback, skipFallback.eq_def c, parseTerm_shift c]
  simp only [atFallbackEnd_shift, Prod.map_snd, skipTrivia_shift, length_rest_shift]
  split
  · rfl
  split
  · exact skipFallback_shift _
  · rfl
termination_by 4 * c.rest.length + 1

theorem parseTerms_shift (c : Cursor) :
    (c.shift distance).parseTerms = c.parseTerms.map (shiftTerms distance) (shift distance) := by
  cases ends : c.skipTrivia.atValueEnd with
  | true =>
      rw [parseTerms_end ends, parseTerms_end (by simpa using ends), skipTrivia_shift]
      rfl
  | false =>
      have first : (c.skipTrivia.shift distance).parseTerm = _ := parseTerm_shift c.skipTrivia
      have endsNot : (c.shift distance).skipTrivia.atValueEnd = false := by simpa using ends
      -- As many tokens are left further on, so both readings go on or both stop.
      by_cases shorter : c.skipTrivia.parseTerm.2.rest.length < c.skipTrivia.rest.length
      · have shorterToo : (c.shift distance).skipTrivia.parseTerm.2.rest.length <
            (c.shift distance).skipTrivia.rest.length := by
          simpa [first] using shorter
        rw [parseTerms_more ends shorter, parseTerms_more endsNot shorterToo, skipTrivia_shift,
          first, Prod.map_snd, parseTerms_shift c.skipTrivia.parseTerm.2]
        simp only [Prod.map_apply, Prod.map_fst, Prod.map_snd, shiftTerms_append, shiftTerms_toList]
      · have stuckToo : ¬ (c.shift distance).skipTrivia.parseTerm.2.rest.length <
            (c.shift distance).skipTrivia.rest.length := by
          simpa [first] using shorter
        rw [parseTerms_stuck ends shorter, parseTerms_stuck endsNot stuckToo, skipTrivia_shift,
          first]
        simp only [Prod.map_apply, Prod.map_fst, Prod.map_snd, shiftTerms_toList]
termination_by 4 * c.rest.length + 1
decreasing_by
  all_goals
    have := c.length_skipTrivia
    omega

theorem parseValue_shift (c : Cursor) :
    (c.shift distance).parseValue = c.parseValue.map (Value.shift distance) (shift distance) := by
  have terms : (c.skipTrivia.shift distance).parseTerms = _ := parseTerms_shift c.skipTrivia
  rw [parseValue, parseValue.eq_def c, skipTrivia_shift, terms]
  simp only [Prod.map_fst, Prod.map_snd, isEmpty_shiftTerms, current_shift, Prod.map_apply]
  cases c.skipTrivia.parseTerms.1.isEmpty <;> rfl
termination_by 4 * c.rest.length + 2
decreasing_by
  have := c.length_skipTrivia
  omega

end

end ComponentStyles.Cursor
