import ComponentStyles.Proofs.Stylesheet.Braces.Cursor

/-!
# Braces in values

A value ends in front of a closing brace, and an opening one in it is a stray. Only inside a usage more
is read over: the run up to its end, if it has no name, and whatever stands in the place of its fallback.
-/

namespace ComponentStyles.Cursor

open Token

variable {c : Cursor} {token : Token} {tail : List Token}

/-- What is read uncounted in a usage, from behind its function token, is balanced. -/
structure KeepsUsage (c : Cursor) : Prop where
  unnamed : c.skipTrivia.kind ≠ .identifier →
    Balanced (run [.closeParen, .semicolon, .closeBrace] c.skipTrivia.rest)
  fallback : c.skipTrivia.kind = .identifier → c.skipTrivia.advance.skipTrivia.kind = .comma →
    c.skipTrivia.advance.skipTrivia.advance.skipTrivia.kind ≠ .closeBrace

theorem not_balanced_closing (closes : token.kind = .closeBrace) : ¬ Balanced [token] := by
  intro balanced
  have total := balanced.total
  simp [closes, Kind.weight] at total

theorem solid_of_skipTrivia (whole : c.skipTrivia.rest = token :: tail) :
    c.rest.filter (fun token => !token.isTrivia) =
      token :: tail.filter (fun token => !token.isTrivia) := by
  have solid := List.head?_dropWhile_not Token.isTrivia c.rest
  have cut : c.rest = c.rest.takeWhile Token.isTrivia ++ token :: tail := by
    rw [← whole]
    exact List.takeWhile_append_dropWhile.symm
  rw [show c.rest.dropWhile Token.isTrivia = token :: tail from whole] at solid
  rw [cut, List.filter_append, List.filter_eq_nil_iff.mpr, List.nil_append,
    List.filter_cons_of_pos (by simpa using solid)]
  intro token listed
  simp [List.mem_takeWhile_imp listed]

theorem keepsUsage_advance (keeps : KeepsUsages c.rest) (whole : c.rest = token :: tail)
    (isFunction : token.kind = .function)
    (isVar : Text.sameLetters token.text.dropLast "var".toList = true) : c.advance.KeepsUsage := by
  have here : token :: tail <:+ c.rest := ⟨[], whole.symm⟩
  constructor
  · intro notName
    refine keeps _ _ here ?_
    rw [← rest_advance whole]
    refine .unnamed isFunction isVar fun first isFirst => ?_
    obtain ⟨later, named⟩ := List.head?_eq_some_iff.mp isFirst
    rwa [← kind_of_rest (c := c.advance.skipTrivia) named]
  · intro isName isComma closes
    obtain ⟨name, first, atName⟩ := exists_rest_of_kind (c := c.advance.skipTrivia)
      (by rw [isName]; decide)
    obtain ⟨comma, second, atComma⟩ := exists_rest_of_kind
      (c := c.advance.skipTrivia.advance.skipTrivia) (by rw [isComma]; decide)
    obtain ⟨brace, third, atBrace⟩ := exists_rest_of_kind
      (c := c.advance.skipTrivia.advance.skipTrivia.advance.skipTrivia) (by rw [closes]; decide)
    have inside : tail.filter (fun token => !token.isTrivia) =
        name :: comma :: brace :: third.filter (fun token => !token.isTrivia) := by
      rw [← rest_advance whole, solid_of_skipTrivia atName, ← rest_advance atName,
        solid_of_skipTrivia atComma, ← rest_advance atComma, solid_of_skipTrivia atBrace]
    rw [kind_of_rest atName] at isName
    rw [kind_of_rest atComma] at isComma
    rw [kind_of_rest atBrace] at closes
    exact not_balanced_closing closes (keeps _ _ here
      (.fallback isFunction isVar inside isName isComma closes))

theorem counts_parseFallback {c : Cursor} (behind : Cursor)
    (parsed : behind.advance.skipTrivia.kind ≠ .closeBrace →
      behind.advance.skipTrivia.Counts behind.advance.skipTrivia.parseTerm.2)
    (skips : ∀ failed : Cursor, failed.rest.length ≤ c.rest.length → failed.Counts failed.skipFallback)
    (keeps : behind.kind = .comma → behind.advance.skipTrivia.kind ≠ .closeBrace) :
    behind.Counts (c.parseFallback behind).2 := by
  unfold parseFallback
  dsimp only
  split
  case isTrue => exact Counts.refl _
  case isFalse notOther =>
    have isComma : behind.kind = .comma := Classical.not_not.mp notOther
    have body : behind.Counts behind.advance.skipTrivia := counts_step (by rw [isComma]; rfl)
    split
    · exact body.trans (counts_report _ (by simp [ParseError.IsStray]))
    have next := (body.trans (parsed (keeps isComma))).trans (counts_skipTrivia _)
    split
    · exact next
    have failed := next.trans (counts_report (.usage .longFallback)
      (by simp [ParseError.IsStray]))
    split
    · exact failed.trans (skips _ ‹_›)
    · exact failed

theorem not_closing_of_not_atValueEnd (inside : c.atValueEnd = false) : c.kind ≠ .closeBrace := by
  intro closes
  simp [atValueEnd, closes] at inside

mutual

theorem counts_parseTerm (c : Cursor) (notClosing : c.kind ≠ .closeBrace) :
    c.Counts c.parseTerm.2 := by
  cases whole : c.rest with
  | nil =>
      rw [parseTerm_nil whole]
      exact Counts.refl c
  | cons token tail =>
      rw [kind_of_rest whole] at notClosing
      have flat {kind : Kind} (isKind : token.kind = kind) (flat : kind.weight = 0) :
          c.Counts c.advance :=
        counts_advance (by rw [kind_of_rest whole, isKind, flat])
      have value : c.advance.Counts (c.advance.parseValue.2.expect .closeParen) :=
        (counts_parseValue c.advance).trans (counts_expect rfl _)
      refine parseTerm_cases whole ?single ?comma ?slash ?url ?usage ?call ?paren ?refused
      case single =>
        intro other
        refine flat rfl (Kind.weight_eq_zero (fun opens => other ?_) notClosing)
        simp [opens]
      case comma | slash | url => exact fun kind => flat kind rfl
      case usage =>
        intro kind isVar _
        refine Takes.given fun countable => ?_
        have keepsUsage := keepsUsage_advance countable.keeps whole kind isVar
        exact (flat kind rfl).trans (counts_parseUsage token.span.start c.advance keepsUsage)
      case call => exact fun kind _ => (flat kind rfl).trans value
      case paren => exact fun kind => (flat kind rfl).trans value
      case refused => exact fun _ => counts_refused (.inl rfl) (by rwa [kind_of_rest whole])
termination_by 4 * c.rest.length
decreasing_by
  all_goals
    rw [length_advance, whole, List.length_cons]
    omega

theorem counts_parseUsage (start : Nat) (c : Cursor) (keeps : c.KeepsUsage) :
    c.Counts (c.parseUsage start).2 := by
  by_cases isName : c.skipTrivia.kind = .identifier
  · rw [parseUsage_named isName]
    have fallback : c.skipTrivia.advance.skipTrivia.Counts
        (c.parseFallback c.skipTrivia.advance.skipTrivia).2 :=
      counts_parseFallback (c := c) _ (counts_parseTerm _)
        (fun failed shorter => counts_skipFallback failed) (keeps.fallback isName)
    have name : c.skipTrivia.Counts c.skipTrivia.advance.skipTrivia :=
      counts_step (by rw [isName]; rfl)
    exact ((c.counts_skipTrivia.trans name).trans fallback).trans (counts_expect rfl _)
  · rw [parseUsage_unnamed isName]
    have reported := c.counts_skipTrivia.trans
      (counts_report (.usage .missingName) (by simp [ParseError.IsStray]))
    have skipped := reported.trans (counts_readRaw (by decide) (keeps.unnamed isName))
    dsimp only
    split
    case isTrue closes => exact skipped.trans (counts_advance (by rw [closes]; rfl))
    case isFalse => exact skipped
termination_by 4 * c.rest.length + 2
decreasing_by
  · have := c.skipTrivia.advance.skipTrivia.length_step_le
    have := c.skipTrivia.length_step_le
    have := c.length_skipTrivia
    omega
  · omega

theorem counts_skipFallback (c : Cursor) : c.Counts c.skipFallback := by
  rw [skipFallback]
  split
  case isTrue => exact Counts.refl c
  case isFalse inside =>
    have notClosing : c.kind ≠ .closeBrace := fun closes => inside (by simp [atFallbackEnd, closes])
    have step := (counts_parseTerm c notClosing).trans (counts_skipTrivia _)
    dsimp only
    split
    · exact step.trans (counts_skipFallback _)
    · exact step
termination_by 4 * c.rest.length + 1

theorem counts_parseTerms (c : Cursor) : c.Counts c.parseTerms.2 := by
  cases ends : c.skipTrivia.atValueEnd with
  | true =>
      rw [parseTerms_end ends]
      exact c.counts_skipTrivia
  | false =>
      have first := c.counts_skipTrivia.trans
        (counts_parseTerm c.skipTrivia (not_closing_of_not_atValueEnd ends))
      by_cases shorter : c.skipTrivia.parseTerm.2.rest.length < c.skipTrivia.rest.length
      · rw [parseTerms_more ends shorter]
        exact first.trans (counts_parseTerms _)
      · rw [parseTerms_stuck ends shorter]
        exact first
termination_by 4 * c.rest.length + 1
decreasing_by
  all_goals
    have := c.length_skipTrivia
    omega

theorem counts_parseValue (c : Cursor) : c.Counts c.parseValue.2 := by
  rw [c.parseValue_eq.2]
  exact c.counts_skipTrivia.trans (counts_parseTerms c.skipTrivia)
termination_by 4 * c.rest.length + 2
decreasing_by
  have := c.length_skipTrivia
  omega

end

end ComponentStyles.Cursor
