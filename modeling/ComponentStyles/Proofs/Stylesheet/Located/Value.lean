import ComponentStyles.Proofs.Stylesheet.Located.Cursor
import ComponentStyles.Proofs.Stylesheet.Parser.Value
import ComponentStyles.Variable.Substitution

/-!
# Where usages stand

A usage starts with its function token and stops with the last token read for it. So it lies within
the text, whatever is wrong with its fallback or its parenthesis.
-/

namespace ComponentStyles

variable {text : Text}

section Usages

/-- Whatever is defined, every usage among the terms that is reported as unresolved lies within the
text. -/
def UsagesWithin (text : Text) (terms : List Term) : Prop :=
  ∀ definitions, ∀ usage ∈ unresolvedOf definitions terms, usage.2.IsWithin text

variable {terms rest : List Term} {span argumentsSpan : Span}

theorem unresolvedOf_append (definitions : Definitions) (terms rest : List Term) :
    unresolvedOf definitions (terms ++ rest) =
      unresolvedOf definitions terms ++ unresolvedOf definitions rest := by
  induction terms with
  | nil => rfl
  | cons term terms inductionHypothesis =>
      rw [List.cons_append, unresolvedOf, unresolvedOf, inductionHypothesis, List.append_assoc]

theorem UsagesWithin.append (first : UsagesWithin text terms) (later : UsagesWithin text rest) :
    UsagesWithin text (terms ++ rest) := by
  intro definitions usage listed
  rw [unresolvedOf_append] at listed
  rcases List.mem_append.mp listed with listed | listed
  · exact first definitions usage listed
  · exact later definitions usage listed

theorem usagesWithin_nil : UsagesWithin text [] := by
  intro definitions usage listed
  cases listed

theorem usagesWithin_single {term : Term}
    (within : ∀ definitions, ∀ usage ∈ term.unresolved definitions, usage.2.IsWithin text) :
    UsagesWithin text [term] := by
  intro definitions usage listed
  rw [unresolvedOf, unresolvedOf, List.append_nil] at listed
  exact within definitions usage listed

theorem usagesWithin_usage {name : Text} {fallback : Option Term} (within : span.IsWithin text) :
    UsagesWithin text [.usage name fallback span] := by
  refine usagesWithin_single fun definitions usage listed => ?_
  cases fallback with
  | some fallback => cases listed
  | none =>
      rw [Term.unresolved] at listed
      split at listed
      · cases listed
      · rw [List.mem_singleton.mp listed]
        exact within

theorem usagesWithin_call {name : Text} (within : UsagesWithin text terms) :
    UsagesWithin text [.call name terms argumentsSpan span] :=
  usagesWithin_single within

end Usages

namespace Cursor

open Token

variable {c : Cursor}

theorem goes_parseFallback {c : Cursor} (behind : Cursor)
    (parsed : behind.advance.skipTrivia.Goes text behind.advance.skipTrivia.parseTerm.2 True)
    (skips : ∀ failed : Cursor, failed.rest.length ≤ c.rest.length →
      failed.Goes text failed.skipFallback True) :
    behind.Goes text (c.parseFallback behind).2 True := by
  have body : behind.Goes text behind.advance.skipTrivia True := behind.goes_step
  have next := (body.trans parsed).trans (goes_skipTrivia _)
  unfold parseFallback
  dsimp only
  split
  · exact Goes.refl _
  split
  · exact (body.trans (goes_report _ _)).moves
  split
  · exact next.moves
  have failed := next.trans (goes_report _ (.usage .longFallback))
  split
  · exact (failed.trans (skips _ ‹_›)).moves
  · exact failed.moves

mutual

theorem goes_parseTerm (c : Cursor) :
    c.Goes text c.parseTerm.2 (UsagesWithin text c.parseTerm.1.toList) := by
  cases whole : c.rest with
  | nil =>
      rw [parseTerm_nil whole]
      exact (Goes.refl c).imp fun _ _ => usagesWithin_single fun _ _ => nofun
  | cons token tail =>
      have value := (c.goes_advance.trans (goes_parseValue c.advance)).trans
        (goes_expect _ .closeParen)
      refine parseTerm_cases whole ?single ?comma ?slash ?url ?usage ?call ?paren ?refused
      case single | comma | slash | url =>
        intro _
        exact c.goes_advance.imp fun _ _ => usagesWithin_single fun _ _ => nofun
      case usage =>
        intro kind _ _
        refine (c.goes_advance.trans (goes_parseUsage token.span.start c.advance)).imp ?_
        intro stands found
        have within := (stands.covers whole).isWithin
        refine found.2 within.start ?_
        rw [lastEnd_advance whole (by rw [Token.isTrivia, kind]; rfl)]
        exact within.ordered
      case call | paren =>
        intros
        exact value.imp fun _ found => usagesWithin_call found.1.2
      case refused =>
        intro _
        exact ((c.goes_unexpected _).trans (goes_advance _)).imp fun _ _ => usagesWithin_nil
termination_by 4 * c.rest.length
decreasing_by
  all_goals
    rw [length_advance, whole, List.length_cons]
    omega

/-- A usage that starts at a boundary in front of the cursor stops where reading it has come to. -/
theorem goes_parseUsage (start : Nat) (c : Cursor) : c.Goes text (c.parseUsage start).2
    (text.IsBoundary start → start ≤ c.lastEnd →
      UsagesWithin text (c.parseUsage start).1.toList) := by
  by_cases isName : c.skipTrivia.kind = .identifier
  · rw [parseUsage_named isName]
    have fallback : c.skipTrivia.advance.skipTrivia.Goes text _ True :=
      goes_parseFallback (c := c) _ (goes_parseTerm _).moves
        (fun failed shorter => goes_skipFallback failed)
    have through := ((c.goes_skipTrivia.trans (goes_step _)).trans fallback).trans
      (goes_expect _ .closeParen)
    refine through.imp fun stands _ boundary before => usagesWithin_usage ?_
    exact ⟨boundary, (through.stands stands).lastEnd, before.trans (through.onward stands)⟩
  · rw [parseUsage_unnamed isName]
    have skipped : c.Goes text ((c.skipTrivia.report (.usage .missingName)).readRaw
        [.closeParen, .semicolon, .closeBrace]).2 _ :=
      (c.goes_skipTrivia.trans (goes_report _ _)).trans (goes_readRaw (by decide) _)
    dsimp only
    split
    · exact (skipped.trans (goes_advance _)).imp fun _ _ _ _ => usagesWithin_nil
    · exact skipped.imp fun _ _ _ _ => usagesWithin_nil
termination_by 4 * c.rest.length + 2
decreasing_by
  · have := c.skipTrivia.advance.skipTrivia.length_step_le
    have := c.skipTrivia.length_step_le
    have := c.length_skipTrivia
    omega
  · omega

theorem goes_skipFallback (c : Cursor) : c.Goes text c.skipFallback True := by
  rw [skipFallback]
  split
  · exact Goes.refl c
  · dsimp only
    have step : c.Goes text c.parseTerm.2.skipTrivia _ :=
      (goes_parseTerm c).trans (goes_skipTrivia _)
    split
    · exact (step.trans (goes_skipFallback _)).moves
    · exact step.moves
termination_by 4 * c.rest.length + 1

theorem goes_parseTerms (c : Cursor) :
    c.Goes text c.parseTerms.2 (UsagesWithin text c.parseTerms.1) := by
  cases ends : c.skipTrivia.atValueEnd with
  | true =>
      rw [parseTerms_end ends]
      exact c.goes_skipTrivia.imp fun _ _ => usagesWithin_nil
  | false =>
      have first := c.goes_skipTrivia.trans (goes_parseTerm c.skipTrivia)
      by_cases shorter : c.skipTrivia.parseTerm.2.rest.length < c.skipTrivia.rest.length
      · rw [parseTerms_more ends shorter]
        exact (first.trans (goes_parseTerms _)).imp fun _ found => found.1.2.append found.2
      · rw [parseTerms_stuck ends shorter]
        exact first.imp fun _ found => found.2
termination_by 4 * c.rest.length + 1
decreasing_by
  all_goals
    have := c.length_skipTrivia
    omega

theorem goes_parseValue (c : Cursor) :
    c.Goes text c.parseValue.2 (UsagesWithin text c.parseValue.1.terms) := by
  obtain ⟨terms, last⟩ := c.parseValue_eq
  rw [terms, last]
  exact (c.goes_skipTrivia.trans (goes_parseTerms c.skipTrivia)).imp fun _ found => found.2
termination_by 4 * c.rest.length + 2
decreasing_by
  have := c.length_skipTrivia
  omega

end

end Cursor

end ComponentStyles
