import ComponentStyles.Proofs.Source.Boundary
import ComponentStyles.Proofs.Token.Lexeme
import Mathlib.Data.List.Basic

/-!
# Where tokens stand

The tokens of a part of a text stand in the text one right behind the other, and the span of each
covers what is written there.
-/

namespace ComponentStyles.Token

variable {text : Text} {stop a b : Nat} {tokens rest : List Token} {token : Token}

/-- The tokens stand in a text at or behind an offset, one behind the other, up to `stop`. -/
inductive Placed (text : Text) (stop : Nat) : Nat → List Token → Prop where
  | nil {offset : Nat} : offset ≤ stop → Placed text stop offset []
  | cons {offset : Nat} {token : Token} {rest : List Token} : offset ≤ token.span.start →
      token.span.Covers text token.text → Placed text stop token.span.stop rest →
      Placed text stop offset (token :: rest)

namespace Placed

theorem le_stop (placed : Placed text stop a tokens) : a ≤ stop := by
  induction placed with
  | nil le => exact le
  | cons behind covers _ inductionHypothesis =>
      exact behind.trans (covers.isWithin.ordered.trans inductionHypothesis)

theorem of_le (placed : Placed text stop b tokens) (le : a ≤ b) : Placed text stop a tokens := by
  cases placed with
  | nil inside => exact .nil (le.trans inside)
  | cons behind covers later => exact .cons (le.trans behind) covers later

/-- Leaving out a token in front leaves the others where they are. -/
theorem tail (placed : Placed text stop a (token :: rest)) : Placed text stop a rest := by
  cases placed with
  | cons behind covers later => exact later.of_le (behind.trans covers.isWithin.ordered)

theorem of_suffix (placed : Placed text stop a tokens) (suffix : rest <:+ tokens) :
    Placed text stop a rest := by
  obtain ⟨taken, rfl⟩ := suffix
  induction taken with
  | nil => exact placed
  | cons token taken inductionHypothesis => exact inductionHypothesis placed.tail

theorem covers_head (placed : Placed text stop a (token :: rest)) :
    token.span.Covers text token.text := by
  cases placed with
  | cons _ covers _ => exact covers

end Placed

/-- The lexer places the tokens of a part of a text. -/
theorem placed_ofText (offset : Nat) (before part : Text) (starts : before ++ part <+: text)
    (size : Text.size before = offset) :
    Placed text (Text.size (before ++ part)) offset (ofText offset part) := by
  induction offset, part using ofText.induct generalizing before with
  | case1 offset =>
      rw [ofText, List.append_nil, size]
      exact .nil (Nat.le_refl _)
  | case2 offset c rest kind length measured lexeme stop inductionHypothesis =>
      have whole : lexeme ++ rest.drop (length - 1) = c :: rest :=
        congrArg (c :: ·) (List.take_append_drop _ rest)
      have sizeThrough : Text.size (before ++ lexeme) = stop := by
        rw [Text.size_append, size]
      rw [ofText, measured, ← whole, ← List.append_assoc]
      rw [← whole, ← List.append_assoc] at starts
      refine .cons (Nat.le_refl _) ⟨before, (List.prefix_append _ _).trans starts, ?_⟩
        (inductionHypothesis _ starts sizeThrough)
      rw [sizeThrough, size]

section Order

variable {front back frontToo backToo : List Token} {other : Token}

/-- A token stands in front of another one, and neither is empty. -/
def Before (token other : Token) : Prop :=
  token.span.start < token.span.stop ∧ token.span.stop ≤ other.span.start ∧
    other.span.start < other.span.stop

theorem Placed.pairwise_before (placed : Placed text stop a tokens)
    (filled : ∀ token ∈ tokens, token.text ≠ []) : tokens.Pairwise Before ∧
      ∀ token ∈ tokens, a ≤ token.span.start ∧ token.span.start < token.span.stop := by
  induction placed with
  | nil => exact ⟨.nil, nofun⟩
  | @cons offset token rest behind covers _ inductionHypothesis =>
      rw [List.forall_mem_cons] at filled ⊢
      obtain ⟨ordered, later⟩ := inductionHypothesis filled.2
      have long := covers.start_lt_stop filled.1
      refine ⟨.cons (fun other listed => ⟨long, later other listed⟩) ordered, ⟨behind, long⟩, ?_⟩
      intro other listed
      exact ⟨behind.trans (long.le.trans (later other listed).1), (later other listed).2⟩

theorem spells_of_mem_ofText {offset : Nat} (listed : token ∈ ofText offset text) :
    token.kind.Spells token.text := by
  have cut : IsCut ((ofText offset text).map lexeme) := by
    rw [lexemes_ofText]
    exact isCut_lexemes text
  exact cut.spells (List.mem_map_of_mem listed)

theorem pairwise_before_ofText (text : Text) : (ofText 0 text).Pairwise Before :=
  ((placed_ofText 0 [] text (List.prefix_refl _) rfl).pairwise_before fun _ listed =>
    (spells_of_mem_ofText listed).ne_nil).1

/-- Where a token stops tells which one it is, and so does where it starts. -/
theorem split_unique (ordered : tokens.Pairwise Before) (cut : tokens = front ++ token :: back)
    (cutToo : tokens = frontToo ++ other :: backToo)
    (same : token.span.start = other.span.start ∨ token.span.stop = other.span.stop) :
    front = frontToo ∧ token = other ∧ back = backToo := by
  rw [cut, List.pairwise_append, List.pairwise_cons] at ordered
  obtain ⟨-, ⟨behind, -⟩, ahead⟩ := ordered
  have notAhead : other ∉ front := by
    intro listed
    obtain ⟨long, apart, longToo⟩ := ahead other listed token List.mem_cons_self
    omega
  have notBehind : other ∉ back := by
    intro listed
    obtain ⟨long, apart, longToo⟩ := behind other listed
    omega
  exact (List.append_cons_inj_of_notMem notAhead notBehind).mp (cut.symm.trans cutToo)

end Order

end ComponentStyles.Token
