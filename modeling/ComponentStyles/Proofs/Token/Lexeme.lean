import ComponentStyles.Proofs.Token.Longest

/-!
# Lexemes

A token without its place. The lexemes of a text do not depend on where the text stands, and a run
of lexemes that a text is cut into is what its own text is cut into.
-/

namespace ComponentStyles.Token

structure Lexeme where
  kind : Kind
  text : Text
deriving DecidableEq, Repr

def Lexeme.isTrivia (l : Lexeme) : Bool :=
  l.kind.isTrivia

def lexeme (token : Token) : Lexeme :=
  ⟨token.kind, token.text⟩

@[simp] theorem lexeme_kind (token : Token) : token.lexeme.kind = token.kind := rfl

@[simp] theorem lexeme_text (token : Token) : token.lexeme.text = token.text := rfl

def lexemes (text : Text) : List Lexeme :=
  (ofText 0 text).map lexeme

variable {kind : Kind} {front rest text : Text}

@[simp] theorem lexemes_nil : lexemes [] = [] := by
  rw [lexemes, ofText]
  rfl

theorem ofText_append (leads : Leads kind front rest) (offset : Nat) :
    ofText offset (front ++ rest) =
      ⟨kind, front, ⟨offset, offset + Text.size front⟩⟩ ::
        ofText (offset + Text.size front) rest := by
  have measured := (measure_append_iff leads.ne_nil).mpr leads
  obtain ⟨c, front, rfl⟩ := List.exists_cons_of_ne_nil leads.ne_nil
  rw [List.cons_append, ofText, ← List.cons_append, measured]
  simp

theorem lexemes_ofText (offset : Nat) (text : Text) :
    (ofText offset text).map lexeme = lexemes text := by
  suffices same : ∀ other, (ofText offset text).map lexeme = (ofText other text).map lexeme from
    same 0
  induction offset, text using ofText.induct with
  | case1 offset =>
      intro other
      rw [ofText, ofText]
  | case2 offset c rest kind length measured lexeme stop inductionHypothesis =>
      intro other
      rw [ofText, ofText, measured, List.map_cons, List.map_cons, inductionHypothesis]
      rfl

/-- The lexer cuts off the lexeme in front and goes on behind it. -/
theorem lexemes_append (leads : Leads kind front rest) :
    lexemes (front ++ rest) = ⟨kind, front⟩ :: lexemes rest := by
  rw [lexemes, ofText_append leads, List.map_cons, lexemes_ofText]
  rfl

theorem exists_leads_of_lexemes {l : Lexeme} {ls : List Lexeme} (cut : lexemes text = l :: ls) :
    ∃ rest, text = l.text ++ rest ∧ Leads l.kind l.text rest ∧ lexemes rest = ls := by
  have notEmpty : text ≠ [] := by
    rintro rfl
    cases lexemes_nil.symm.trans cut
  obtain ⟨front, rest, rfl, _, leads⟩ := leads_measure notEmpty
  rw [lexemes_append leads] at cut
  obtain ⟨rfl, rfl⟩ := List.cons.inj cut
  exact ⟨rest, rfl, leads, rfl⟩

/-- The text of a run of lexemes. -/
def textOf (ls : List Lexeme) : Text :=
  ls.flatMap Lexeme.text

@[simp] theorem textOf_nil : textOf [] = [] := rfl

@[simp] theorem textOf_cons (l : Lexeme) (ls : List Lexeme) : textOf (l :: ls) = l.text ++ textOf ls :=
  rfl

@[simp] theorem textOf_append (ls others : List Lexeme) :
    textOf (ls ++ others) = textOf ls ++ textOf others :=
  List.flatMap_append

theorem textOf_lexemes (text : Text) : textOf (lexemes text) = text := by
  rw [lexemes]
  generalize 0 = offset
  induction offset, text using ofText.induct with
  | case1 offset => rw [ofText, List.map_nil, textOf_nil]
  | case2 offset c rest kind length measured front stop inductionHypothesis =>
      rw [ofText, measured, List.map_cons, textOf_cons, inductionHypothesis]
      exact congrArg (c :: ·) (List.take_append_drop _ rest)

/-- A run of lexemes that some text is cut into. -/
def IsCut (ls : List Lexeme) : Prop :=
  lexemes (textOf ls) = ls

theorem isCut_lexemes (text : Text) : IsCut (lexemes text) := by
  rw [IsCut, textOf_lexemes]

theorem isCut_nil : IsCut [] := lexemes_nil

theorem isCut_cons_iff {l : Lexeme} {ls : List Lexeme} :
    IsCut (l :: ls) ↔ Leads l.kind l.text (textOf ls) ∧ IsCut ls := by
  constructor
  · intro cut
    obtain ⟨rest, whole, leads, later⟩ := exists_leads_of_lexemes cut
    obtain rfl := List.append_cancel_left whole
    exact ⟨leads, later⟩
  · rintro ⟨leads, cut⟩
    rw [IsCut, textOf_cons, lexemes_append leads, cut]

theorem IsCut.of_append_right {ls others : List Lexeme} (cut : IsCut (ls ++ others)) :
    IsCut others := by
  induction ls with
  | nil => exact cut
  | cons l ls inductionHypothesis => exact inductionHypothesis (isCut_cons_iff.mp cut).2

theorem IsCut.of_append_left {ls others : List Lexeme} (cut : IsCut (ls ++ others)) : IsCut ls := by
  induction ls with
  | nil => exact isCut_nil
  | cons l ls inductionHypothesis =>
      obtain ⟨leads, cut⟩ := isCut_cons_iff.mp cut
      rw [List.append_eq, textOf_append] at leads
      exact isCut_cons_iff.mpr ⟨leads.of_append, inductionHypothesis cut⟩

/-- A run within a cut text is cut the same way on its own. -/
theorem IsCut.of_within {ls others : List Lexeme} (cut : IsCut others) (within : ls <:+: others) :
    IsCut ls := by
  obtain ⟨before, behind, rfl⟩ := within
  exact cut.of_append_left.of_append_right

/-- A text that is a token of its own. -/
def Kind.Spells (kind : Kind) (text : Text) : Prop :=
  Leads kind text []

theorem Kind.spells_iff_lexemes : kind.Spells text ↔ lexemes text = [⟨kind, text⟩] := by
  constructor
  · intro spells
    have cut := lexemes_append spells
    rwa [List.append_nil, lexemes_nil] at cut
  · intro cut
    obtain ⟨rest, whole, leads, _⟩ := exists_leads_of_lexemes cut
    obtain rfl := List.self_eq_append_right.mp whole
    exact leads

instance : Decidable (kind.Spells text) :=
  decidable_of_iff _ Kind.spells_iff_lexemes.symm

theorem IsCut.spells {ls : List Lexeme} (cut : IsCut ls) {l : Lexeme} (listed : l ∈ ls) :
    l.kind.Spells l.text := by
  obtain ⟨before, behind, rfl⟩ := List.append_of_mem listed
  have alone : IsCut [l] := cut.of_within ⟨before, behind, by simp⟩
  exact (isCut_cons_iff.mp alone).1

theorem Kind.Spells.ne_nil (spells : kind.Spells text) : text ≠ [] :=
  Leads.ne_nil spells

theorem Kind.Spells.matches (spells : kind.Spells text) (valid : kind ≠ .invalid) :
    kind.pattern.Matches text := by
  cases spells with
  | described found _ => exact Kind.matches_of_of? found
  | invalid => exact absurd rfl valid

theorem Kind.Spells.ne_endOfInput (spells : kind.Spells text) : kind ≠ .endOfInput := by
  rintro rfl
  have matched := spells.matches (by decide)
  cases matched

theorem lexemes_of_stops (spells : kind.Spells text) (stops : Stops text rest) :
    lexemes (text ++ rest) = ⟨kind, text⟩ :: lexemes rest :=
  lexemes_append (Leads.of_stops spells stops)

end ComponentStyles.Token
