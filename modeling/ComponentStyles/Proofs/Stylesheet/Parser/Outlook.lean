import ComponentStyles.Proofs.Stylesheet.Demands

/-!
# Outlooks on the tokens of selectors

What can be said of selectors depends on what is known of the tokens they are read from. From plain
tokens come texts that can be written anywhere. From valid ones come texts that can be written again
where they stood: a comment that is opened there stays open if the source ends none behind. And
from whatever tokens the parser is given, names come out as names.
-/

namespace ComponentStyles

open Token

/-- The characters in front of a text that is kept in a selector. -/
def OpensKept (c : Char) : Prop :=
  c ∈ ['[', '(']

/-- What is known of the tokens ahead, and what it tells about selectors that are read from them. -/
structure Outlook where
  demands : Demands
  Knows : List Lexeme → Prop
  /-- Whether a text can be written in place of these tokens. -/
  Fits : List Lexeme → Text → Prop
  cut : ∀ {ls}, Knows ls → IsCut ls
  later : ∀ {ls others}, Knows ls → others <:+ ls → Knows others
  calls : ∀ {ls l}, Knows ls → l ∈ ls → l.kind = .function → demands.calls l.text.dropLast
  texts : ∀ {stops noBlank taken others d rest}, Knows (taken ++ others) →
    (Fence.outsideParens stops noBlank).Encloses 0 taken → Closes d → Fits others (d :: rest) →
      demands.texts (Fence.outsideParens stops noBlank) (Text.trim (textOf taken)) (d :: rest)
  fits : ∀ {ls others piece rest}, others <:+ ls → '/' ∉ piece → Fits others rest →
    Fits ls (piece ++ rest)
  fitsKept : ∀ {taken others opening rest}, Knows (taken ++ others) → OpensKept opening →
    Fits others rest → Fits (taken ++ others) (opening :: (Text.trim (textOf taken) ++ rest))

namespace Outlook

/-- The tokens are plain. -/
def plain : Outlook where
  demands := .plain
  Knows := Plain
  Fits := fun _ _ => True
  cut := Plain.cut
  later := fun plain suffix => plain.of_within suffix.isInfix
  calls := isFunctionName_of_plain
  texts := fun plain encloses _ _ =>
    Fence.keeps_trim (plain.of_within (List.prefix_append _ _).isInfix) encloses
  fits := fun _ _ _ => trivial
  fitsKept := fun _ _ _ => trivial

theorem spells_of_function {ls : List Lexeme} {l : Lexeme} (cut : IsCut ls) (listed : l ∈ ls)
    (isFunction : l.kind = .function) : Kind.identifier.Spells l.text.dropLast := by
  obtain ⟨name, written, isName⟩ := cut.exists_name_of_function listed isFunction
  rwa [written, List.dropLast_concat]

/-- Nothing is known of the tokens but how they have been cut. -/
def blind : Outlook where
  demands := ⟨Kind.identifier.Spells, fun _ _ _ => True⟩
  Knows := IsCut
  Fits := fun _ _ => True
  cut := id
  later := fun cut suffix => cut.of_within suffix.isInfix
  calls := spells_of_function
  texts := fun _ _ _ _ => trivial
  fits := fun _ _ _ => trivial
  fitsKept := fun _ _ _ => trivial

section Valid

/-- No token is invalid. -/
structure Valid (ls : List Lexeme) : Prop where
  cut : IsCut ls
  valid : ∀ l ∈ ls, l.kind ≠ .invalid

/-- Where the tokens end no comment, the text ends none either, not even behind a star. -/
def StaysAsOpen (ls : List Lexeme) (text : Text) : Prop :=
  StaysOpen (textOf ls) → text.head? ≠ some '/' ∧ StaysOpen text

variable {ls others taken : List Lexeme} {l : Lexeme} {d : Char} {piece rest : Text}

theorem Valid.of_within (valid : Valid ls) (within : others <:+: ls) : Valid others :=
  ⟨valid.cut.of_within within, fun l listed => valid.valid l (within.subset listed)⟩

theorem Valid.solid (valid : Valid ls) (listed : l ∈ ls) : l.IsSolid :=
  Lexeme.isSolid_of_notOpen (valid.cut.spells listed)
    fun invalid => absurd invalid (valid.valid l listed)

theorem textOf_within (within : others <:+: ls) : textOf others <:+: textOf ls := by
  obtain ⟨before, behind, rfl⟩ := within
  exact ⟨textOf before, textOf behind, by simp⟩

theorem StaysAsOpen.write (fits : StaysAsOpen others rest) (suffix : others <:+ ls)
    (free : '/' ∉ piece) : StaysAsOpen ls (piece ++ rest) := by
  intro stays
  obtain ⟨first, staysToo⟩ := fits (stays.of_part (textOf_within suffix.isInfix))
  refine ⟨?_, staysOpen_of_notMem free first staysToo⟩
  cases piece with
  | nil => exact first
  | cons c piece =>
      intro slash
      obtain rfl : c = '/' := by simpa using slash
      exact free List.mem_cons_self

theorem trim_within (valid : Valid taken) : Text.trim (textOf taken) <:+: textOf taken := by
  rw [trim_textOf fun l listed => valid.solid listed]
  exact textOf_within (strip_within taken)

theorem StaysAsOpen.writeKept (fits : StaysAsOpen others rest) (valid : Valid (taken ++ others))
    {opening : Char} (opens : OpensKept opening) :
    StaysAsOpen (taken ++ others) (opening :: (Text.trim (textOf taken) ++ rest)) := by
  intro stays
  have staysTaken := stays.of_part (textOf_within (List.prefix_append taken others).isInfix)
  obtain ⟨first, staysRest⟩ :=
    fits (stays.of_part (textOf_within (List.suffix_append taken others).isInfix))
  have within := trim_within (valid.of_within (List.prefix_append taken others).isInfix)
  have other : opening ≠ '*' ∧ opening ≠ '/' := by
    unfold OpensKept at opens
    revert opens
    simp only [List.mem_cons, List.not_mem_nil, or_false]
    rintro (rfl | rfl) <;> decide
  constructor
  · simpa using other.2
  · exact staysOpen_cons (.inl other.1) (staysOpen_append (staysTaken.of_part within) first staysRest)

variable {stops : List Kind} {noBlank : Kind.whitespace ∉ stops} {depth : Nat}

theorem exists_encloses_of_append {fence : Fence} {before after : List Lexeme}
    (encloses : fence.Encloses depth (before ++ after)) : ∃ depth, fence.Encloses depth after := by
  induction before generalizing depth with
  | nil => exact ⟨depth, encloses⟩
  | cons l before inductionHypothesis =>
      cases encloses with
      | cons _ later => exact inductionHypothesis later

/-- An open parenthesis is closed within the run. -/
theorem exists_closeParen_of_encloses
    (encloses : (Fence.outsideParens stops noBlank).Encloses (depth + 1) ls) :
    ∃ p ∈ ls, p.kind = .closeParen := by
  induction ls generalizing depth with
  | nil => cases encloses
  | cons l ls inductionHypothesis =>
      by_cases closes : l.kind = .closeParen
      · exact ⟨l, List.mem_cons_self, closes⟩
      cases encloses with
      | cons _ later =>
          obtain ⟨deeper, same⟩ : ∃ deeper, Fence.parenDepth (depth + 1) l.kind = deeper + 1 := by
            unfold Fence.parenDepth
            split
            · exact ⟨depth + 1, rfl⟩
            · exact ⟨depth + 1, rfl⟩
            · next isClose => exact absurd isClose closes
            · exact ⟨depth, rfl⟩
          rw [show (Fence.outsideParens stops noBlank).step (depth + 1) l.kind = deeper + 1 from same]
            at later
          obtain ⟨p, listed, closes⟩ := inductionHypothesis later
          exact ⟨p, List.mem_cons_of_mem l listed, closes⟩

/-- A slash in front of a star opens a comment that ends nowhere behind. -/
theorem Valid.staysOpen_of_slash (valid : Valid (l :: ls)) (isSlash : l.kind = .slash)
    (star : (textOf ls).head? = some '*') : StaysOpen (textOf ls).tail := by
  have leads := (isCut_cons_iff.mp valid.cut).1
  obtain ⟨_, matched⟩ := leads.described_of_valid (valid.valid l List.mem_cons_self)
  rw [isSlash] at matched leads
  obtain ⟨c, slash, single⟩ := matches_oneOf_iff.mp matched
  obtain rfl : c = '/' := by simpa using slash
  obtain ⟨rest, whole⟩ := List.head?_eq_some_iff.mp star
  rw [single, whole] at leads
  rw [whole]
  exact leads.staysOpen

/-- A kept run stands where it stood, in front of a text that ends no comment unless the tokens
behind it do. -/
theorem Valid.standsBefore (valid : Valid (taken ++ others))
    (encloses : (Fence.outsideParens stops noBlank).Encloses 0 taken)
    (fits : StaysAsOpen others rest) : StandsBefore rest (strip taken) := by
  have validTaken := valid.of_within (List.prefix_append taken others).isInfix
  have validStrip := validTaken.of_within (strip_within taken)
  refine ⟨validStrip.cut, validStrip.valid, ?_, ?_⟩
  · intro before l after whole isFunction
    have enclosesStrip := Fence.encloses_strip encloses
    rw [whole] at enclosesStrip
    obtain ⟨depth, enclosesLater⟩ := exists_encloses_of_append enclosesStrip
    cases enclosesLater with
    | cons _ later =>
        rw [isFunction] at later
        exact exists_closeParen_of_encloses later
  · intro before l after whole isSlash star
    obtain ⟨front, behind, split, _⟩ := exists_strip taken
    have validLater : Valid (l :: (after ++ (behind ++ others))) := by
      apply valid.of_within
      refine ⟨front ++ before, [], ?_⟩
      conv => rhs; rw [split, whole]
      simp
    obtain ⟨more, starred⟩ := List.head?_eq_some_iff.mp star
    have stays := validLater.staysOpen_of_slash isSlash (by simp [starred])
    rw [textOf_append, textOf_append, starred, List.cons_append, List.tail_cons] at stays
    obtain ⟨first, staysRest⟩ := fits (stays.of_part ⟨more ++ textOf behind, [], by simp⟩)
    rw [starred, List.tail_cons]
    exact staysOpen_append (stays.of_part ⟨[], textOf behind ++ textOf others, by simp⟩) first staysRest

theorem Valid.keepsBefore (valid : Valid (taken ++ others))
    (encloses : (Fence.outsideParens stops noBlank).Encloses 0 taken) (closes : Closes d)
    (fits : StaysAsOpen others (d :: rest)) :
    (Fence.outsideParens stops noBlank).KeepsBefore (Text.trim (textOf taken)) (d :: rest) := by
  have validTaken := valid.of_within (List.prefix_append taken others).isInfix
  have solid (l : Lexeme) (listed : l ∈ taken) : l.IsSolid := validTaken.solid listed
  refine ⟨Fence.bounds_trim validTaken.cut solid encloses, ?_⟩
  rw [Fence.lexemes_trim validTaken.cut solid, trim_textOf solid]
  apply (valid.standsBefore encloses fits).lexemes_append closes.delimits
  unfold Closes at closes
  revert closes
  simp only [List.mem_cons, List.not_mem_nil, or_false]
  rintro (rfl | rfl) <;> decide

/-- The tokens are valid. -/
def valid : Outlook where
  demands := ⟨Kind.identifier.Spells, Fence.KeepsBefore⟩
  Knows := Valid
  Fits := StaysAsOpen
  cut := Valid.cut
  later := fun valid suffix => valid.of_within suffix.isInfix
  calls := fun valid => spells_of_function valid.cut
  texts := Valid.keepsBefore
  fits := fun suffix free fits => fits.write suffix free
  fitsKept := fun valid opens fits => fits.writeKept valid opens

end Valid

end Outlook

end ComponentStyles
