import ComponentStyles.Source.File
import ComponentStyles.Proofs.Source.Boundary
import Mathlib.Data.List.DropRight

/-!
# Lines and columns

The line table of a text knows the position of every boundary: as many lines stand in front as there
are line feeds, and the column counts from the last of them.
-/

namespace ComponentStyles

variable {text part before : Text} {span : Span}

/-- Where the last line of a text starts: behind its last line feed, or at the start of the text. -/
def Text.lastLineStart (text : Text) : Nat :=
  size (text.rdropWhile (· != '\n'))

namespace LineTable

theorem startsFrom_append (offset : Nat) (before rest : Text) :
    startsFrom offset (before ++ rest) =
      startsFrom offset before ++ startsFrom (offset + Text.size before) rest := by
  induction before generalizing offset with
  | nil => rfl
  | cons c before inductionHypothesis =>
      rw [List.cons_append, startsFrom, startsFrom, inductionHypothesis, Text.size_cons,
        Nat.add_assoc]
      split <;> rfl

theorem of_mem_startsFrom_cons {offset start : Nat} {c : Char} {rest : Text}
    (listed : start ∈ startsFrom offset (c :: rest)) :
    start = offset + c.utf8Size ∨ start ∈ startsFrom (offset + c.utf8Size) rest := by
  rw [startsFrom] at listed
  split at listed
  · exact List.mem_cons.mp listed
  · exact .inr listed

theorem of_mem_startsFrom {offset start : Nat} (listed : start ∈ startsFrom offset text) :
    offset < start ∧ start ≤ offset + Text.size text := by
  induction text generalizing offset with
  | nil => cases listed
  | cons c rest inductionHypothesis =>
      have positive := c.utf8Size_pos
      rw [Text.size_cons]
      rcases of_mem_startsFrom_cons listed with rfl | later
      · omega
      · have := inductionHypothesis later
        omega

theorem length_startsFrom (offset : Nat) (text : Text) :
    (startsFrom offset text).length = text.count '\n' := by
  induction text generalizing offset with
  | nil => rfl
  | cons c rest inductionHypothesis =>
      rw [startsFrom, List.count_cons]
      split <;> simp_all

theorem getLastD_starts (text : Text) :
    (0 :: startsFrom 0 text).getLastD 0 = text.lastLineStart := by
  induction text using List.reverseRecOn with
  | nil => rfl
  | append_singleton text c inductionHypothesis =>
      rw [startsFrom_append, Text.lastLineStart, Nat.zero_add]
      by_cases feed : c = '\n'
      · subst feed
        rw [List.rdropWhile_concat_neg _ _ _ (by simp), Text.size_append]
        simp [startsFrom, List.getLastD]
      · rw [List.rdropWhile_concat_pos _ _ _ (by simpa using feed)]
        simpa [startsFrom, feed, Text.lastLineStart] using inductionHypothesis

/-- Lines that start in a text start behind its first character. -/
theorem lt_of_mem_startsFrom {offset limit start : Nat} (listed : start ∈ startsFrom offset text)
    (inFirst : ∀ c ∈ text.head?, limit < offset + c.utf8Size) : limit < start := by
  cases text with
  | nil => cases listed
  | cons c rest =>
      have first := inFirst c rfl
      rcases of_mem_startsFrom_cons listed with rfl | later
      · exact first
      · exact first.trans (of_mem_startsFrom later).1

/-- The lines that start at or before an offset are those that start in the text before it, also
when the offset falls inside the next character. -/
theorem position?_of_split {offset : Nat} {rest : Text} (behind : Text.size before ≤ offset)
    (inFirst : ∀ c ∈ rest.head?, offset < Text.size before + c.utf8Size)
    (inside : offset ≤ Text.size (before ++ rest)) :
    (ofText (before ++ rest)).position? offset =
      some ⟨before.count '\n', offset - Text.lastLineStart before⟩ := by
  have lines : (0 :: startsFrom 0 (before ++ rest)).takeWhile (· ≤ offset) =
      0 :: startsFrom 0 before := by
    rw [startsFrom_append, Nat.zero_add, ← List.cons_append, List.takeWhile_append_of_pos]
    · rw [List.takeWhile_eq_nil_iff.mpr, List.append_nil]
      intro nonempty
      have := lt_of_mem_startsFrom (List.getElem_mem nonempty) inFirst
      simpa using this
    · intro start listed
      rcases List.mem_cons.mp listed with rfl | listed
      · simp
      · have := (of_mem_startsFrom listed).2
        exact decide_eq_true (by omega)
  rw [position?, ofText, if_pos inside, lines]
  dsimp only
  rw [getLastD_starts, List.length_cons, length_startsFrom, Nat.add_sub_cancel]

theorem position?_of_prefix (starts : before <+: text) :
    (ofText text).position? (Text.size before) =
      some ⟨before.count '\n', Text.size before - Text.lastLineStart before⟩ := by
  obtain ⟨rest, rfl⟩ := starts
  refine position?_of_split (Nat.le_refl _) ?_ ?_
  · exact fun c _ => Nat.lt_add_of_pos_right c.utf8Size_pos
  · rw [Text.size_append]
    exact Nat.le_add_right _ _

/-- The second line of `a⏎bc` starts at offset two. -/
example : (ofText "a\nbc".toList).position? 3 = some ⟨1, 1⟩ := by decide

end LineTable

/-- A location points at a part of a text. The span covers the part; the line and the column are
those of its start, counted from one; and the line table of the text knows them. -/
structure Location.PointsAt (location : Location) (text part : Text) : Prop where
  ordered : location.span.start ≤ location.span.stop
  inside : location.span.stop ≤ Text.size text
  covered : text.slice? location.span = some part
  position : ∃ before, before <+: text ∧ Text.size before = location.span.start ∧
    location.line = 1 + before.count '\n' ∧
    location.column = 1 + (location.span.start - Text.lastLineStart before)
  found : ∃ position, (LineTable.ofText text).position? location.span.start = some position ∧
    location.line = position.line + 1 ∧ location.column = position.column + 1

/-- A file locates every span of its text. -/
theorem File.pointsAt_locate (name : Text) (covers : span.Covers text part) :
    ((ofText name text).locate span).PointsAt text part := by
  have within := covers.isWithin
  obtain ⟨before, starts, size⟩ := within.start
  have found : (LineTable.ofText text).position? span.start =
      some ⟨before.count '\n', span.start - Text.lastLineStart before⟩ :=
    size ▸ LineTable.position?_of_prefix starts
  have located : (ofText name text).locate span =
      ⟨name, span, before.count '\n' + 1, span.start - Text.lastLineStart before + 1⟩ := by
    rw [locate, ofText, LineTable.positionOrStart, found]
    rfl
  rw [located]
  exact {
    ordered := within.ordered
    inside := within.stop.le
    covered := covers.slice?
    position := ⟨before, starts, size, Nat.add_comm _ _, Nat.add_comm _ _⟩
    found := ⟨_, found, rfl, rfl⟩ }

end ComponentStyles
