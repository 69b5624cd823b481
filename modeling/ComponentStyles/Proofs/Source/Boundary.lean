import ComponentStyles.Source.Span
import Mathlib.Data.List.Infix

/-!
# Spans within a text

An offset into a text is a boundary if no character straddles it. A span between two boundaries
covers a part of the text, and slicing the text gives that part.
-/

namespace ComponentStyles

variable {text part more before : Text} {a b offset : Nat} {span : Span}

namespace Text

theorem eq_nil_of_size (empty : size text = 0) : text = [] := by
  cases text with
  | nil => rfl
  | cons c rest =>
      have := c.utf8Size_pos
      rw [size_cons] at empty
      omega

theorem dropBytes?_cons (c : Char) (bytes : Nat) (rest : Text) :
    dropBytes? (c.utf8Size + bytes) (c :: rest) = dropBytes? bytes rest := by
  obtain ⟨width, same⟩ := Nat.exists_eq_add_one.mpr c.utf8Size_pos
  rw [same, Nat.add_right_comm, dropBytes?, same, Nat.succ_eq_add_one, if_pos (by omega)]
  congr 1
  omega

theorem takeBytes?_cons (c : Char) (bytes : Nat) (rest : Text) :
    takeBytes? (c.utf8Size + bytes) (c :: rest) = (takeBytes? bytes rest).map (c :: ·) := by
  obtain ⟨width, same⟩ := Nat.exists_eq_add_one.mpr c.utf8Size_pos
  rw [same, Nat.add_right_comm, takeBytes?, same, Nat.succ_eq_add_one, if_pos (by omega)]
  congr 2
  omega

theorem dropBytes?_size (before rest : Text) :
    dropBytes? (size before) (before ++ rest) = some rest := by
  induction before with
  | nil => cases rest <;> rfl
  | cons c before inductionHypothesis =>
      rw [size_cons, List.cons_append, dropBytes?_cons, inductionHypothesis]

theorem takeBytes?_size (part rest : Text) : takeBytes? (size part) (part ++ rest) = some part := by
  induction part with
  | nil => cases rest <;> rfl
  | cons c part inductionHypothesis =>
      rw [size_cons, List.cons_append, takeBytes?_cons, inductionHypothesis, Option.map_some]

/-- Of two texts that the same text starts with, the smaller one starts the other. -/
theorem prefix_of_size_le {front : Text} (starts : front <+: text) (startsToo : before <+: text)
    (smaller : size front ≤ size before) : front <+: before := by
  rcases List.prefix_or_prefix_of_prefix starts startsToo with shorter | ⟨extra, rfl⟩
  · exact shorter
  · rw [size_append] at smaller
    rw [eq_nil_of_size (by omega : size extra = 0), List.append_nil]

/-- An offset at which some character of the text starts, or the text ends. -/
def IsBoundary (text : Text) (offset : Nat) : Prop :=
  ∃ before, before <+: text ∧ size before = offset

theorem isBoundary_size (starts : before <+: text) : text.IsBoundary (size before) :=
  ⟨before, starts, rfl⟩

theorem IsBoundary.le (boundary : text.IsBoundary offset) : offset ≤ size text := by
  obtain ⟨before, ⟨rest, rfl⟩, rfl⟩ := boundary
  rw [size_append]
  exact Nat.le_add_right _ _

end Text

namespace Span

/-- A span of a text that starts and stops at boundaries. -/
structure IsWithin (span : Span) (text : Text) : Prop where
  start : text.IsBoundary span.start
  stop : text.IsBoundary span.stop
  ordered : span.start ≤ span.stop

theorem isWithin_emptyAt (boundary : text.IsBoundary offset) : (emptyAt offset).IsWithin text :=
  ⟨boundary, boundary, Nat.le_refl _⟩

/-- The part of a text that a span stands for. -/
def Covers (span : Span) (text part : Text) : Prop :=
  ∃ before, before ++ part <+: text ∧ span = ⟨Text.size before, Text.size (before ++ part)⟩

theorem Covers.isWithin (covers : span.Covers text part) : span.IsWithin text := by
  obtain ⟨before, starts, rfl⟩ := covers
  refine ⟨⟨before, (List.prefix_append _ _).trans starts, rfl⟩, ⟨_, starts, rfl⟩, ?_⟩
  rw [Text.size_append]
  exact Nat.le_add_right _ _

theorem Covers.start_lt_stop (covers : span.Covers text part) (filled : part ≠ []) :
    span.start < span.stop := by
  obtain ⟨before, -, rfl⟩ := covers
  rw [Text.size_append]
  exact Nat.lt_add_of_pos_right (Nat.pos_of_ne_zero (mt Text.eq_nil_of_size filled))

theorem IsWithin.exists_covers (within : span.IsWithin text) : ∃ part, span.Covers text part := by
  obtain ⟨start, stop⟩ := span
  obtain ⟨⟨before, starts, rfl⟩, ⟨through, startsToo, rfl⟩, ordered⟩ := within
  obtain ⟨part, rfl⟩ := Text.prefix_of_size_le starts startsToo ordered
  exact ⟨part, before, startsToo, rfl⟩

/-- A span that stops later covers more of the text. -/
theorem Covers.extend (covers : Covers ⟨a, b⟩ text part) (boundary : text.IsBoundary offset)
    (later : b ≤ offset) : ∃ more, Covers ⟨a, offset⟩ text (part ++ more) := by
  obtain ⟨before, starts, same⟩ := covers
  obtain ⟨rfl, rfl⟩ := Span.mk.inj same
  obtain ⟨through, startsToo, rfl⟩ := boundary
  obtain ⟨more, rfl⟩ := Text.prefix_of_size_le starts startsToo later
  rw [List.append_assoc] at startsToo ⊢
  exact ⟨more, before, startsToo, rfl⟩

theorem Covers.append (first : Covers ⟨a, b⟩ text part) (later : Covers ⟨b, offset⟩ text more) :
    Covers ⟨a, offset⟩ text (part ++ more) := by
  obtain ⟨before, starts, same⟩ := first
  obtain ⟨rfl, rfl⟩ := Span.mk.inj same
  obtain ⟨through, startsToo, sameToo⟩ := later
  obtain ⟨sizes, rfl⟩ := Span.mk.inj sameToo
  have startsThrough : through <+: text := (List.prefix_append _ _).trans startsToo
  obtain ⟨extra, rfl⟩ := Text.prefix_of_size_le starts startsThrough (Nat.le_of_eq sizes)
  rw [Text.size_append (before ++ part)] at sizes
  rw [Text.eq_nil_of_size (by omega : Text.size extra = 0), List.append_nil, List.append_assoc]
    at startsToo ⊢
  exact ⟨before, startsToo, rfl⟩

theorem Covers.slice? (covers : span.Covers text part) : text.slice? span = some part := by
  obtain ⟨before, ⟨rest, rfl⟩, rfl⟩ := covers
  rw [List.append_assoc, Text.slice?, length, Text.size_append, if_pos (Nat.le_add_right _ _),
    Nat.add_sub_cancel_left, Text.dropBytes?_size]
  exact Text.takeBytes?_size part rest

end Span

end ComponentStyles
