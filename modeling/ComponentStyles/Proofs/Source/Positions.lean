import ComponentStyles.Proofs.Source.Lines
import ComponentStyles.Proofs.Text.Utf8

/-!
# Positions of all offsets

An offset up to the end of a text has a position, whether or not it falls inside a character: the line
counts the line feeds among the bytes in front of it, and the column the bytes behind the last of
them. The starts of the lines are in order, so whichever way a line is searched for among them, it is
that one; and positions are in the order of their offsets.
-/

namespace ComponentStyles

variable {text before rest : Text} {offset : Nat}

namespace Text

/-- The byte that ends a line. -/
def lineFeed : UInt8 :=
  10

/-- Where the last line of some bytes starts: behind the last line feed, or at their start. -/
def lastBreak (bytes : List UInt8) : Nat :=
  (bytes.rdropWhile (· != lineFeed)).length

theorem length_encoded (text : Text) : text.encoded.length = size text := by
  induction text with
  | nil => rfl
  | cons c rest inductionHypothesis =>
      rw [encoded_cons, List.length_append, inductionHypothesis, String.length_utf8EncodeChar,
        size_cons]

/-- The byte of a line feed stands for nothing else. -/
theorem lineFeed_notMem {c : Char} (other : c ≠ '\n') : lineFeed ∉ String.utf8EncodeChar c := by
  have number : c.val.toNat ≠ 10 := fun same => other (Char.toNat_inj.mp same)
  have feed : lineFeed.toNat = 10 := rfl
  have most : c.val.toNat < 0x110000 := by
    have valid := c.valid
    grind
  unfold String.utf8EncodeChar
  dsimp only
  split_ifs <;> simp only [List.mem_cons, List.not_mem_nil, or_false, not_or, ← UInt8.toNat_inj,
    UInt8.toNat_ofNat', feed] <;> omega

theorem count_encoded (text : Text) : text.encoded.count lineFeed = text.count '\n' := by
  induction text with
  | nil => rfl
  | cons c rest inductionHypothesis =>
      rw [encoded_cons, List.count_append, inductionHypothesis, List.count_cons]
      by_cases isFeed : c = '\n'
      · subst isFeed
        exact Nat.add_comm _ _
      · rw [List.count_eq_zero.mpr (lineFeed_notMem isFeed), if_neg (by simpa using isFeed)]
        exact Nat.zero_add _

/-- Bytes that hold no line feed start no line. -/
theorem lastBreak_append {bytes more : List UInt8} (absent : lineFeed ∉ more) :
    lastBreak (bytes ++ more) = lastBreak bytes := by
  have same : ∀ byte ∈ more.reverse, (byte != lineFeed) = true := fun byte listed => by
    simpa using fun isFeed : byte = lineFeed => absent (isFeed ▸ List.mem_reverse.mp listed)
  rw [lastBreak, lastBreak, List.rdropWhile, List.reverse_append, List.dropWhile_append_of_pos same]
  rfl

theorem lastBreak_encoded (text : Text) : lastBreak text.encoded = text.lastLineStart := by
  induction text using List.reverseRecOn with
  | nil => rfl
  | append_singleton text c inductionHypothesis =>
      have one : encoded [c] = String.utf8EncodeChar c := by simp [encoded]
      rw [encoded_append, one, lastLineStart]
      by_cases isFeed : c = '\n'
      · subst isFeed
        rw [List.rdropWhile_concat_neg _ _ _ (by simp), lastBreak,
          show String.utf8EncodeChar '\n' = [lineFeed] from rfl,
          List.rdropWhile_concat_neg _ _ _ (by simp), List.length_append, length_encoded, size_append]
        rfl
      · rw [lastBreak_append (lineFeed_notMem isFeed),
          List.rdropWhile_concat_pos _ _ _ (by simpa using isFeed), inductionHypothesis]
        rfl

/-- An offset within a text stands behind some characters, in front of the next one or inside it. -/
theorem exists_split (inside : offset ≤ size text) :
    ∃ before rest, text = before ++ rest ∧ size before ≤ offset ∧
      ∀ c ∈ rest.head?, offset < size before + c.utf8Size := by
  induction text generalizing offset with
  | nil => exact ⟨[], [], rfl, Nat.zero_le _, nofun⟩
  | cons c text inductionHypothesis =>
      by_cases first : offset < c.utf8Size
      · refine ⟨[], c :: text, rfl, Nat.zero_le _, ?_⟩
        rintro _ ⟨⟩
        simpa using first
      · rw [size_cons] at inside
        obtain ⟨before, rest, rfl, behind, inFirst⟩ :=
          inductionHypothesis (by omega : offset - c.utf8Size ≤ size text)
        refine ⟨c :: before, rest, rfl, ?_, fun d isFirst => ?_⟩
        · rw [size_cons]
          omega
        · have := inFirst d isFirst
          rw [size_cons]
          omega

/-- The bytes in front of an offset are those of the characters in front of it, and maybe some of the
next one, which is no line feed then. -/
theorem exists_take_encoded (behind : size before ≤ offset)
    (inFirst : ∀ c ∈ rest.head?, offset < size before + c.utf8Size) :
    ∃ more, (before ++ rest).encoded.take offset = before.encoded ++ more ∧ lineFeed ∉ more := by
  refine ⟨rest.encoded.take (offset - size before), ?_, ?_⟩
  · rw [encoded_append, List.take_append, length_encoded,
      List.take_of_length_le (by rwa [length_encoded])]
  · cases rest with
    | nil => simp [encoded]
    | cons c rest =>
        have within := inFirst c rfl
        rw [encoded_cons, List.take_append_of_le_length (by rw [String.length_utf8EncodeChar]; omega)]
        by_cases isFeed : c = '\n'
        · subst isFeed
          have nothing : offset - size before = 0 := by
            rw [show '\n'.utf8Size = 1 from rfl] at within
            omega
          rw [nothing, List.take_zero]
          exact List.not_mem_nil
        · exact fun listed => lineFeed_notMem isFeed (List.mem_of_mem_take listed)

end Text

/-- On an earlier line, or further to the left on the same one. -/
def Position.Precedes (a b : Position) : Prop :=
  a.line < b.line ∨ a.line = b.line ∧ a.column < b.column

theorem Position.Precedes.asymm {a b : Position} (precedes : a.Precedes b) : ¬ b.Precedes a := by
  rw [Precedes] at precedes ⊢
  omega

namespace LineTable

theorem position?_eq_none_iff : (ofText text).position? offset = none ↔ text.encoded.length < offset := by
  rw [position?, ofText, Text.length_encoded]
  dsimp only
  split <;> simp <;> omega

theorem position?_of_le (inside : offset ≤ text.encoded.length) :
    (ofText text).position? offset =
      some ⟨(text.encoded.take offset).count Text.lineFeed,
        offset - Text.lastBreak (text.encoded.take offset)⟩ := by
  rw [Text.length_encoded] at inside
  obtain ⟨before, rest, rfl, behind, inFirst⟩ := Text.exists_split inside
  obtain ⟨more, bytes, absent⟩ := Text.exists_take_encoded behind inFirst
  rw [position?_of_split behind inFirst inside, bytes, List.count_append,
    List.count_eq_zero.mpr absent, Nat.add_zero, Text.count_encoded, Text.lastBreak_append absent,
    Text.lastBreak_encoded]

theorem ordered_startsFrom (first : Nat) (text : Text) : (startsFrom first text).Pairwise (· < ·) := by
  induction text generalizing first with
  | nil => exact .nil
  | cons c rest inductionHypothesis =>
      rw [startsFrom]
      split
      · refine .cons ?_ (inductionHypothesis _)
        exact fun start listed => (of_mem_startsFrom listed).1
      · exact inductionHypothesis _

/-- The starts of the lines are in order, and the first line starts where the text does. -/
theorem ordered_starts (text : Text) : (ofText text).starts.Pairwise (· < ·) :=
  .cons (fun _ listed => (of_mem_startsFrom listed).1) (ordered_startsFrom 0 text)

/-- What a search for an offset among the starts of the lines may answer: the line that starts there,
or the place where such a line would have to be inserted. -/
inductive Finds (starts : List Nat) (offset : Nat) : Except Nat Nat → Prop where
  | line {line} : starts[line]? = some offset → Finds starts offset (.ok line)
  | place {place} : place ≤ starts.length → (∀ start ∈ starts.take place, start < offset) →
      (∀ start ∈ starts.drop place, offset < start) → Finds starts offset (.error place)

/-- The line that the answer of a search leads to. -/
def lineOf : Except Nat Nat → Nat
  | .ok line => line
  | .error place => place - 1

variable {starts : List Nat} {position other : Position} {offsetToo : Nat}

theorem takeWhile_eq_take (count : Nat) (reached : ∀ start ∈ starts.take count, start ≤ offset)
    (further : ∀ start ∈ starts.drop count, offset < start) :
    starts.takeWhile (· ≤ offset) = starts.take count := by
  conv_lhs => rw [← List.take_append_drop count starts]
  rw [List.takeWhile_append_of_pos fun start listed => decide_eq_true (reached start listed),
    List.takeWhile_eq_nil_iff.mpr, List.append_nil]
  intro nonempty
  have := further _ (List.getElem_mem nonempty)
  simpa using this

/-- However a search goes on, it leads to the last line that starts at or before the offset. -/
theorem Finds.lineOf_eq (ordered : starts.Pairwise (· < ·)) {answer : Except Nat Nat}
    (finds : Finds starts offset answer) :
    lineOf answer = (starts.takeWhile (· ≤ offset)).length - 1 := by
  cases finds with
  | @line line here =>
      obtain ⟨inside, isOffset⟩ := List.getElem?_eq_some_iff.mp here
      have split : starts.take (line + 1) = starts.take line ++ [offset] := by
        rw [List.take_add_one, here]
        rfl
      have whole : starts = starts.take line ++ offset :: starts.drop (line + 1) := by
        rw [← isOffset, ← List.drop_eq_getElem_cons, List.take_append_drop]
      rw [whole] at ordered
      obtain ⟨-, behind, between⟩ := List.pairwise_append.mp ordered
      rw [takeWhile_eq_take (line + 1), List.length_take, lineOf]
      · omega
      · intro start listed
        rw [split] at listed
        rcases List.mem_append.mp listed with before | here
        · exact Nat.le_of_lt (between start before offset List.mem_cons_self)
        · exact Nat.le_of_eq (List.mem_singleton.mp here)
      · exact fun start listed => List.rel_of_pairwise_cons behind listed
  | place inside before behind =>
      rw [takeWhile_eq_take _ (fun start listed => Nat.le_of_lt (before start listed)) behind,
        List.length_take, Nat.min_eq_left inside, lineOf]

/-- The line of a position starts as many bytes in front of the offset as the column says. -/
theorem exists_start (known : (ofText text).position? offset = some position) :
    ∃ start, (ofText text).starts[position.line]? = some start ∧ start + position.column = offset := by
  rw [position?] at known
  split at known
  case isFalse => cases known
  case isTrue inside =>
    obtain rfl := Option.some.inj known
    have reached : (ofText text).starts.takeWhile (· ≤ offset) ≠ [] := by
      rw [ofText, List.takeWhile_cons_of_pos (by simp)]
      exact List.cons_ne_nil _ _
    have isPrefix := List.takeWhile_prefix (p := (· ≤ offset)) (l := (ofText text).starts)
    have all := List.all_eq_true.mp (List.all_takeWhile (p := (· ≤ offset)) (l := (ofText text).starts))
    generalize (ofText text).starts.takeWhile (· ≤ offset) = lines at reached isPrefix all
    have inLines : lines.length - 1 < lines.length :=
      Nat.sub_lt (List.length_pos_iff.mpr reached) Nat.one_pos
    have last : lines.getLastD 0 = lines[lines.length - 1] := by
      rw [List.getLastD_eq_getLast?, List.getLast?_eq_getElem?, List.getElem?_eq_getElem inLines]
      rfl
    refine ⟨lines[lines.length - 1], ?_, ?_⟩
    · rw [isPrefix.getElem inLines, List.getElem?_eq_getElem]
    · have le := of_decide_eq_true (all _ (List.getElem_mem inLines))
      dsimp only
      omega

theorem eq_of_position? (known : (ofText text).position? offset = some position) :
    offset ≤ text.encoded.length ∧ position = ⟨(text.encoded.take offset).count Text.lineFeed,
      offset - Text.lastBreak (text.encoded.take offset)⟩ := by
  have inside : offset ≤ text.encoded.length := by
    by_contra outside
    rw [position?_eq_none_iff.mpr (by omega)] at known
    cases known
  exact ⟨inside, Option.some.inj (known.symm.trans (position?_of_le inside))⟩

/-- Positions are in the order of their offsets. -/
theorem precedes_of_lt (known : (ofText text).position? offset = some position)
    (knownToo : (ofText text).position? offsetToo = some other) (less : offset < offsetToo) :
    position.Precedes other := by
  obtain ⟨start, line, column⟩ := exists_start known
  obtain ⟨startToo, lineToo, columnToo⟩ := exists_start knownToo
  have le : position.line ≤ other.line := by
    rw [(eq_of_position? known).2, (eq_of_position? knownToo).2]
    exact (List.take_sublist_take_left (Nat.le_of_lt less)).count_le _
  rcases Nat.lt_or_eq_of_le le with earlier | same
  · exact .inl earlier
  · rw [same, lineToo] at line
    obtain rfl := Option.some.inj line
    exact .inr ⟨same, by omega⟩

theorem eq_of_position_eq (known : (ofText text).position? offset = some position)
    (knownToo : (ofText text).position? offsetToo = some position) : offset = offsetToo := by
  rcases Nat.lt_trichotomy offset offsetToo with less | same | greater
  · have precedes := precedes_of_lt known knownToo less
    exact absurd precedes precedes.asymm
  · exact same
  · have precedes := precedes_of_lt knownToo known greater
    exact absurd precedes precedes.asymm

theorem lt_iff_precedes (known : (ofText text).position? offset = some position)
    (knownToo : (ofText text).position? offsetToo = some other) :
    offset < offsetToo ↔ position.Precedes other := by
  refine ⟨precedes_of_lt known knownToo, fun precedes => ?_⟩
  rcases Nat.lt_trichotomy offset offsetToo with less | rfl | greater
  · exact less
  · obtain rfl := Option.some.inj (known.symm.trans knownToo)
    exact absurd precedes precedes.asymm
  · exact absurd precedes (precedes_of_lt knownToo known greater).asymm

/-- The line table of a text gives each offset up to its end the position that its bytes say, whatever
way the lines are searched; the positions are in the order of the offsets. -/
theorem positions_count_bytes (text : Text) :
    (ofText text).lineCount = text.encoded.count Text.lineFeed + 1 ∧
      (∀ offset, (ofText text).position? offset = none ↔ text.encoded.length < offset) ∧
      (∀ offset ≤ text.encoded.length, (ofText text).position? offset =
        some ⟨(text.encoded.take offset).count Text.lineFeed,
          offset - Text.lastBreak (text.encoded.take offset)⟩) ∧
      (ofText text).starts.Pairwise (· < ·) ∧
      ∀ offset position, (ofText text).position? offset = some position →
        (∀ answer, Finds (ofText text).starts offset answer → lineOf answer = position.line) ∧
        (∃ start, (ofText text).starts[position.line]? = some start ∧
          start + position.column = offset) ∧
        ∀ offsetToo other, (ofText text).position? offsetToo = some other →
          (offset = offsetToo ↔ position = other) ∧ (offset < offsetToo ↔ position.Precedes other) := by
  refine ⟨?_, fun offset => position?_eq_none_iff, fun offset => position?_of_le, ordered_starts text,
    fun offset position known => ⟨?_, exists_start known, fun offsetToo other knownToo =>
      ⟨?_, lt_iff_precedes known knownToo⟩⟩⟩
  · rw [lineCount, ofText, List.length_cons, length_startsFrom, Text.count_encoded]
  · intro answer finds
    rw [finds.lineOf_eq (ordered_starts text)]
    rw [position?] at known
    split at known
    case isTrue => rw [← Option.some.inj known]
    case isFalse => cases known
  · refine ⟨?_, fun same => eq_of_position_eq known (same ▸ knownToo)⟩
    rintro rfl
    exact Option.some.inj (known.symm.trans knownToo)

/-- An offset inside the second character, which takes two bytes. -/
example : (ofText "a\u00e9\n".toList).position? 2 = some ⟨0, 2⟩ := by decide

end LineTable

end ComponentStyles
