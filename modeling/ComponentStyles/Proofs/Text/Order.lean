import ComponentStyles.Proofs.Text.Utf8
import Mathlib.Data.List.Basic
import Mathlib.Data.UInt

/-!
# The order of texts

Texts are listed in the order of their bytes. The encoding keeps the order of characters, so this is
also the lexicographic order by code point that the definitions use.
-/

namespace ComponentStyles.Text

/-- The bytes of one text come before those of another one. -/
def Precedes (text other : Text) : Prop :=
  text.encoded < other.encoded

theorem ofNat_cons_lt {v w : Nat} {rest others : List UInt8} (small : w < 256) (le : v ≤ w)
    (later : v = w → rest < others) : UInt8.ofNat v :: rest < UInt8.ofNat w :: others := by
  rw [List.cons_lt_cons_iff, UInt8.lt_iff_toNat_lt, UInt8.toNat_ofNat_of_lt' small,
    UInt8.toNat_ofNat_of_lt' (Nat.lt_of_le_of_lt le small)]
  rcases Nat.lt_or_eq_of_le le with less | same
  · exact .inl less
  · exact .inr ⟨congrArg _ same, later same⟩

/-- A character of more bytes has a greater byte in front; one of as many bytes is cut into the same
digits. -/
theorem encoded_lt_of_toNat_lt {c d : Char} (less : c.toNat < d.toNat) (rest others : List UInt8) :
    String.utf8EncodeChar c ++ rest < String.utf8EncodeChar d ++ others := by
  have most : d.val.toNat < 0x110000 := by
    have valid := d.valid
    grind
  change c.val.toNat < d.val.toNat at less
  unfold String.utf8EncodeChar
  dsimp only
  split_ifs <;> simp only [List.cons_append, List.nil_append] <;>
    repeat refine ofNat_cons_lt (by omega) (by omega) fun _ => ?_
  all_goals omega

theorem not_precedes_self (text : Text) : ¬ Precedes text text :=
  List.lt_irrefl _

theorem not_precedes_of_precedes {text other : Text} (before : Precedes text other) :
    ¬ Precedes other text :=
  List.lt_asymm before

theorem Precedes.trans {first second third : Text} (before : Precedes first second)
    (behind : Precedes second third) : Precedes first third :=
  List.lt_trans before behind

instance : Std.Irrefl Precedes :=
  ⟨not_precedes_self⟩

instance : Std.Antisymm Precedes :=
  ⟨fun _ _ before behind => absurd behind (not_precedes_of_precedes before)⟩

theorem precedes_of_toNat_lt {c d : Char} (less : c.toNat < d.toNat) (rest others : Text) :
    Precedes (c :: rest) (d :: others) := by
  rw [Precedes, encoded_cons, encoded_cons]
  exact encoded_lt_of_toNat_lt less _ _

theorem precedes_of_le {text other : Text} (le : Text.le text other = true)
    (different : text ≠ other) : Precedes text other := by
  induction text generalizing other with
  | nil =>
      cases other with
      | nil => exact absurd rfl different
      | cons d others =>
          have some : String.utf8EncodeChar d ≠ [] :=
            List.ne_nil_of_length_pos (by simpa using d.utf8Size_pos)
          obtain ⟨byte, later, bytes⟩ := List.exists_cons_of_ne_nil some
          rw [Precedes, encoded_cons, bytes]
          exact List.nil_lt_cons _ _
  | cons c rest inductionHypothesis =>
      cases other with
      | nil => cases le
      | cons d others =>
          rw [Text.le] at le
          split at le
          case isTrue same =>
            subst same
            rw [Precedes, encoded_cons, encoded_cons]
            exact List.append_left_lt (inductionHypothesis le fun same => different (by rw [same]))
          case isFalse => exact precedes_of_toNat_lt (of_decide_eq_true le) rest others

theorem le_total (text other : Text) : Text.le text other = true ∨ Text.le other text = true := by
  induction text generalizing other with
  | nil => exact .inl rfl
  | cons c rest inductionHypothesis =>
      cases other with
      | nil => exact .inr rfl
      | cons d others =>
          rw [Text.le, Text.le]
          rcases Nat.lt_trichotomy c.toNat d.toNat with less | same | greater
          · exact .inl (by rw [if_neg (by rintro rfl; omega)]; exact decide_eq_true less)
          · obtain rfl : c = d := Char.toNat_inj.mp same
            simpa using inductionHypothesis others
          · exact .inr (by rw [if_neg (by rintro rfl; omega)]; exact decide_eq_true greater)

/-- The lexicographic order by code point is that of the encodings. -/
theorem precedes_iff {text other : Text} :
    Precedes text other ↔ Text.le text other = true ∧ text ≠ other := by
  constructor
  · intro before
    have different : text ≠ other := fun same => not_precedes_self other (same ▸ before)
    refine ⟨(le_total text other).resolve_right fun behind => ?_, different⟩
    exact not_precedes_of_precedes before (precedes_of_le behind different.symm)
  · exact fun ⟨le, different⟩ => precedes_of_le le different

theorem le_trans {first second third : Text} (before : Text.le first second = true)
    (behind : Text.le second third = true) : Text.le first third = true := by
  by_cases same : first = second
  · exact same ▸ behind
  by_cases alike : second = third
  · exact alike ▸ before
  exact (precedes_iff.mp ((precedes_of_le before same).trans (precedes_of_le behind alike))).1

theorem precedes_cons_iff {c : Char} {text other : Text} :
    Precedes (c :: text) (c :: other) ↔ Precedes text other := by
  rw [precedes_iff, precedes_iff, Text.le, if_pos rfl, Ne, List.cons_inj_right]

end ComponentStyles.Text
