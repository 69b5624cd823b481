import ComponentStyles.Text.Utf8
import Mathlib.Data.List.Basic

/-!
# Encoded texts

The bytes of a text tell where each of its characters ends. So one text starts with another one just
when its bytes do.
-/

namespace ComponentStyles.Text

/-- The encoding of a text. -/
def encoded (text : Text) : List UInt8 :=
  text.flatMap String.utf8EncodeChar

theorem bytes_eq_map_encoded (text : Text) : bytes text = text.encoded.map UInt8.toNat :=
  List.map_flatMap.symm

theorem encoded_cons (c : Char) (text : Text) :
    encoded (c :: text) = String.utf8EncodeChar c ++ encoded text :=
  List.flatMap_cons

theorem encoded_append (front rest : Text) : encoded (front ++ rest) = encoded front ++ encoded rest :=
  List.flatMap_append

/-- The bytes in front tell the first character. -/
theorem first_eq_of_encoded {c d : Char} {rest others : List UInt8}
    (same : String.utf8EncodeChar c ++ rest = String.utf8EncodeChar d ++ others) : c = d := by
  have decoded := congrArg (fun bytes => bytes.toByteArray.utf8DecodeChar? 0) same
  simp only [List.toByteArray_append, ByteArray.utf8DecodeChar?_utf8EncodeChar_append] at decoded
  exact Option.some.inj decoded

theorem encoded_prefix_iff {front text : Text} : front.encoded <+: text.encoded ↔ front <+: text := by
  constructor
  · intro starts
    induction front generalizing text with
    | nil => exact List.nil_prefix
    | cons c front inductionHypothesis =>
        obtain ⟨rest, whole⟩ := starts
        rw [encoded_cons, List.append_assoc] at whole
        cases text with
        | nil =>
            have empty := congrArg List.length whole
            have positive := c.utf8Size_pos
            simp only [List.length_append, String.length_utf8EncodeChar, encoded, List.flatMap_nil,
              List.length_nil] at empty
            omega
        | cons d text =>
            rw [encoded_cons] at whole
            obtain rfl := first_eq_of_encoded whole
            have later := inductionHypothesis ⟨rest, List.append_cancel_left whole⟩
            exact List.cons_prefix_cons.mpr ⟨rfl, later⟩
  · rintro ⟨rest, rfl⟩
    rw [encoded_append]
    exact List.prefix_append _ _

end ComponentStyles.Text
