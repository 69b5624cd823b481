import ComponentStyles.Text

/-!
The UTF-8 encoding of text.
-/

namespace ComponentStyles.Text

/-- The bytes of a text in UTF-8. -/
def bytes (text : Text) : List Nat :=
  text.flatMap fun c => (String.utf8EncodeChar c).map UInt8.toNat

/-- Reads a text in UTF-8, unless some bytes do not form a character. -/
def ofBytes? : List Nat → Option Text
  | [] => some []
  | a :: rest =>
      let tail (b : Nat) : Bool := 0x80 ≤ b && b ≤ 0xBF
      if a < 0x80 then (ofBytes? rest).map (Char.ofNat a :: ·)
      else
        match rest with
        | b :: rest =>
            if 0xC2 ≤ a && a ≤ 0xDF && tail b then
              (ofBytes? rest).map (Char.ofNat ((a - 0xC0) * 64 + (b - 0x80)) :: ·)
            else
              match rest with
              | c :: rest =>
                  let value := (a - 0xE0) * 4096 + (b - 0x80) * 64 + (c - 0x80)
                  if 0xE0 ≤ a && a ≤ 0xEF && tail b && tail c && 0x800 ≤ value &&
                      !(0xD800 ≤ value && value ≤ 0xDFFF) then
                    (ofBytes? rest).map (Char.ofNat value :: ·)
                  else
                    match rest with
                    | d :: rest =>
                        let value := (a - 0xF0) * 262144 + (b - 0x80) * 4096 +
                          (c - 0x80) * 64 + (d - 0x80)
                        if 0xF0 ≤ a && a ≤ 0xF4 && tail b && tail c && tail d &&
                            0x10000 ≤ value && value ≤ 0x10FFFF then
                          (ofBytes? rest).map (Char.ofNat value :: ·)
                        else none
                    | [] => none
              | [] => none
        | [] => none

end ComponentStyles.Text
