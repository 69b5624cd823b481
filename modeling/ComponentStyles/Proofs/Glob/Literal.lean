import ComponentStyles.Glob.Language
import ComponentStyles.Proofs.Pattern.Language
import ComponentStyles.Proofs.Text.Utf8

/-!
# Globs of a directory

A text without metacharacters, followed by a slash and two stars, is the glob of all that is written
behind that text and the slash. It takes paths as they are written and knows nothing of dots.
-/

namespace ComponentStyles

namespace Glob

/-- Whether a character stands for itself in a glob, outside of groups. -/
def isLiteral (c : Char) : Bool :=
  !(['?', '*', '[', '\x7b', '\x7d', '\\'].contains c)

/-- The glob of what lies in a directory. -/
def insideText (directory : Text) : Text :=
  directory ++ "/**".toList

section Read

variable {draft : Draft} {c : Char}

theorem readFrom_literal (top : draft.groups = []) (literal : isLiteral c = true)
    (previous : Option Char) (rest : Text) :
    readFrom draft previous (c :: rest) = readFrom (draft.push (.character c)) (some c) rest := by
  rw [readFrom.eq_def]
  split
  case h_1 empty => cases empty
  case h_8 whole =>
    obtain ⟨rfl, rfl⟩ := List.cons.inj whole
    rw [Draft.comma, top]
  case h_11 whole =>
    obtain ⟨rfl, rfl⟩ := List.cons.inj whole
    rfl
  all_goals
    next whole =>
      obtain ⟨rfl, -⟩ := List.cons.inj whole
      exact absurd literal (by decide)

/-- Behind other parts, two stars after a slash stand for all that lies inside. -/
theorem readFrom_stars (parts : List GlobPart) :
    readFrom ⟨.character '/' :: parts, []⟩ (some '/') "**".toList =
      .ok (parts.reverse ++ [.inside]) := by
  have taken : Draft.doubleStar ⟨.character '/' :: parts, []⟩ (some '/') [] =
      (⟨.inside :: parts, []⟩, false) := rfl
  change readFrom _ _ ['*', '*'] = _
  rw [readFrom, taken]
  dsimp only
  rw [readFrom, ← List.reverse_cons]
  rfl

theorem readFrom_insideText {directory : Text} (literal : ∀ c ∈ directory, isLiteral c = true)
    (parts : List GlobPart) (previous : Option Char) :
    readFrom ⟨parts, []⟩ previous (insideText directory) =
      .ok (parts.reverse ++ (directory.map .character ++ [.inside])) := by
  induction directory generalizing parts previous with
  | nil =>
      change readFrom _ _ ('/' :: "**".toList) = _
      rw [readFrom_literal rfl (by decide)]
      exact readFrom_stars parts
  | cons c directory inductionHypothesis =>
      have first := literal c List.mem_cons_self
      have later : ∀ c ∈ directory, isLiteral c = true := fun c listed =>
        literal c (List.mem_cons_of_mem _ listed)
      have onward := inductionHypothesis later (.character c :: parts) (some c)
      rw [List.reverse_cons, List.append_assoc] at onward
      change readFrom _ _ (c :: insideText directory) = _
      rw [readFrom_literal rfl first]
      exact onward

end Read

end Glob

namespace GlobPart

/-- The character that stands for a byte. -/
def ofByte (byte : UInt8) : Char :=
  Char.ofNat byte.toNat

theorem ofByte_injective : Function.Injective ofByte := by
  intro a b same
  have valid (byte : UInt8) : byte.toNat.isValidChar := by
    have small := byte.toNat_lt
    exact .inl (by omega)
  have numbers := congrArg Char.toNat same
  rw [ofByte, ofByte, Char.ofNat, Char.ofNat, dif_pos (valid a), dif_pos (valid b)] at numbers
  exact UInt8.toNat_inj.mp numbers

theorem byteChars_eq_map_encoded (text : Text) : byteChars text = text.encoded.map ofByte := by
  rw [byteChars, Text.bytes_eq_map_encoded, List.map_map]
  rfl

theorem byteChars_append (front rest : Text) :
    byteChars (front ++ rest) = byteChars front ++ byteChars rest := by
  rw [byteChars_eq_map_encoded, Text.encoded_append, List.map_append, ← byteChars_eq_map_encoded,
    ← byteChars_eq_map_encoded]

theorem byteChars_prefix_iff {front text : Text} :
    byteChars front <+: byteChars text ↔ front <+: text := by
  rw [byteChars_eq_map_encoded, byteChars_eq_map_encoded,
    List.prefix_map_iff_of_injective ofByte_injective, Text.encoded_prefix_iff]

theorem matches_slash_iff {text : Text} : slash.Matches text ↔ text = ['/'] := by
  rw [slash, Pattern.matches_one_iff]
  constructor
  · rintro ⟨c, contained, rfl⟩
    simp only [CharClass.oneOf, CharClass.contains, List.map_cons, List.map_nil, List.any_cons,
      List.any_nil, Bool.or_false, Bool.false_bne, Bool.and_eq_true, decide_eq_true_eq,
      ← Nat.le_antisymm_iff] at contained
    rw [Char.toNat_inj.mp contained]
  · rintro rfl
    exact ⟨'/', by decide, rfl⟩

theorem matches_inside_iff {text : Text} :
    inside.pattern.Matches text ↔ ∃ rest, text = '/' :: rest := by
  rw [pattern, anything, anyOne, Pattern.matches_both_iff]
  constructor
  · rintro ⟨_, rest, rfl, isSlash, -⟩
    rw [matches_slash_iff] at isSlash
    rw [isSlash]
    exact ⟨rest, rfl⟩
  · rintro ⟨rest, rfl⟩
    exact ⟨['/'], rest, rfl, matches_slash_iff.mpr rfl,
      Pattern.matches_many_one_iff.mpr fun _ _ => rfl⟩

/-- Characters are found in front as they stand. -/
theorem matches_characters_iff {directory text : Text} {parts : List GlobPart} :
    (rowPattern (directory.map .character ++ parts)).Matches text ↔
      ∃ rest, text = byteChars directory ++ rest ∧ (rowPattern parts).Matches rest := by
  induction directory generalizing text with
  | nil => simp [byteChars, Text.bytes]
  | cons c directory inductionHypothesis =>
      have split : byteChars (c :: directory) = byteChars [c] ++ byteChars directory :=
        byteChars_append [c] directory
      rw [List.map_cons, List.cons_append, rowPattern, Pattern.matches_sequence_iff,
        Pattern.matches_both_iff, pattern, split]
      constructor
      · rintro ⟨_, others, rfl, first, later⟩
        obtain rfl := Pattern.matches_word_iff.mp first
        obtain ⟨rest, rfl, matched⟩ := inductionHypothesis.mp later
        exact ⟨rest, (List.append_assoc _ _ _).symm, matched⟩
      · rintro ⟨rest, rfl, matched⟩
        exact ⟨byteChars [c], byteChars directory ++ rest, List.append_assoc _ _ _,
          Pattern.matches_word_iff.mpr rfl, inductionHypothesis.mpr ⟨rest, rfl, matched⟩⟩

end GlobPart

namespace Glob

variable {directory path : Text} {glob : Glob}

theorem ofText_insideText (literal : ∀ c ∈ directory, isLiteral c = true) :
    ofText (insideText directory) =
      .ok ⟨insideText directory, directory.map .character ++ [.inside]⟩ := by
  rw [ofText, readFrom_insideText literal]
  rfl

/-- A glob of what lies in a directory describes the paths that are written below it. -/
theorem describes_insideText_iff (literal : ∀ c ∈ directory, isLiteral c = true)
    (read : ofText (insideText directory) = .ok glob) :
    glob.describes path = true ↔ directory ++ ['/'] <+: path := by
  rw [ofText_insideText literal] at read
  obtain rfl := Except.ok.inj read
  have row : Glob.pattern ⟨insideText directory, directory.map .character ++ [.inside]⟩ =
      GlobPart.rowPattern (directory.map .character ++ [.inside]) := by
    rw [pattern]
    split
    case h_1 alone => cases directory <;> cases alone
    case h_2 => rfl
  rw [describes, Pattern.accepts_iff, row, GlobPart.matches_characters_iff,
    ← GlobPart.byteChars_prefix_iff, GlobPart.byteChars_append, GlobPart.rowPattern,
    GlobPart.rowPattern]
  simp only [Pattern.matches_sequence_iff, Pattern.matches_both_iff, Pattern.matches_empty_iff,
    GlobPart.matches_inside_iff]
  have slash : GlobPart.byteChars ['/'] = ['/'] := by decide +kernel
  rw [slash]
  constructor
  · rintro ⟨_, whole, _, _, rfl, ⟨rest, rfl⟩, rfl⟩
    exact ⟨rest, by simp [whole]⟩
  · rintro ⟨rest, whole⟩
    exact ⟨'/' :: rest, by simp [← whole], '/' :: rest, [], by simp, ⟨rest, rfl⟩, rfl⟩

end Glob

end ComponentStyles
