import ComponentStyles.Json.Basic
import ComponentStyles.Json.Reader

/-!
# Objects read back

A written object is read again entry by entry, whatever its keys hold: a quoted text ends at its
closing quote, since every quote inside it is escaped, and between entries there are only blanks.
-/

namespace ComponentStyles.Json

namespace Reader

variable {Value : Type}

/-- Reads the entries of an object behind its opening bracket, or behind an entry. -/
def entriesFrom (value : Reader Value) (first : Bool) (text : Text) :
    Except Fault (List (Text × Value) × Text) := do
  match ← nextKey first text with
  | .closed rest => .ok ([], rest)
  | .item key =>
      let (name, rest) ← stringRest key
      let (found, rest) ← value (← colon rest)
      if _shorter : rest.length < text.length then
        let (more, last) ← entriesFrom value false rest
        .ok ((name, found) :: more, last)
      else
        .error .malformed
termination_by text.length

/-- Reads an object whose values are all of one kind. -/
def object (value : Reader Value) : Reader (List (Text × Value)) := fun text =>
  match skipBlanks text with
  | '\x7b' :: rest => entriesFrom value true rest
  | _ => .error (unexpected text)

section Strings

variable {c : Char} {rest : Text}

theorem hexValue?_hexDigit : ∀ n < 16, hexValue? (hexDigit n) = some n := by
  decide

theorem utf8Size_hexDigit : ∀ n < 16, (hexDigit n).utf8Size = 1 := by
  decide

/-- The escape of a control character is the number of the character. -/
theorem codeUnit_control (control : c.toNat < 32) :
    codeUnit ('0' :: '0' :: hexDigit (c.toNat / 16) :: hexDigit (c.toNat % 16) :: rest) =
      .ok (c.toNat, rest) := by
  have high : c.toNat / 16 < 16 := by omega
  have low : c.toNat % 16 < 16 := by omega
  have whole : ('0'.utf8Size + ('0'.utf8Size +
      ((hexDigit (c.toNat / 16)).utf8Size + (hexDigit (c.toNat % 16)).utf8Size))) = 4 := by
    rw [utf8Size_hexDigit _ high, utf8Size_hexDigit _ low]
    rfl
  have zero : hexValue? '0' = some 0 := rfl
  rw [codeUnit]
  simp only [List.take_succ_cons, List.take_zero, Text.size_cons, Text.size_nil, Nat.add_zero,
    whole, Nat.lt_irrefl, if_false, List.mapM_cons, List.mapM_nil, zero,
    hexValue?_hexDigit _ high, hexValue?_hexDigit _ low]
  have value : 16 * (16 * (16 * (16 * 0 + 0) + 0) + c.toNat / 16) + c.toNat % 16 = c.toNat := by
    omega
  exact congrArg (fun n => Except.ok (n, rest)) value

theorem escapedCharacter_control (control : c.toNat < 32) :
    escapedCharacter
        (['u', '0', '0', hexDigit (c.toNat / 16), hexDigit (c.toNat % 16)] ++ rest) =
      .ok (c, rest) := by
  have unit : escaped
      (['u', '0', '0', hexDigit (c.toNat / 16), hexDigit (c.toNat % 16)] ++ rest) =
        .ok (.unit c.toNat, rest) := by
    rw [List.cons_append, escaped]
    exact congrArg (Except.map _) (codeUnit_control control)
  have notTrailing : isTrailing c.toNat = false := by
    simp only [isTrailing, Bool.and_eq_false_iff, decide_eq_false_iff_not]
    omega
  have notLeading : isLeading c.toNat = false := by
    simp only [isLeading, Bool.and_eq_false_iff, decide_eq_false_iff_not]
    omega
  rw [escapedCharacter, unit]
  simp [bind, Except.bind, notTrailing, notLeading]

variable {more last : Text}

theorem stringRest_escaped (letters : Text)
    (stands : escapedCharacter (letters ++ rest) = .ok (c, rest))
    (goesOn : stringRest rest = .ok (more, last)) :
    stringRest ('\\' :: (letters ++ rest)) = .ok (c :: more, last) := by
  rw [stringRest, stands]
  simp only [bind, Except.bind, goesOn]
  rw [dif_pos (by rw [List.length_append]; exact Nat.le_add_left _ _)]

/-- An escaped character is read as itself. -/
theorem stringRest_escape (goesOn : stringRest rest = .ok (more, last)) :
    stringRest (escape c ++ rest) = .ok (c :: more, last) := by
  unfold escape
  split
  case isTrue same => exact stringRest_escaped ['"'] (by rw [same]; rfl) goesOn
  split
  case isTrue same => exact stringRest_escaped ['\\'] (by rw [same]; rfl) goesOn
  split
  case isTrue same => exact stringRest_escaped ['n'] (by rw [same]; rfl) goesOn
  split
  case isTrue same => exact stringRest_escaped ['r'] (by rw [same]; rfl) goesOn
  split
  case isTrue same => exact stringRest_escaped ['t'] (by rw [same]; rfl) goesOn
  split
  case isTrue same => exact stringRest_escaped ['b'] (by rw [same]; rfl) goesOn
  split
  case isTrue same => exact stringRest_escaped ['f'] (by rw [same]; rfl) goesOn
  split
  case isTrue control =>
    exact stringRest_escaped _ (escapedCharacter_control control) goesOn
  case isFalse notQuote notBackslash _ _ _ _ _ notControl =>
    rw [List.singleton_append, stringRest]
    · simp only [bind, Except.bind, goesOn, if_neg notControl]
    · exact notQuote
    · exact notBackslash

/-- A quoted text is read up to its closing quote. -/
theorem stringRest_quoted (text rest : Text) :
    stringRest (text.flatMap escape ++ '"' :: rest) = .ok (text, rest) := by
  induction text with
  | nil => rw [List.flatMap_nil, List.nil_append, stringRest]
  | cons c text inductionHypothesis =>
      rw [List.flatMap_cons, List.append_assoc]
      exact stringRest_escape inductionHypothesis

end Strings

section Objects

variable {rest : Text}

/-- Whatever blanks stand in front of a written value, it is read back and what follows is left. -/
def ReadsBack (value : Reader Value) (json : Value → Json) : Prop :=
  ∀ (depth : Nat) (v : Value) (rest : Text),
    value (renderAt depth (json v) ++ rest) = .ok (v, rest) ∧
      value (' ' :: (renderAt depth (json v) ++ rest)) = .ok (v, rest)

theorem skipBlanks_newLine (depth : Nat) (rest : Text) :
    skipBlanks (newLine depth ++ rest) = skipBlanks rest := by
  have blank : (newLine depth).dropWhile
      (fun c => c = ' ' || c = '\n' || c = '\t' || c = '\r') = [] := by
    rw [newLine, List.dropWhile_cons_of_pos rfl, List.dropWhile_replicate]
    rfl
  rw [skipBlanks, List.dropWhile_append, blank]
  rfl

theorem nextKey_first (depth : Nat) (rest : Text) :
    nextKey true (newLine depth ++ '"' :: rest) = .ok (.item rest) := by
  rw [nextKey, nextItem, skipBlanks_newLine]
  rfl

theorem nextKey_later (depth : Nat) (rest : Text) :
    nextKey false (',' :: (newLine depth ++ '"' :: rest)) = .ok (.item rest) := by
  have comma : skipBlanks (',' :: (newLine depth ++ '"' :: rest)) =
      ',' :: (newLine depth ++ '"' :: rest) := rfl
  rw [nextKey, nextItem, comma]
  simp only [skipBlanks_newLine]
  rfl

theorem nextKey_closing (depth : Nat) (rest : Text) :
    nextKey false (newLine depth ++ '\x7d' :: rest) = .ok (.closed rest) := by
  rw [nextKey, nextItem, skipBlanks_newLine]
  rfl

variable {value : Reader Value} {json : Value → Json}

/-- The entries of an object as they are written. -/
def written (json : Value → Json) (entries : List (Text × Value)) : List (Text × Json) :=
  entries.map fun entry => (entry.1, json entry.2)

theorem written_cons (json : Value → Json) (key : Text) (v : Value)
    (entries : List (Text × Value)) :
    written json ((key, v) :: entries) = (key, json v) :: written json entries := rfl

theorem entriesFrom_entry (readsBack : ReadsBack value json) {first : Bool} {text key last : Text}
    {v : Value} {more : List (Text × Value)} (depth : Nat)
    (next : nextKey first text = .ok (.item
      (key.flatMap escape ++ '"' :: ':' :: ' ' :: (renderAt depth (json v) ++ rest))))
    (shorter : rest.length < text.length)
    (goesOn : entriesFrom value false rest = .ok (more, last)) :
    entriesFrom value first text = .ok ((key, v) :: more, last) := by
  have behindColon : colon (':' :: ' ' :: (renderAt depth (json v) ++ rest)) =
      .ok (' ' :: (renderAt depth (json v) ++ rest)) := rfl
  rw [entriesFrom, next]
  simp only [bind, Except.bind, stringRest_quoted, behindColon, (readsBack depth v rest).2, goesOn,
    dif_pos shorter]

theorem entriesFrom_fields (readsBack : ReadsBack value json) (depth outer : Nat)
    (entries : List (Text × Value)) (rest : Text) :
    entriesFrom value false
        (renderFields depth (written json entries) ++ (newLine outer ++ '\x7d' :: rest)) =
      .ok (entries, rest) := by
  induction entries with
  | nil =>
      rw [written, List.map_nil, renderFields, List.nil_append, entriesFrom, nextKey_closing]
      rfl
  | cons entry entries inductionHypothesis =>
      obtain ⟨key, v⟩ := entry
      refine entriesFrom_entry readsBack depth ?_ ?_ inductionHypothesis
      · rw [written_cons, renderFields, quote]
        simp only [List.append_assoc, List.cons_append]
        exact nextKey_later depth _
      · rw [written_cons, renderFields]
        simp only [List.length_append, List.length_cons]
        omega

theorem entriesFrom_written (readsBack : ReadsBack value json) (depth : Nat)
    (entries : List (Text × Value)) (rest : Text) :
    ∃ inside, renderAt depth (.object (written json entries)) ++ rest = '\x7b' :: inside ∧
      entriesFrom value true inside = .ok (entries, rest) := by
  cases entries with
  | nil =>
      have closes : nextKey true ('\x7d' :: rest) = .ok (.closed rest) := rfl
      refine ⟨'\x7d' :: rest, rfl, ?_⟩
      rw [entriesFrom, closes]
      rfl
  | cons entry entries =>
      obtain ⟨key, v⟩ := entry
      rw [written_cons, renderAt, quote]
      simp only [List.append_assoc, List.cons_append, List.nil_append]
      refine ⟨_, rfl, entriesFrom_entry readsBack (depth + 1) (nextKey_first _ _) ?_
        (entriesFrom_fields readsBack (depth + 1) depth entries rest)⟩
      simp only [List.length_append, List.length_cons]
      omega

/-- A written object is read as its entries. -/
theorem readsBack_object (readsBack : ReadsBack value json) :
    ReadsBack (object value) fun entries => .object (written json entries) := by
  intro depth entries rest
  obtain ⟨inside, text, reads⟩ := entriesFrom_written readsBack depth entries rest
  rw [text]
  exact ⟨reads, reads⟩

theorem readsBack_string : ReadsBack string .string := by
  intro depth text rest
  have quoted : renderAt depth (.string text) ++ rest =
      '"' :: (text.flatMap escape ++ '"' :: rest) := by
    rw [renderAt, quote, List.append_assoc]
    rfl
  rw [quoted]
  exact ⟨stringRest_quoted text rest, stringRest_quoted text rest⟩

end Objects

end Reader

end ComponentStyles.Json
