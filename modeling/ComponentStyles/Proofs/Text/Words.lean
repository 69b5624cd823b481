import ComponentStyles.Text

/-!
Words and the texts that are joined from them.

Splitting a text gives words, and words joined by blanks are split into the same words again.
-/

namespace ComponentStyles.Text

/-- A text that splitting can give: not empty, and without a blank. -/
def IsWord (text : Text) : Prop :=
  text ≠ [] ∧ ∀ c ∈ text, isBlank c = false

theorem isWord_of_mem_wordsFrom {pending text word : Text}
    (pendingWord : ∀ c ∈ pending, isBlank c = false) (membership : word ∈ wordsFrom pending text) :
    word.IsWord := by
  induction text generalizing pending with
  | nil =>
      cases pending with
      | nil => cases membership
      | cons first others =>
          cases List.mem_singleton.mp membership
          exact ⟨List.cons_ne_nil _ _, pendingWord⟩
  | cons c rest inductionHypothesis =>
      rw [wordsFrom] at membership
      cases blank : isBlank c with
      | false =>
          rw [if_neg (by simp [blank])] at membership
          refine inductionHypothesis ?_ membership
          intro other listed
          rcases List.mem_append.mp listed with earlier | last
          · exact pendingWord other earlier
          · rwa [List.mem_singleton.mp last]
      | true =>
          rw [if_pos blank] at membership
          cases pending with
          | nil => exact inductionHypothesis (by simp) membership
          | cons first others =>
              rcases List.mem_cons.mp membership with rfl | later
              · exact ⟨List.cons_ne_nil _ _, pendingWord⟩
              · exact inductionHypothesis (by simp) later

theorem isWord_of_mem_words {text word : Text} (membership : word ∈ words text) : word.IsWord :=
  isWord_of_mem_wordsFrom (by simp) membership

/-- Characters that are not blank join the word in progress. -/
theorem wordsFrom_append {pending word rest : Text} (noBlank : ∀ c ∈ word, isBlank c = false) :
    wordsFrom pending (word ++ rest) = wordsFrom (pending ++ word) rest := by
  induction word generalizing pending with
  | nil => simp
  | cons c others inductionHypothesis =>
      have first : isBlank c = false := noBlank c List.mem_cons_self
      rw [List.cons_append, wordsFrom, if_neg (by simp [first]),
        inductionHypothesis fun other listed => noBlank other (List.mem_cons_of_mem _ listed),
        List.append_assoc, List.singleton_append]

/-- A word is split off at the blank behind it. -/
theorem words_append_blank {word rest : Text} (isWord : word.IsWord) :
    words (word ++ ' ' :: rest) = word :: words rest := by
  have blank : isBlank ' ' = true := rfl
  rw [words, wordsFrom_append isWord.2, List.nil_append, wordsFrom, if_pos blank,
    if_neg (by simpa using isWord.1), words]

theorem words_of_isWord {word : Text} (isWord : word.IsWord) : words word = [word] := by
  rw [words, ← List.append_nil word, wordsFrom_append isWord.2, List.nil_append, wordsFrom,
    if_neg (by simpa using isWord.1), List.append_nil]

/-- Joining words loses none of them and makes no others. -/
theorem words_join {texts : List Text} (areWords : ∀ text ∈ texts, text.IsWord) :
    words (join [' '] texts) = texts := by
  induction texts with
  | nil => rfl
  | cons first rest inductionHypothesis =>
      cases rest with
      | nil =>
          rw [join, List.intercalate_singleton]
          exact words_of_isWord (areWords first List.mem_cons_self)
      | cons second others =>
          have restWords := inductionHypothesis
            fun text listed => areWords text (List.mem_cons_of_mem _ listed)
          rw [join, List.intercalate_cons_cons, List.append_assoc, List.singleton_append,
            words_append_blank (areWords first List.mem_cons_self)]
          rw [join] at restWords
          rw [restWords]

end ComponentStyles.Text
