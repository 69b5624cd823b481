import ComponentStyles.Text
import Mathlib.Data.List.Basic

/-!
Splitting a text at a separator, as the list library knows it.
-/

namespace ComponentStyles.Text

theorem splitOn_eq (separator : Char) (text : Text) :
    splitOn separator text = List.splitOn separator text := by
  induction text with
  | nil => rfl
  | cons c rest inductionHypothesis =>
      rw [splitOn, inductionHypothesis, List.splitOn_cons_eq_if_modifyHead]
      by_cases separates : c = separator
      · simp [separates]
      · cases parts : List.splitOn separator rest with
        | nil => exact absurd parts (List.splitOn_ne_nil separator rest)
        | cons first others => simp [separates]

theorem splitOn_ne_nil (separator : Char) (text : Text) : splitOn separator text ≠ [] := by
  rw [splitOn_eq]
  exact List.splitOn_ne_nil separator text

theorem splitOn_append_cons (separator : Char) (front rest : Text) :
    splitOn separator (front ++ separator :: rest) =
      splitOn separator front ++ splitOn separator rest := by
  simp only [splitOn_eq, List.splitOn_append_cons_self]

/-- Parts without the separator are found again between the separators that join them. -/
theorem splitOn_join {separator : Char} {parts : List Text} (some : parts ≠ [])
    (apart : ∀ part ∈ parts, separator ∉ part) :
    splitOn separator (join [separator] parts) = parts := by
  rw [splitOn_eq, join, List.splitOn_intercalate separator apart some]

theorem join_splitOn (separator : Char) (text : Text) :
    join [separator] (splitOn separator text) = text := by
  rw [splitOn_eq]
  exact List.intercalate_splitOn separator

theorem join_append {front rest : List Text} (separator : Text) (some : front ≠ [])
    (more : rest ≠ []) :
    join separator (front ++ rest) = join separator front ++ (separator ++ join separator rest) := by
  induction front with
  | nil => exact absurd rfl some
  | cons first others inductionHypothesis =>
      by_cases alone : others = []
      · subst alone
        rw [List.singleton_append, join, join, join, List.intercalate_cons_of_ne_nil more,
          List.intercalate_singleton, List.append_assoc]
      · have both : others ++ rest ≠ [] := by simp [alone]
        rw [List.cons_append, join, List.intercalate_cons_of_ne_nil both, ← join,
          inductionHypothesis alone, join, join, join, List.intercalate_cons_of_ne_nil alone]
        simp only [List.append_assoc]

theorem separator_notMem {separator : Char} {text part : Text}
    (split : part ∈ splitOn separator text) : separator ∉ part := by
  induction text generalizing part with
  | nil =>
      rw [List.mem_singleton.mp split]
      exact List.not_mem_nil
  | cons c rest inductionHypothesis =>
      cases parts : splitOn separator rest with
      | nil => exact absurd parts (splitOn_ne_nil separator rest)
      | cons first others =>
          rw [parts] at inductionHypothesis
          rw [splitOn, parts] at split
          by_cases separates : c = separator
          · rw [if_pos separates] at split
            rcases List.mem_cons.mp split with rfl | later
            · exact List.not_mem_nil
            · exact inductionHypothesis later
          · rw [if_neg separates] at split
            rcases List.mem_cons.mp split with rfl | later
            · have inFirst := inductionHypothesis List.mem_cons_self
              simp only [List.headD_cons, List.mem_cons, not_or]
              exact ⟨Ne.symm separates, inFirst⟩
            · exact inductionHypothesis (List.mem_cons_of_mem _ later)

end ComponentStyles.Text
