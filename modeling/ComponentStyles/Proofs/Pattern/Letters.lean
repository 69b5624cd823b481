import ComponentStyles.Proofs.Pattern.Language

/-!
# Where the classes of a pattern stand

`firsts` lists the classes that the first character of a text can come from, `laters` those of all
the other ones. Both are computed, so that what the patterns of tokens exclude is found by
evaluation.
-/

namespace ComponentStyles

namespace CharClass

/-- Every range of the class lies within a range of the other one, and neither is negated. -/
def within? (cls other : CharClass) : Bool :=
  !cls.negated && !other.negated &&
    cls.ranges.all fun range => other.ranges.any fun wider =>
      wider.1.toNat ≤ range.1.toNat && range.2.toNat ≤ wider.2.toNat

theorem contains_of_within? {cls other : CharClass} {c : Char} (within : cls.within? other = true)
    (contained : cls.contains c = true) : other.contains c = true := by
  obtain ⟨negated, ranges⟩ := cls
  obtain ⟨otherNegated, otherRanges⟩ := other
  simp only [within?, Bool.and_eq_true, Bool.not_eq_true', List.all_eq_true, List.any_eq_true,
    decide_eq_true_eq] at within
  obtain ⟨⟨rfl, rfl⟩, within⟩ := within
  simp only [contains, Bool.false_bne, List.any_eq_true, Bool.and_eq_true,
    decide_eq_true_eq] at contained ⊢
  obtain ⟨range, listed, low, high⟩ := contained
  obtain ⟨wider, listedToo, lower, higher⟩ := within range listed
  exact ⟨wider, listedToo, Nat.le_trans lower low, Nat.le_trans high higher⟩

/-- No range of the class meets a range of the other one, and neither is negated. -/
def apart? (cls other : CharClass) : Bool :=
  !cls.negated && !other.negated &&
    cls.ranges.all fun range => other.ranges.all fun away =>
      range.2.toNat < away.1.toNat || away.2.toNat < range.1.toNat

theorem not_contains_of_apart? {cls other : CharClass} {c : Char} (apart : cls.apart? other = true)
    (contained : cls.contains c = true) : ¬ other.contains c = true := by
  obtain ⟨negated, ranges⟩ := cls
  obtain ⟨otherNegated, otherRanges⟩ := other
  simp only [apart?, Bool.and_eq_true, Bool.not_eq_true', List.all_eq_true, Bool.or_eq_true,
    decide_eq_true_eq] at apart
  obtain ⟨⟨rfl, rfl⟩, apart⟩ := apart
  simp only [contains, Bool.false_bne, List.any_eq_true, Bool.and_eq_true,
    decide_eq_true_eq] at contained ⊢
  obtain ⟨range, listed, low, high⟩ := contained
  rintro ⟨away, listedToo, lowToo, highToo⟩
  rcases apart range listed away listedToo with below | above <;> omega

end CharClass

namespace Pattern

variable {p q : Pattern} {text : Text} {c d : Char}

/-- The classes of first characters. -/
def firsts : Pattern → List CharClass
  | never => []
  | empty => []
  | one cls => [cls]
  | either p q => firsts p ++ firsts q
  | both p q => firsts p ++ if nullable p then firsts q else []
  | many p => firsts p

/-- The classes of the characters behind the first one, and perhaps of more. -/
def laters : Pattern → List CharClass
  | either p q => laters p ++ laters q
  | both p q => laters p ++ classes q
  | many p => classes p
  | _ => []

theorem exists_first_of_matches (matched : Matches p (c :: text)) :
    ∃ cls ∈ p.firsts, cls.contains c = true := by
  generalize whole : c :: text = s at matched
  induction matched generalizing c text with
  | one contained =>
      cases whole
      exact ⟨_, List.mem_singleton_self _, contained⟩
  | left _ inductionHypothesis =>
      obtain ⟨cls, listed, contained⟩ := inductionHypothesis whole
      exact ⟨cls, List.mem_append_left _ listed, contained⟩
  | right _ inductionHypothesis =>
      obtain ⟨cls, listed, contained⟩ := inductionHypothesis whole
      exact ⟨cls, List.mem_append_right _ listed, contained⟩
  | both first _ inFirst inSecond =>
      rcases List.cons_eq_append_iff.mp whole with ⟨rfl, later⟩ | ⟨a, rfl, _⟩
      · obtain ⟨cls, listed, contained⟩ := inSecond later.symm
        refine ⟨cls, List.mem_append_right _ ?_, contained⟩
        rwa [if_pos (nullable_iff.mpr first)]
      · obtain ⟨cls, listed, contained⟩ := inFirst rfl
        exact ⟨cls, List.mem_append_left _ listed, contained⟩
  | more _ _ inFirst inRest =>
      rcases List.cons_eq_append_iff.mp whole with ⟨rfl, later⟩ | ⟨a, rfl, _⟩
      · exact inRest later.symm
      · exact inFirst rfl
  | _ => cases whole

theorem exists_later_of_matches (matched : Matches p (c :: text)) (behind : d ∈ text) :
    ∃ cls ∈ p.laters, cls.contains d = true := by
  generalize whole : c :: text = s at matched
  induction matched generalizing c text with
  | one contained =>
      cases whole
      cases behind
  | left _ inductionHypothesis =>
      obtain ⟨cls, listed, contained⟩ := inductionHypothesis behind whole
      exact ⟨cls, List.mem_append_left _ listed, contained⟩
  | right _ inductionHypothesis =>
      obtain ⟨cls, listed, contained⟩ := inductionHypothesis behind whole
      exact ⟨cls, List.mem_append_right _ listed, contained⟩
  | @both p q a b _ second inFirst _ =>
      have inSecond (member : d ∈ b) : ∃ cls ∈ (both p q).laters, cls.contains d = true := by
        obtain ⟨cls, listed, contained⟩ := exists_class_of_matches second member
        exact ⟨cls, List.mem_append_right _ listed, contained⟩
      rcases List.cons_eq_append_iff.mp whole with ⟨rfl, rfl⟩ | ⟨a, rfl, rfl⟩
      · exact inSecond (List.mem_cons_of_mem c behind)
      · rcases List.mem_append.mp behind with behind | member
        · obtain ⟨cls, listed, contained⟩ := inFirst behind rfl
          exact ⟨cls, List.mem_append_left _ listed, contained⟩
        · exact inSecond member
  | @more p a b first rest _ _ =>
      have member : d ∈ a ++ b := whole ▸ List.mem_cons_of_mem c behind
      have found := exists_class_of_matches (Matches.more first rest) member
      exact found
  | _ => cases whole

/-- All characters behind the first one are in a class that is wide enough. -/
theorem contains_of_laters_within {cls : CharClass} (within : p.laters.all (·.within? cls) = true)
    (matched : Matches p (c :: text)) (behind : d ∈ text) : cls.contains d = true := by
  obtain ⟨narrow, listed, contained⟩ := exists_later_of_matches matched behind
  exact CharClass.contains_of_within? (List.all_eq_true.mp within narrow listed) contained

theorem contains_of_classes_within {cls : CharClass} (within : p.classes.all (·.within? cls) = true)
    (matched : Matches p text) (member : c ∈ text) : cls.contains c = true := by
  obtain ⟨narrow, listed, contained⟩ := exists_class_of_matches matched member
  exact CharClass.contains_of_within? (List.all_eq_true.mp within narrow listed) contained

theorem contains_of_firsts_within {cls : CharClass} (within : p.firsts.all (·.within? cls) = true)
    (matched : Matches p (c :: text)) : cls.contains c = true := by
  obtain ⟨narrow, listed, contained⟩ := exists_first_of_matches matched
  exact CharClass.contains_of_within? (List.all_eq_true.mp within narrow listed) contained

theorem not_contains_of_firsts_apart {cls : CharClass} (apart : p.firsts.all (·.apart? cls) = true)
    (matched : Matches p (c :: text)) : ¬ cls.contains c = true := by
  obtain ⟨first, listed, contained⟩ := exists_first_of_matches matched
  exact CharClass.not_contains_of_apart? (List.all_eq_true.mp apart first listed) contained

end Pattern

end ComponentStyles
