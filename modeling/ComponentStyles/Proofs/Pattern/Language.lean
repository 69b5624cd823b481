import ComponentStyles.Pattern

/-!
# The language of a pattern

What each form of a pattern describes, and that the executable counterpart computes it: a
derivative describes what may follow a character, `accepts` decides `Matches`, and `isViable` tells
whether a pattern describes anything, as long as its classes have members.
-/

namespace ComponentStyles

section Decisions

-- A property of the characters of a text is decided by going through these, not through all there are.

variable {property : Char → Prop} [DecidablePred property]

instance decidableForallMemText (text : Text) : Decidable (∀ c ∈ text, property c) :=
  List.decidableBAll property text

instance decidableForallMemLetter (letter : Option Char) : Decidable (∀ c ∈ letter, property c) :=
  Option.decidableForallMem letter

end Decisions

namespace Pattern

variable {p q : Pattern} {text : Text} {c : Char}

@[simp] theorem matches_never_iff : Matches never text ↔ False :=
  ⟨fun matched => (by cases matched), False.elim⟩

@[simp] theorem matches_empty_iff : Matches empty text ↔ text = [] := by
  constructor
  · intro matched
    cases matched
    rfl
  · rintro rfl
    exact .empty

@[simp] theorem matches_one_iff {cls : CharClass} :
    Matches (one cls) text ↔ ∃ c, cls.contains c = true ∧ text = [c] := by
  constructor
  · intro matched
    cases matched with
    | one contained => exact ⟨_, contained, rfl⟩
  · rintro ⟨c, contained, rfl⟩
    exact .one contained

@[simp] theorem matches_either_iff : Matches (either p q) text ↔ Matches p text ∨ Matches q text := by
  constructor
  · intro matched
    cases matched with
    | left matched => exact .inl matched
    | right matched => exact .inr matched
  · rintro (matched | matched)
    · exact .left matched
    · exact .right matched

theorem matches_both_iff :
    Matches (both p q) text ↔ ∃ a b, text = a ++ b ∧ Matches p a ∧ Matches q b := by
  constructor
  · intro matched
    cases matched with
    | both first second => exact ⟨_, _, rfl, first, second⟩
  · rintro ⟨a, b, rfl, first, second⟩
    exact .both first second

theorem matches_many_nil : Matches (many p) [] := .done

/-- A text of a repetition starts with a text of its body that is not empty. -/
theorem matches_many_cons_iff : Matches (many p) (c :: text) ↔
    ∃ a b, text = a ++ b ∧ Matches p (c :: a) ∧ Matches (many p) b := by
  constructor
  · generalize whole : c :: text = s, body : many p = r
    intro matched
    induction matched generalizing p c text with
    | more first rest _ inductionHypothesis =>
        cases body
        rcases List.cons_eq_append_iff.mp whole with ⟨rfl, later⟩ | ⟨a, rfl, rfl⟩
        · exact inductionHypothesis later.symm rfl
        · exact ⟨a, _, rfl, first, rest⟩
    | _ => cases body <;> cases whole
  · rintro ⟨a, b, rfl, first, rest⟩
    exact .more first rest

theorem matches_many_append {a b : Text} (first : Matches (many p) a) (second : Matches (many p) b) :
    Matches (many p) (a ++ b) := by
  generalize body : many p = r at first
  induction first with
  | done =>
      cases body
      exact second
  | more once _ _ inductionHypothesis =>
      cases body
      rw [List.append_assoc]
      exact .more once (inductionHypothesis rfl)
  | _ => cases body

theorem matches_many_one_iff {cls : CharClass} :
    Matches (many (one cls)) text ↔ ∀ c ∈ text, cls.contains c = true := by
  induction text with
  | nil => simp [matches_many_nil]
  | cons c rest inductionHypothesis =>
      rw [matches_many_cons_iff, List.forall_mem_cons, ← inductionHypothesis]
      constructor
      · rintro ⟨a, b, rfl, first, others⟩
        obtain ⟨_, contained, same⟩ := matches_one_iff.mp first
        cases same
        exact ⟨contained, others⟩
      · rintro ⟨contained, others⟩
        exact ⟨[], rest, rfl, .one contained, others⟩

theorem matches_some_one_iff {cls : CharClass} :
    Matches (Pattern.some (one cls)) text ↔ text ≠ [] ∧ ∀ c ∈ text, cls.contains c = true := by
  rw [Pattern.some, matches_both_iff]
  constructor
  · rintro ⟨a, b, rfl, first, rest⟩
    obtain ⟨c, contained, rfl⟩ := matches_one_iff.mp first
    exact ⟨by simp, List.forall_mem_cons.mpr ⟨contained, matches_many_one_iff.mp rest⟩⟩
  · rintro ⟨notEmpty, contained⟩
    obtain ⟨c, rest, rfl⟩ := List.exists_cons_of_ne_nil notEmpty
    rw [List.forall_mem_cons] at contained
    exact ⟨[c], rest, rfl, .one contained.1, matches_many_one_iff.mpr contained.2⟩

@[simp] theorem matches_maybe_iff : Matches (maybe p) text ↔ Matches p text ∨ text = [] := by
  simp [maybe]

@[simp] theorem matches_word_iff {letters : Text} : Matches (word letters) text ↔ text = letters := by
  induction letters generalizing text with
  | nil => exact matches_empty_iff
  | cons c rest inductionHypothesis =>
      rw [word, List.foldr_cons, ← word, matches_both_iff]
      simp only [matches_one_iff, inductionHypothesis]
      constructor
      · rintro ⟨_, _, rfl, ⟨d, contained, rfl⟩, rfl⟩
        simp only [CharClass.oneOf, CharClass.contains, List.map_cons, List.map_nil, List.any_cons,
          List.any_nil, Bool.or_false, Bool.false_bne, Bool.and_eq_true, decide_eq_true_eq,
          ← Nat.le_antisymm_iff] at contained
        rw [Char.toNat_inj.mp contained]
        rfl
      · rintro rfl
        exact ⟨[c], rest, rfl, ⟨c, by simp [CharClass.oneOf, CharClass.contains], rfl⟩, rfl⟩

theorem nullable_iff : nullable p = true ↔ Matches p [] := by
  induction p with
  | never => simp [nullable]
  | empty => simp [nullable]
  | one cls => simp [nullable]
  | either p q first second => simp [nullable, first, second]
  | both p q first second =>
      simp only [nullable, Bool.and_eq_true, first, second, matches_both_iff, List.nil_eq,
        List.append_eq_nil_iff]
      exact ⟨fun matched => ⟨[], [], ⟨rfl, rfl⟩, matched⟩, fun ⟨_, _, ⟨rfl, rfl⟩, matched⟩ => matched⟩
  | many p => simp [nullable, matches_many_nil]

section Derivative

theorem exists_mem_alternatives_iff :
    (∃ r ∈ alternatives p, Matches r text) ↔ Matches p text := by
  induction p with
  | never => simp [alternatives]
  | either p q first second =>
      simp only [alternatives, List.mem_append, or_and_right, exists_or, first, second,
        matches_either_iff]
  | _ => simp [alternatives]

theorem matches_choice_iff {patterns : List Pattern} :
    Matches (choice patterns) text ↔ ∃ r ∈ patterns, Matches r text := by
  fun_induction choice patterns with
  | case1 => simp
  | case2 p => simp
  | case3 p rest _ inductionHypothesis => simp [inductionHypothesis]

theorem matches_join_iff : Matches (join p q) text ↔ Matches p text ∨ Matches q text := by
  simp only [join, matches_choice_iff, List.mem_eraseDups, List.mem_append, or_and_right, exists_or,
    exists_mem_alternatives_iff]

theorem matches_sequence_iff : Matches (sequence p q) text ↔ Matches (both p q) text := by
  fun_cases sequence p q with
  | case1 => simp [matches_both_iff]
  | case2 q =>
      rw [matches_both_iff]
      simp only [matches_empty_iff]
      exact ⟨fun matched => ⟨[], text, rfl, rfl, matched⟩, fun ⟨_, _, whole, nothing, matched⟩ => by
        rwa [whole, nothing]⟩
  | case3 => rfl

/-- The derivative by a character describes what may follow it. -/
theorem matches_derivative_iff : Matches (derivative c p) text ↔ Matches p (c :: text) := by
  induction p generalizing text with
  | never => simp [derivative]
  | empty => simp [derivative]
  | one cls =>
      by_cases contained : cls.contains c = true
      · rw [derivative, if_pos contained, matches_empty_iff, matches_one_iff]
        exact ⟨fun rest => ⟨c, contained, by rw [rest]⟩, fun ⟨_, _, same⟩ => (List.cons.inj same).2⟩
      · rw [derivative, if_neg contained, matches_never_iff, matches_one_iff, false_iff]
        rintro ⟨_, member, same⟩
        obtain ⟨rfl, _⟩ := List.cons.inj same
        exact contained member
  | either p q first second => simp [derivative, matches_join_iff, first, second]
  | both p q first second =>
      have inFirst : Matches (sequence (derivative c p) q) text ↔
          ∃ a b, text = a ++ b ∧ Matches p (c :: a) ∧ Matches q b := by
        simp only [matches_sequence_iff, matches_both_iff, first]
      have split : Matches (both p q) (c :: text) ↔
          Matches p [] ∧ Matches q (c :: text) ∨
            ∃ a b, text = a ++ b ∧ Matches p (c :: a) ∧ Matches q b := by
        rw [matches_both_iff]
        constructor
        · rintro ⟨a, b, whole, inP, inQ⟩
          rcases List.cons_eq_append_iff.mp whole with ⟨rfl, rfl⟩ | ⟨a, rfl, rfl⟩
          · exact .inl ⟨inP, inQ⟩
          · exact .inr ⟨a, b, rfl, inP, inQ⟩
        · rintro (⟨inP, inQ⟩ | ⟨a, b, rfl, inP, inQ⟩)
          · exact ⟨[], _, rfl, inP, inQ⟩
          · exact ⟨c :: a, b, rfl, inP, inQ⟩
      rw [split, derivative]
      split
      case isTrue isNullable =>
        rw [matches_join_iff, inFirst, second, or_comm]
        simp only [nullable_iff.mp isNullable, true_and]
      case isFalse notNullable =>
        rw [inFirst]
        rw [nullable_iff] at notNullable
        simp only [notNullable, false_and, false_or]
  | many p inductionHypothesis =>
      simp only [derivative, matches_sequence_iff, matches_both_iff, inductionHypothesis,
        matches_many_cons_iff]

theorem accepts_iff : accepts p text = true ↔ Matches p text := by
  induction text generalizing p with
  | nil => exact nullable_iff
  | cons c rest inductionHypothesis =>
      rw [accepts, inductionHypothesis, matches_derivative_iff]

end Derivative

section Viable

/-- The classes in a pattern. -/
def classes : Pattern → List CharClass
  | never => []
  | empty => []
  | one cls => [cls]
  | either p q => classes p ++ classes q
  | both p q => classes p ++ classes q
  | many p => classes p

/-- A text is made of members of the classes. -/
theorem exists_class_of_matches (matched : Matches p text) (member : c ∈ text) :
    ∃ cls ∈ p.classes, cls.contains c = true := by
  induction matched with
  | one contained =>
      obtain rfl := List.mem_singleton.mp member
      exact ⟨_, List.mem_singleton_self _, contained⟩
  | left _ inductionHypothesis =>
      obtain ⟨cls, listed, contained⟩ := inductionHypothesis member
      exact ⟨cls, List.mem_append_left _ listed, contained⟩
  | right _ inductionHypothesis =>
      obtain ⟨cls, listed, contained⟩ := inductionHypothesis member
      exact ⟨cls, List.mem_append_right _ listed, contained⟩
  | both _ _ inFirst inSecond =>
      rcases List.mem_append.mp member with member | member
      · obtain ⟨cls, listed, contained⟩ := inFirst member
        exact ⟨cls, List.mem_append_left _ listed, contained⟩
      · obtain ⟨cls, listed, contained⟩ := inSecond member
        exact ⟨cls, List.mem_append_right _ listed, contained⟩
  | more _ _ inFirst inRest =>
      rcases List.mem_append.mp member with member | member
      · exact inFirst member
      · exact inRest member
  | _ => cases member

/-- Every class in the pattern has a member. -/
def Inhabited (p : Pattern) : Prop :=
  ∀ cls ∈ p.classes, ∃ c, cls.contains c = true

theorem isViable_of_matches (matched : Matches p text) : isViable p = true := by
  induction matched with
  | left _ inductionHypothesis => simp [isViable, inductionHypothesis]
  | right _ inductionHypothesis => simp [isViable, inductionHypothesis]
  | both _ _ first second => simp [isViable, first, second]
  | _ => rfl

theorem exists_matches_of_isViable (inhabited : p.Inhabited) (viable : isViable p = true) :
    ∃ text, Matches p text := by
  induction p with
  | never => cases viable
  | empty => exact ⟨[], .empty⟩
  | one cls =>
      obtain ⟨c, contained⟩ := inhabited cls (List.mem_singleton_self cls)
      exact ⟨[c], .one contained⟩
  | either p q first second =>
      rw [Inhabited, classes, List.forall_mem_append] at inhabited
      rcases Bool.or_eq_true_iff.mp viable with viable | viable
      · obtain ⟨text, matched⟩ := first inhabited.1 viable
        exact ⟨text, .left matched⟩
      · obtain ⟨text, matched⟩ := second inhabited.2 viable
        exact ⟨text, .right matched⟩
  | both p q first second =>
      rw [Inhabited, classes, List.forall_mem_append] at inhabited
      obtain ⟨viableFirst, viableSecond⟩ := Bool.and_eq_true_iff.mp viable
      obtain ⟨a, inFirst⟩ := first inhabited.1 viableFirst
      obtain ⟨b, inSecond⟩ := second inhabited.2 viableSecond
      exact ⟨a ++ b, .both inFirst inSecond⟩
  | many p => exact ⟨[], .done⟩

variable {cls : CharClass}

theorem mem_classes_of_alternative {r : Pattern} (listed : r ∈ alternatives p)
    (used : cls ∈ r.classes) : cls ∈ p.classes := by
  induction p with
  | never => cases listed
  | either p q first second =>
      rcases List.mem_append.mp listed with listed | listed
      · exact List.mem_append_left _ (first listed)
      · exact List.mem_append_right _ (second listed)
  | _ =>
      obtain rfl := List.mem_singleton.mp listed
      exact used

theorem mem_classes_choice {patterns : List Pattern} (used : cls ∈ (choice patterns).classes) :
    ∃ r ∈ patterns, cls ∈ r.classes := by
  fun_induction choice patterns with
  | case1 => cases used
  | case2 p => exact ⟨p, List.mem_singleton_self p, used⟩
  | case3 p rest _ inductionHypothesis =>
      rcases List.mem_append.mp used with used | used
      · exact ⟨p, List.mem_cons_self, used⟩
      · obtain ⟨r, listed, used⟩ := inductionHypothesis used
        exact ⟨r, List.mem_cons_of_mem p listed, used⟩

theorem mem_classes_join (used : cls ∈ (join p q).classes) :
    cls ∈ p.classes ∨ cls ∈ q.classes := by
  obtain ⟨r, listed, used⟩ := mem_classes_choice used
  rcases List.mem_append.mp (List.mem_eraseDups.mp listed) with listed | listed
  · exact .inl (mem_classes_of_alternative listed used)
  · exact .inr (mem_classes_of_alternative listed used)

theorem mem_classes_sequence (used : cls ∈ (sequence p q).classes) :
    cls ∈ p.classes ∨ cls ∈ q.classes := by
  revert used
  fun_cases sequence p q with
  | case1 => exact fun used => nomatch used
  | case2 => exact .inr
  | case3 => exact List.mem_append.mp

/-- A derivative has no classes of its own. -/
theorem mem_classes_derivative (used : cls ∈ (derivative c p).classes) : cls ∈ p.classes := by
  induction p with
  | never => cases used
  | empty => cases used
  | one other =>
      rw [derivative] at used
      split at used <;> cases used
  | either p q first second =>
      exact List.mem_append.mpr ((mem_classes_join used).imp first second)
  | both p q first second =>
      have inFirst (used : cls ∈ (sequence (derivative c p) q).classes) :
          cls ∈ p.classes ++ q.classes :=
        List.mem_append.mpr ((mem_classes_sequence used).imp_left first)
      rw [derivative] at used
      split at used
      · rcases mem_classes_join used with used | used
        · exact inFirst used
        · exact List.mem_append_right _ (second used)
      · exact inFirst used
  | many p inductionHypothesis =>
      exact (mem_classes_sequence used).elim inductionHypothesis id

theorem Inhabited.derivative (inhabited : p.Inhabited) (c : Char) :
    (p.derivative c).Inhabited :=
  fun cls used => inhabited cls (mem_classes_derivative used)

end Viable

end Pattern

end ComponentStyles
