import ComponentStyles.Proofs.Pattern.Language
import ComponentStyles.Token.Lexer

/-!
# What the lexer cuts off

The token in front of a text is the longest text that some pattern describes, of the first kind
that describes it. Where nothing is described, an invalid token takes what some described text
starts with, or one character. `Leads` states this without races and lengths, and
`measure_append_iff` says that it is what `measure` computes.
-/

namespace ComponentStyles.Token

/-- The first kind that describes a text. -/
def Kind.of? (text : Text) : Option Kind :=
  described.find? fun kind => kind.pattern.accepts text

/-- A described text starts with this one. -/
def IsOpen (text : Text) : Prop :=
  ∃ kind ∈ Kind.described, ∃ rest, kind.pattern.Matches (text ++ rest)

namespace Race

/-- The first kind in a race that describes a text. -/
def winnerOf (race : Race) (text : Text) : Option Kind :=
  (race.find? fun (_, pattern) => pattern.accepts text).map (·.1)

def IsOpen (race : Race) (text : Text) : Prop :=
  ∃ entry ∈ race, ∃ rest, entry.2.Matches (text ++ rest)

def Inhabited (race : Race) : Prop :=
  ∀ entry ∈ race, entry.2.Inhabited

variable {race : Race} {c : Char} {text : Text}

theorem mem_advance {entry : Kind × Pattern} : entry ∈ race.advance c ↔
    ∃ before ∈ race, entry = (before.1, before.2.derivative c) ∧
      (before.2.derivative c).isViable = true := by
  rw [advance, List.mem_filter, List.mem_map]
  constructor
  · rintro ⟨⟨before, racing, rfl⟩, viable⟩
    exact ⟨before, racing, rfl, viable⟩
  · rintro ⟨before, racing, rfl, viable⟩
    exact ⟨⟨before, racing, rfl⟩, viable⟩

theorem Inhabited.advance (inhabited : race.Inhabited) (c : Char) : (race.advance c).Inhabited := by
  intro entry racing
  obtain ⟨before, raced, rfl, _⟩ := mem_advance.mp racing
  exact (inhabited before raced).derivative c

/-- Leaving a race early changes no winner. -/
theorem winnerOf_cons : race.winnerOf (c :: text) = (race.advance c).winnerOf text := by
  rw [winnerOf, winnerOf, advance, List.find?_filter, List.find?_map, Option.map_map]
  congr 2
  funext entry
  have viable (accepted : (entry.2.derivative c).accepts text = true) :
      (entry.2.derivative c).isViable = true :=
    Pattern.isViable_of_matches (Pattern.accepts_iff.mp accepted)
  simp only [Pattern.accepts, Function.comp_apply, and_iff_right_of_imp viable,
    Bool.decide_eq_true]

theorem isOpen_cons : race.IsOpen (c :: text) ↔ (race.advance c).IsOpen text := by
  constructor
  · rintro ⟨entry, racing, rest, matched⟩
    have after := Pattern.matches_derivative_iff.mpr matched
    exact ⟨_, mem_advance.mpr ⟨entry, racing, rfl, Pattern.isViable_of_matches after⟩, rest, after⟩
  · rintro ⟨_, racing, rest, matched⟩
    obtain ⟨entry, raced, rfl, _⟩ := mem_advance.mp racing
    exact ⟨entry, raced, rest, Pattern.matches_derivative_iff.mp matched⟩

theorem advance_eq_nil_iff (inhabited : race.Inhabited) :
    race.advance c = [] ↔ ¬ race.IsOpen [c] := by
  rw [isOpen_cons]
  constructor
  · intro nobody
    rw [nobody]
    rintro ⟨_, racing, _⟩
    cases racing
  · intro closed
    refine List.eq_nil_iff_forall_not_mem.mpr fun entry racing => closed ?_
    have ⟨_, _, same, viable⟩ := mem_advance.mp racing
    obtain ⟨rest, matched⟩ :=
      Pattern.exists_matches_of_isViable (inhabited.advance c entry racing) (same ▸ viable)
    exact ⟨entry, racing, rest, matched⟩

/-- Nothing is found only where no text in front is described. -/
theorem winnerOf_of_longest?_eq_none (found : race.longest? text = none) {front : Text}
    (leading : front <+: text) : race.winnerOf front = none := by
  induction text generalizing race front with
  | nil =>
      obtain rfl := List.prefix_nil.mp leading
      cases race with
      | nil => rfl
      | cons entry others => exact Option.map_eq_none_iff.mp found
  | cons c rest inductionHypothesis =>
      cases race with
      | nil => rfl
      | cons entry others =>
          rw [longest?] at found
          · split at found
            · cases found
            case h_2 nothing =>
              cases front with
              | nil => exact Option.map_eq_none_iff.mp found
              | cons d front =>
                  obtain ⟨rfl, further⟩ := List.cons_prefix_cons.mp leading
                  rw [winnerOf_cons]
                  exact inductionHypothesis nothing further
          · exact List.cons_ne_nil _ _

/-- What is found is described, and no longer text is. -/
theorem of_longest?_eq_some {kind : Kind} {length : Nat}
    (found : race.longest? text = some (kind, length)) :
    ∃ front rest, text = front ++ rest ∧ front.length = length ∧
      race.winnerOf front = some kind ∧
      ∀ more, more ≠ [] → more <+: rest → race.winnerOf (front ++ more) = none := by
  induction text generalizing race length with
  | nil =>
      cases race with
      | nil => cases found
      | cons entry others =>
          obtain ⟨winner, won, same⟩ := Option.map_eq_some_iff.mp found
          cases same
          refine ⟨[], [], rfl, rfl, won, ?_⟩
          intro more notEmpty leading
          exact absurd (List.prefix_nil.mp leading) notEmpty
  | cons c rest inductionHypothesis =>
      cases race with
      | nil => cases found
      | cons entry others =>
          rw [longest?] at found
          · split at found
            case h_1 after length' longer =>
              cases found
              obtain ⟨front, behind, rfl, rfl, won, longest⟩ := inductionHypothesis longer
              refine ⟨c :: front, behind, rfl, rfl, by rw [winnerOf_cons, won], ?_⟩
              intro more notEmpty leading
              rw [List.cons_append, winnerOf_cons]
              exact longest more notEmpty leading
            case h_2 nothing =>
              obtain ⟨winner, won, same⟩ := Option.map_eq_some_iff.mp found
              cases same
              refine ⟨[], c :: rest, rfl, rfl, won, ?_⟩
              intro more notEmpty leading
              obtain ⟨d, more, rfl⟩ := List.exists_cons_of_ne_nil notEmpty
              obtain ⟨rfl, further⟩ := List.cons_prefix_cons.mp leading
              rw [List.nil_append, winnerOf_cons]
              exact winnerOf_of_longest?_eq_none nothing further
          · exact List.cons_ne_nil _ _

/-- The reach ends where no described text goes on. -/
theorem reach_spec (inhabited : race.Inhabited) (text : Text) :
    ∃ front rest, text = front ++ rest ∧ front.length = race.reach text ∧
      (front = [] ∨ race.IsOpen front) ∧ ∀ c ∈ rest.head?, ¬ race.IsOpen (front ++ [c]) := by
  induction text generalizing race with
  | nil => exact ⟨[], [], rfl, rfl, .inl rfl, nofun⟩
  | cons c rest inductionHypothesis =>
      rw [reach]
      split
      case h_1 nobody =>
        refine ⟨[], c :: rest, rfl, rfl, .inl rfl, ?_⟩
        rintro _ ⟨⟩
        exact (advance_eq_nil_iff inhabited).mp nobody
      case h_2 somebody =>
        obtain ⟨front, behind, rfl, length, opened, closed⟩ :=
          inductionHypothesis (inhabited.advance c)
        refine ⟨c :: front, behind, rfl, by rw [List.length_cons, length], .inr ?_, ?_⟩
        · rcases opened with rfl | opened
          · exact Classical.not_not.mp ((not_congr (advance_eq_nil_iff inhabited)).mp somebody)
          · exact isOpen_cons.mpr opened
        · intro d next
          rw [List.cons_append, isOpen_cons]
          exact closed d next

theorem start_winnerOf (text : Text) : start.winnerOf text = Kind.of? text := by
  rw [winnerOf, start, List.find?_map, Option.map_map]
  exact Option.map_id_apply

theorem start_isOpen_iff : start.IsOpen text ↔ Token.IsOpen text := by
  constructor
  · rintro ⟨entry, racing, rest, matched⟩
    obtain ⟨kind, listed, rfl⟩ := List.mem_map.mp racing
    exact ⟨kind, listed, rest, matched⟩
  · rintro ⟨kind, listed, rest, matched⟩
    exact ⟨_, List.mem_map_of_mem listed, rest, matched⟩

theorem start_inhabited : start.Inhabited := by
  have witnessed : ∀ entry ∈ start, ∀ cls ∈ entry.2.classes,
      cls.contains 'x' = true ∨ ∃ range ∈ cls.ranges, cls.contains range.1 = true := by
    decide +kernel
  intro entry racing cls used
  rcases witnessed entry racing cls used with contained | ⟨range, _, contained⟩
  · exact ⟨_, contained⟩
  · exact ⟨_, contained⟩

end Race

/-- A text `front` is cut off as a token of a kind where `rest` follows. -/
inductive Leads : Kind → Text → Text → Prop where
  /-- It is described, and no longer text is. -/
  | described {kind front rest} :
      Kind.of? front = some kind →
      (∀ more, more ≠ [] → more <+: rest → Kind.of? (front ++ more) = none) →
      Leads kind front rest
  /-- Nothing is described here, and no described text goes on like this. -/
  | invalid {front rest} :
      front ≠ [] →
      (∀ part, part <+: front → Kind.of? part = none) →
      (front.length = 1 ∨ IsOpen front) →
      (∀ c ∈ rest.head?, ¬ IsOpen (front ++ [c])) →
      Leads .invalid front rest

section Leads

variable {kind other : Kind} {front rest a b : Text}

theorem Kind.matches_of_of? (found : of? front = some kind) : kind.pattern.Matches front := by
  rw [of?, List.find?_eq_some_iff_append] at found
  exact Pattern.accepts_iff.mp found.1

theorem Kind.mem_described_of_of? (found : of? front = some kind) : kind ∈ described :=
  List.mem_of_find?_eq_some found

theorem Kind.of?_nil : of? [] = none :=
  rfl

theorem Kind.of?_eq_none_iff :
    of? front = none ↔ ∀ kind ∈ described, ¬ kind.pattern.Matches front := by
  simp only [of?, List.find?_eq_none, Pattern.accepts_iff]

theorem IsOpen.of_append (opened : IsOpen (a ++ b)) : IsOpen a := by
  obtain ⟨kind, listed, rest, matched⟩ := opened
  exact ⟨kind, listed, b ++ rest, List.append_assoc a b rest ▸ matched⟩

theorem isOpen_of_of? (found : Kind.of? front = some kind) : IsOpen front :=
  ⟨kind, Kind.mem_described_of_of? found, [],
    (List.append_nil front).symm ▸ Kind.matches_of_of? found⟩

theorem Leads.ne_nil (leads : Leads kind front rest) : front ≠ [] := by
  cases leads with
  | described found _ =>
      rintro rfl
      cases Kind.of?_nil ▸ found
  | invalid notEmpty => exact notEmpty

/-- A token in front of a text is not cut longer for it. -/
theorem Leads.unique_of_append (shorter : Leads kind front (a ++ b))
    (longer : Leads other (front ++ a) b) : a = [] ∧ kind = other := by
  cases a with
  | nil =>
      refine ⟨rfl, ?_⟩
      rw [List.append_nil] at longer
      cases shorter with
      | described found _ =>
          cases longer with
          | described foundToo _ => exact Option.some.inj (found.symm.trans foundToo)
          | invalid _ undescribed => cases found.symm.trans (undescribed _ (List.prefix_refl _))
      | invalid _ undescribed =>
          cases longer with
          | described found _ => cases found.symm.trans (undescribed _ (List.prefix_refl _))
          | invalid => rfl
  | cons c a =>
      exfalso
      have further : front ++ c :: a = (front ++ [c]) ++ a := by simp
      cases shorter with
      | described found longest =>
          cases longer with
          | described foundToo _ =>
              cases foundToo.symm.trans (longest _ (List.cons_ne_nil c a) (List.prefix_append _ _))
          | invalid _ undescribed =>
              cases found.symm.trans (undescribed _ (List.prefix_append _ _))
      | invalid notEmpty _ _ closed =>
          refine closed c rfl (IsOpen.of_append (b := a) ?_)
          rw [← further]
          cases longer with
          | described found _ => exact isOpen_of_of? found
          | invalid _ _ opened _ =>
              refine opened.resolve_left ?_
              obtain ⟨d, front, rfl⟩ := List.exists_cons_of_ne_nil notEmpty
              simp

theorem Leads.unique {frontToo restToo : Text} (leads : Leads kind front rest)
    (leadsToo : Leads other frontToo restToo) (same : front ++ rest = frontToo ++ restToo) :
    kind = other ∧ front = frontToo := by
  rcases List.append_eq_append_iff.mp same with ⟨a, rfl, rfl⟩ | ⟨a, rfl, rfl⟩
  · obtain ⟨rfl, rfl⟩ := leads.unique_of_append leadsToo
    exact ⟨rfl, (List.append_nil front).symm⟩
  · obtain ⟨rfl, rfl⟩ := leadsToo.unique_of_append leads
    exact ⟨rfl, List.append_nil frontToo⟩

/-- What is measured in front of a text leads it. -/
theorem leads_measure {text : Text} (notEmpty : text ≠ []) :
    ∃ front rest, text = front ++ rest ∧ front.length = (measure text).2 ∧
      Leads (measure text).1 front rest := by
  rw [measure]
  split
  case h_1 kind length found =>
    obtain ⟨front, rest, whole, size, won, longest⟩ := Race.of_longest?_eq_some found
    simp only [Race.start_winnerOf] at won longest
    exact ⟨front, rest, whole, size, .described won longest⟩
  case h_2 nothing =>
    have undescribed {part : Text} (leading : part <+: text) : Kind.of? part = none := by
      rw [← Race.start_winnerOf]
      cases found : Race.start.longest? text with
      | none => exact Race.winnerOf_of_longest?_eq_none found leading
      | some outcome =>
          obtain ⟨kind, length⟩ := outcome
          cases length with
          | succ length => exact absurd found (nothing kind length)
          | zero =>
              obtain ⟨front, _, _, size, won, _⟩ := Race.of_longest?_eq_some found
              rw [Race.start_winnerOf, List.eq_nil_of_length_eq_zero size, Kind.of?_nil] at won
              cases won
    obtain ⟨front, rest, whole, size, opened, closed⟩ :=
      Race.reach_spec Race.start_inhabited text
    simp only [Race.start_isOpen_iff] at opened closed
    subst whole
    cases front with
    | cons c front =>
        refine ⟨c :: front, rest, rfl, by rw [← size, List.length_cons]; omega, ?_⟩
        refine .invalid (List.cons_ne_nil c front) ?_ (.inr (opened.resolve_left nofun)) closed
        exact fun part leading => undescribed (leading.trans (List.prefix_append _ _))
    | nil =>
        obtain ⟨c, rest, rfl⟩ := List.exists_cons_of_ne_nil notEmpty
        refine ⟨[c], rest, rfl, by rw [← size]; rfl, ?_⟩
        refine .invalid (List.cons_ne_nil c []) ?_ (.inl rfl) ?_
        · exact fun part leading => undescribed (leading.trans (List.prefix_append [c] rest))
        · exact fun d _ opened => closed c rfl (IsOpen.of_append (a := [c]) (b := [d]) opened)

/-- The lexer cuts off what leads. -/
theorem measure_append_iff (notEmpty : front ≠ []) :
    measure (front ++ rest) = (kind, front.length) ↔ Leads kind front rest := by
  obtain ⟨frontToo, restToo, whole, size, leads⟩ :=
    leads_measure (List.append_ne_nil_of_left_ne_nil notEmpty rest)
  constructor
  · intro measured
    rw [measured] at size leads
    obtain ⟨rfl, rfl⟩ := List.append_inj whole size.symm
    exact leads
  · intro leadsToo
    obtain ⟨sameKind, rfl⟩ := leadsToo.unique leads whole
    rw [sameKind, size]

/-- A token stays as it is when only the text far behind it changes. -/
theorem Leads.of_append (leads : Leads kind front (a ++ b)) : Leads kind front a := by
  cases leads with
  | described found longest =>
      exact .described found fun more notEmpty leading =>
        longest more notEmpty (leading.trans (List.prefix_append a b))
  | invalid notEmpty undescribed opened closed =>
      refine .invalid notEmpty undescribed opened fun c next => closed c ?_
      rw [List.head?_append, Option.mem_def.mp next]
      rfl

/-- No described text starts with `front` and the next character of `rest`. -/
def Stops (front rest : Text) : Prop :=
  ∀ c ∈ rest.head?, ¬ IsOpen (front ++ [c])

/-- Where no described text goes on, a token ends as it does at the end of the input. -/
theorem Leads.of_stops (alone : Leads kind front []) (stops : Stops front rest) :
    Leads kind front rest := by
  cases alone with
  | described found _ =>
      refine .described found fun more notEmpty leading => ?_
      obtain ⟨c, more, rfl⟩ := List.exists_cons_of_ne_nil notEmpty
      obtain ⟨behind, rfl⟩ := leading
      refine Option.eq_none_iff_forall_ne_some.mpr fun other foundToo => stops c rfl ?_
      have further : front ++ c :: more = (front ++ [c]) ++ more := by simp
      exact IsOpen.of_append (further ▸ isOpen_of_of? foundToo)
  | invalid notEmpty undescribed opened _ => exact .invalid notEmpty undescribed opened stops

end Leads

end ComponentStyles.Token
