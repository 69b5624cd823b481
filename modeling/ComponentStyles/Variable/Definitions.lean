import ComponentStyles.Stylesheet.Traversal

/-!
The variables of a stylesheet: for each name its last definition, in the order in which the
names are first defined.
-/

namespace ComponentStyles

/-- Definitions of different names. -/
structure Definitions where
  toList : List Definition
  distinct : (toList.map (·.name)).Nodup
deriving Repr

namespace Definitions

def empty : Definitions := ⟨[], .nil⟩

/-- Puts a definition in the place of the one with its name, or behind all others. -/
def insertInto (d : Definition) : List Definition → List Definition
  | [] => [d]
  | other :: rest => if other.name = d.name then d :: rest else other :: insertInto d rest

theorem name_mem_insertInto {d other : Definition} {ds : List Definition}
    (membership : other ∈ insertInto d ds) : other.name = d.name ∨ other ∈ ds := by
  induction ds with
  | nil => simp_all [insertInto]
  | cons first rest inductionHypothesis =>
      by_cases same : first.name = d.name <;> simp_all [insertInto] <;> grind

theorem distinct_insertInto (d : Definition) {ds : List Definition}
    (distinct : (ds.map (·.name)).Nodup) : ((insertInto d ds).map (·.name)).Nodup := by
  induction ds with
  | nil => simp [insertInto]
  | cons first rest inductionHypothesis =>
      rw [List.map_cons, List.nodup_cons] at distinct
      by_cases same : first.name = d.name
      · rw [insertInto, if_pos same, List.map_cons, List.nodup_cons, ← same]
        exact distinct
      · rw [insertInto, if_neg same, List.map_cons, List.nodup_cons]
        refine ⟨?_, inductionHypothesis distinct.2⟩
        intro membership
        obtain ⟨other, found, name⟩ := List.mem_map.mp membership
        rcases name_mem_insertInto found with inserted | old
        · exact same (name.symm.trans inserted)
        · exact distinct.1 (List.mem_map.mpr ⟨other, old, name⟩)

/-- Records a definition. It replaces an earlier one of the same name. -/
def insert (definitions : Definitions) (d : Definition) : Definitions :=
  ⟨insertInto d definitions.toList, distinct_insertInto d definitions.distinct⟩

def ofStylesheet (sheet : Stylesheet) : Definitions :=
  sheet.definitions.foldl insert empty

/-- The definition of a name. -/
def get? (definitions : Definitions) (name : Text) : Option Definition :=
  definitions.toList.find? fun d => d.name = name

def contains (definitions : Definitions) (name : Text) : Bool :=
  (definitions.get? name).isSome

def size (definitions : Definitions) : Nat :=
  definitions.toList.length

/-- The definitions whose names are not among the given ones. -/
def outside (definitions : Definitions) (names : List Text) : List Definition :=
  definitions.toList.filter fun d => d.name ∉ names

variable {definitions : Definitions} {name : Text} {d : Definition}

theorem mem_of_get? (found : definitions.get? name = some d) : d ∈ definitions.toList :=
  List.mem_of_find?_eq_some found

theorem name_of_get? (found : definitions.get? name = some d) : d.name = name := by
  simpa using List.find?_some found

/-- What is listed under a name is what looking the name up gives. -/
theorem get?_name (listed : d ∈ definitions.toList) : definitions.get? d.name = some d := by
  obtain ⟨ds, distinct⟩ := definitions
  induction ds with
  | nil => cases listed
  | cons first rest inductionHypothesis =>
      rw [List.map_cons, List.nodup_cons] at distinct
      rcases List.mem_cons.mp listed with rfl | later
      · exact List.find?_cons_of_pos (decide_eq_true rfl)
      · have other : first.name ≠ d.name := fun same =>
          distinct.1 (List.mem_map.mpr ⟨d, later, same.symm⟩)
        rw [get?, List.find?_cons_of_neg (by simpa using other)]
        exact inductionHypothesis distinct.2 later

theorem contains_of_get? (found : definitions.get? name = some d) :
    definitions.contains name = true := by
  rw [contains, found, Option.isSome_some]

theorem outside_cons (names : List Text) :
    definitions.outside (name :: names) =
      (definitions.outside names).filter fun d => d.name ≠ name := by
  simp only [outside, List.filter_filter, List.mem_cons, not_or, ne_eq, Bool.decide_and]

theorem length_outside_cons_le (names : List Text) :
    (definitions.outside (name :: names)).length ≤ (definitions.outside names).length := by
  rw [outside_cons]
  exact List.length_filter_le _ _

/-- Listing one more defined name leaves fewer definitions outside. -/
theorem length_outside_cons_lt {names : List Text} (found : definitions.get? name = some d)
    (fresh : name ∉ names) :
    (definitions.outside (name :: names)).length < (definitions.outside names).length := by
  have sameName := name_of_get? found
  rw [outside_cons, List.length_filter_lt_length_iff_exists]
  refine ⟨d, List.mem_filter.mpr ⟨mem_of_get? found, ?_⟩, ?_⟩
  · simpa [sameName] using fresh
  · simpa using sameName

end Definitions

end ComponentStyles
