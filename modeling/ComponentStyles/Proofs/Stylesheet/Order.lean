import ComponentStyles.Stylesheet.Traversal
import Mathlib.Data.List.Lex

/-!
# Document order

A place in a tree is the row of numbers that leads there: the number of a statement, then what leads
on inside it. Ordered as words, places are in document order, where what encloses comes before what
it encloses.

`Lists` says of a list that it holds what stands at places, each once and by the order of the
places. The entries of a stylesheet are listed in that sense by what stands in its statements and
blocks, and not by a walk.
-/

namespace ComponentStyles

/-- `values` are what `stands` at some place, each once for its place, by the order of the
places. -/
def Lists {Place Value : Type} (before : Place → Place → Prop) (stands : Place → Value → Prop)
    (values : List Value) : Prop :=
  ∃ placed : List (Place × Value),
    placed.Pairwise (fun first second => before first.1 second.1) ∧
      (∀ place value, (place, value) ∈ placed ↔ stands place value) ∧
      placed.map Prod.snd = values

namespace Lists

variable {Place Other Value Result : Type} {before : Place → Place → Prop}
  {beforeToo : Other → Other → Prop} {stands standsToo : Place → Value → Prop}
  {values : List Value}

theorem mem_iff (lists : Lists before stands values) {value : Value} :
    value ∈ values ↔ ∃ place, stands place value := by
  obtain ⟨placed, _, complete, rfl⟩ := lists
  simp [complete]

theorem congr (lists : Lists before stands values)
    (same : ∀ place value, stands place value ↔ standsToo place value) :
    Lists before standsToo values := by
  obtain ⟨placed, ordered, complete, listed⟩ := lists
  exact ⟨placed, ordered, fun place value => (complete place value).trans (same place value),
    listed⟩

/-- Places may be named otherwise, as long as their order stays. -/
theorem mapPlaces (lists : Lists before stands values) (name : Place → Other)
    (keeps : ∀ first second, before first second → beforeToo (name first) (name second)) :
    Lists beforeToo (fun place value => ∃ old, name old = place ∧ stands old value) values := by
  obtain ⟨placed, ordered, complete, rfl⟩ := lists
  refine ⟨placed.map fun entry => (name entry.1, entry.2), ?_, ?_, ?_⟩
  · rw [List.pairwise_map]
    exact ordered.imp fun earlier => keeps _ _ earlier
  · intro place value
    simp only [List.mem_map, Prod.exists, Prod.mk.injEq, complete]
    constructor
    · rintro ⟨old, _, held, named, rfl⟩
      exact ⟨old, named, held⟩
    · rintro ⟨old, named, held⟩
      exact ⟨old, value, held, named, rfl⟩
  · rw [List.map_map]
    rfl

theorem filterMap (lists : Lists before stands values) (select : Value → Option Result) :
    Lists before (fun place result => ∃ value, stands place value ∧ select value = some result)
      (values.filterMap select) := by
  obtain ⟨placed, ordered, complete, rfl⟩ := lists
  refine ⟨placed.filterMap fun entry => (select entry.2).map (entry.1, ·), ?_, ?_, ?_⟩
  · refine ordered.filterMap _ ?_
    intro first second earlier kept selected keptToo selectedToo
    obtain ⟨_, _, rfl⟩ := Option.map_eq_some_iff.mp selected
    obtain ⟨_, _, rfl⟩ := Option.map_eq_some_iff.mp selectedToo
    exact earlier
  · intro place result
    simp only [List.mem_filterMap, Prod.exists, Option.map_eq_some_iff, Prod.mk.injEq, complete]
    constructor
    · rintro ⟨_, value, held, _, selected, rfl, rfl⟩
      exact ⟨value, held, selected⟩
    · rintro ⟨value, held, selected⟩
      exact ⟨place, value, held, result, selected, rfl, rfl⟩
  · rw [List.map_filterMap, List.filterMap_map]
    refine congrArg (List.filterMap · placed) (funext fun entry => ?_)
    rw [Option.map_map]
    exact Option.map_id'

/-- Where each value is expanded to results with places of their own, a result stands at the place
of its value and, within that, at its own. -/
theorem flatMap (lists : Lists before stands values) {expand : Value → List Result}
    {inside : Value → Other → Result → Prop}
    (expands : ∀ value ∈ values, Lists beforeToo (inside value) (expand value)) :
    Lists (Prod.Lex before beforeToo)
      (fun place result => ∃ value, stands place.1 value ∧ inside value place.2 result)
      (values.flatMap expand) := by
  obtain ⟨placed, ordered, complete, rfl⟩ := lists
  have chosen : ∀ value, ∃ results : List (Other × Result), value ∈ placed.map Prod.snd →
      results.Pairwise (fun first second => beforeToo first.1 second.1) ∧
        (∀ place result, (place, result) ∈ results ↔ inside value place result) ∧
        results.map Prod.snd = expand value := by
    intro value
    by_cases listed : value ∈ placed.map Prod.snd
    · exact (expands value listed).imp fun _ expanded _ => expanded
    · exact ⟨[], fun listedToo => absurd listedToo listed⟩
  choose results expanded using chosen
  have expandedAt : ∀ entry ∈ placed, _ := fun entry listed =>
    expanded entry.2 (List.mem_map_of_mem listed)
  refine ⟨placed.flatMap fun entry =>
    (results entry.2).map fun inner => ((entry.1, inner.1), inner.2), ?_, ?_, ?_⟩
  · rw [List.pairwise_flatMap]
    constructor
    · intro entry listed
      rw [List.pairwise_map]
      refine (expandedAt entry listed).1.imp ?_
      intro first second earlier
      exact Prod.Lex.right _ earlier
    · refine ordered.imp fun {first second} earlier => ?_
      simp only [List.mem_map, forall_exists_index, and_imp]
      rintro _ inner _ rfl _ innerToo _ rfl
      exact Prod.Lex.left _ _ earlier
  · rintro ⟨outer, inner⟩ result
    simp only [List.mem_flatMap, List.mem_map, Prod.exists, Prod.mk.injEq, ← complete]
    constructor
    · rintro ⟨_, value, listed, _, _, innerListed, ⟨rfl, rfl⟩, rfl⟩
      exact ⟨value, listed, ((expandedAt _ listed).2.1 _ _).mp innerListed⟩
    · rintro ⟨value, listed, held⟩
      exact ⟨outer, value, listed, inner, result, ((expandedAt _ listed).2.1 _ _).mpr held,
        ⟨rfl, rfl⟩, rfl⟩
  · rw [List.map_flatMap, List.flatMap_map]
    refine List.flatMap_congr fun entry listed => ?_
    rw [List.map_map, ← (expandedAt entry listed).2.2]
    rfl

end Lists

/-- A list lists its elements by their numbers. -/
theorem lists_numbered {Value : Type} (values : List Value) :
    Lists (· < ·) (fun (number : Nat) value => values[number]? = some value) values := by
  refine ⟨values.zipIdx.map Prod.swap, ?_, ?_, ?_⟩
  · rw [List.pairwise_map]
    have ordered : (values.zipIdx.map Prod.snd).Pairwise (· < ·) := by
      rw [List.zipIdx_map_snd]
      exact List.pairwise_lt_range'
    exact List.pairwise_map.mp ordered
  · intro number value
    simp [List.mem_zipIdx_iff_getElem?]
  · rw [List.map_map]
    exact List.zipIdx_map_fst 0 values

section Rows

variable {Value Result : Type}

/-- A single value stands at the end of its place. -/
theorem lists_single (value : Value) :
    Lists (· < ·) (fun (place : List Nat) found => place = [] ∧ found = value) [value] :=
  ⟨[([], value)], List.pairwise_singleton _ _, by simp, rfl⟩

theorem lists_nil : Lists (· < ·) (fun (_ : List Nat) (_ : Value) => False) [] :=
  ⟨[], .nil, by simp, rfl⟩

/-- In a row of values, a place starts with the number of a value and goes on inside it. -/
theorem lists_row {values : List Value} {expand : Value → List Result}
    {inside : Value → List Nat → Result → Prop}
    (expands : ∀ value ∈ values, Lists (· < ·) (inside value) (expand value)) :
    Lists (· < ·)
      (fun place result => ∃ number rest value, place = number :: rest ∧
        values[number]? = some value ∧ inside value rest result)
      (values.flatMap expand) := by
  have keeps (first second : Nat × List Nat)
      (earlier : Prod.Lex (· < ·) (· < ·) first second) :
      first.1 :: first.2 < second.1 :: second.2 := by
    cases earlier with
    | left _ _ earlier => exact List.Lex.rel earlier
    | right _ earlier => exact List.Lex.cons earlier
  have inRow := ((lists_numbered values).flatMap expands).mapPlaces
    (fun place => place.1 :: place.2) keeps
  refine inRow.congr fun place result => ?_
  constructor
  · rintro ⟨⟨number, rest⟩, rfl, value, held, insideHeld⟩
    exact ⟨number, rest, value, rfl, held, insideHeld⟩
  · rintro ⟨number, rest, value, rfl, held, insideHeld⟩
    exact ⟨(number, rest), rfl, value, held, insideHeld⟩

end Rows

mutual

/-- `statement.EntryAt place item`: inside the statement, `place` leads to the entry `item`. -/
inductive Statement.EntryAt : Statement → List Nat → Item → Prop where
  | rule {selectors block span number item} :
      block.items[number]? = some item →
      Statement.EntryAt (.rule selectors block span) [number] item
  | definition {d} : Statement.EntryAt (.definition d) [] (.definition d)
  | conditional {name condition statements span place item} :
      EntryAt statements place item →
      Statement.EntryAt (.conditional name condition statements span) place item
  | declarations {name prelude block span number item} :
      block.items[number]? = some item →
      Statement.EntryAt (.atRule name prelude (some (.declarations block)) span) [number] item

/-- In a row of statements, `place` leads to the entry `item`. -/
inductive EntryAt : List Statement → List Nat → Item → Prop where
  | within {statements number statement place item} :
      statements[number]? = some statement →
      statement.EntryAt place item →
      EntryAt statements (number :: place) item

end

mutual

/-- `term.UsageAt place usage`: in the term, `place` leads to a usage. Fallbacks are not looked
into. -/
inductive Term.UsageAt : Term → List Nat → Term → Prop where
  | usage {name fallback span} :
      Term.UsageAt (.usage name fallback span) [] (.usage name fallback span)
  | argument {name arguments argumentsSpan span place usage} :
      UsageAt arguments place usage →
      Term.UsageAt (.call name arguments argumentsSpan span) place usage

/-- In a row of terms, `place` leads to a usage. -/
inductive UsageAt : List Term → List Nat → Term → Prop where
  | within {terms number term place usage} :
      terms[number]? = some term →
      term.UsageAt place usage →
      UsageAt terms (number :: place) usage

end

section Entries

theorem itemsOf_eq_flatMap (statements : List Statement) :
    itemsOf statements = statements.flatMap Statement.items := by
  induction statements with
  | nil => rfl
  | cons statement rest inductionHypothesis =>
      rw [itemsOf, inductionHypothesis, List.flatMap_cons]

theorem entryAt_iff {statements : List Statement} {place : List Nat} {item : Item} :
    EntryAt statements place item ↔
      ∃ number rest statement, place = number :: rest ∧ statements[number]? = some statement ∧
        statement.EntryAt rest item := by
  constructor
  · rintro ⟨found, inside⟩
    exact ⟨_, _, _, rfl, found, inside⟩
  · rintro ⟨number, rest, statement, rfl, found, inside⟩
    exact .within found inside

/-- The entries of a block stand at their numbers. -/
theorem lists_items (block : Block) :
    Lists (· < ·)
      (fun (place : List Nat) item => ∃ number, place = [number] ∧ block.items[number]? = some item)
      block.items := by
  have inRow := lists_row fun item (_ : item ∈ block.items) => lists_single item
  rw [List.flatMap_singleton'] at inRow
  refine inRow.congr fun place item => ?_
  constructor
  · rintro ⟨number, _, item, rfl, found, rfl, rfl⟩
    exact ⟨number, rfl, found⟩
  · rintro ⟨number, rfl, found⟩
    exact ⟨number, [], item, rfl, found, rfl, rfl⟩

theorem Statement.lists_entries (statement : Statement) :
    Lists (· < ·) statement.EntryAt statement.items := by
  have nothing (other : Statement) (holdsNone : ∀ place item, ¬ other.EntryAt place item) :
      Lists (· < ·) other.EntryAt [] :=
    lists_nil.congr fun place item => (iff_false_intro (holdsNone place item)).symm
  match statement with
  | .rule selectors block span =>
      refine (lists_items block).congr fun place item => ⟨?_, ?_⟩
      · rintro ⟨number, rfl, found⟩
        exact .rule found
      · intro held
        cases held with
        | rule found => exact ⟨_, rfl, found⟩
  | .definition d =>
      refine (lists_single _).congr fun place item => ⟨?_, ?_⟩
      · rintro ⟨rfl, rfl⟩
        exact .definition
      · intro held
        cases held with
        | definition => exact ⟨rfl, rfl⟩
  | .conditional name condition statements span =>
      have inside := lists_row fun other (_ : other ∈ statements) => other.lists_entries
      rw [← itemsOf_eq_flatMap] at inside
      refine inside.congr fun place item => entryAt_iff.symm.trans ⟨.conditional, ?_⟩
      intro held
      cases held with
      | conditional insideHeld => exact insideHeld
  | .atRule name prelude (some (.declarations block)) span =>
      refine (lists_items block).congr fun place item => ⟨?_, ?_⟩
      · rintro ⟨number, rfl, found⟩
        exact .declarations found
      · intro held
        cases held with
        | declarations found => exact ⟨_, rfl, found⟩
  | .importing _ _ _ => exact nothing _ nofun
  | .atRule _ _ none _ => exact nothing _ nofun
  | .atRule _ _ (some (.raw _)) _ => exact nothing _ nofun
  | .comment _ _ => exact nothing _ nofun
termination_by sizeOf statement
decreasing_by
  have smaller := List.sizeOf_lt_of_mem ‹other ∈ statements›
  simp only [Statement.conditional.sizeOf_spec]
  omega

/-- The walk over statements lists their entries. -/
theorem lists_entries (statements : List Statement) :
    Lists (· < ·) (EntryAt statements) (itemsOf statements) := by
  rw [itemsOf_eq_flatMap]
  exact (lists_row fun statement _ => statement.lists_entries).congr
    fun place item => entryAt_iff.symm

end Entries

end ComponentStyles
