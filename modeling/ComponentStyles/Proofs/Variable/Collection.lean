import ComponentStyles.Proofs.Stylesheet.Order
import ComponentStyles.Proofs.Stylesheet.Traversal
import Mathlib.Data.List.Induction

/-!
# Collecting and dropping definitions

A stylesheet may define a name many times and at any depth. What is collected under a name is its
last definition in document order, listed where the name first stands; what is dropped are all
definitions and nothing else.

`Drops` deletes definitions one by one and may stop at any of them, so it says what a deletion leaves
alone without saying what it deletes. Only one deletion leaves none behind.
-/

namespace ComponentStyles

section Dropping

/-- `kept` is `items` without the definitions `dropped`, which stand among them in that order. -/
inductive DropsItems : List Definition → List Item → List Item → Prop where
  | nil : DropsItems [] [] []
  | drop {d dropped items kept} :
      DropsItems dropped items kept → DropsItems (d :: dropped) (.definition d :: items) kept
  | keep {item dropped items kept} :
      DropsItems dropped items kept → DropsItems dropped (item :: items) (item :: kept)

mutual

/-- The statement is kept, with the definitions `dropped` taken out of its blocks. -/
inductive Statement.Drops : List Definition → Statement → Statement → Prop where
  | rule {selectors dropped items kept blockSpan span} :
      DropsItems dropped items kept →
      Statement.Drops dropped (.rule selectors ⟨items, blockSpan⟩ span)
        (.rule selectors ⟨kept, blockSpan⟩ span)
  | conditional {name condition dropped statements kept span} :
      Drops dropped statements kept →
      Statement.Drops dropped (.conditional name condition statements span)
        (.conditional name condition kept span)
  | declarations {name prelude dropped items kept blockSpan span} :
      DropsItems dropped items kept →
      Statement.Drops dropped (.atRule name prelude (some (.declarations ⟨items, blockSpan⟩)) span)
        (.atRule name prelude (some (.declarations ⟨kept, blockSpan⟩)) span)
  | same (statement : Statement) : Statement.Drops [] statement statement

/-- `kept` is what is left of `statements` once the definitions `dropped` are taken out, which stand
in them in that order. -/
inductive Drops : List Definition → List Statement → List Statement → Prop where
  | nil : Drops [] [] []
  | drop {d dropped statements kept} :
      Drops dropped statements kept → Drops (d :: dropped) (.definition d :: statements) kept
  | keep {inside dropped statement statement' statements kept} :
      Statement.Drops inside statement statement' →
      Drops dropped statements kept →
      Drops (inside ++ dropped) (statement :: statements) (statement' :: kept)

end

/-- The definitions among the entries of statements. -/
def definitionsOf (statements : List Statement) : List Definition :=
  (itemsOf statements).filterMap Item.definition?

theorem definitionsOf_cons (statement : Statement) (rest : List Statement) :
    definitionsOf (statement :: rest) =
      statement.items.filterMap Item.definition? ++ definitionsOf rest := by
  rw [definitionsOf, itemsOf, List.filterMap_append, definitionsOf]

theorem lists_definitionsOf (statements : List Statement) :
    Lists (· < ·) (fun place d => EntryAt statements place (.definition d))
      (definitionsOf statements) := by
  refine ((lists_entries statements).filterMap Item.definition?).congr fun place d => ?_
  constructor
  · rintro ⟨item, held, selected⟩
    cases item <;> cases selected
    exact held
  · intro held
    exact ⟨_, held, rfl⟩

theorem Block.withoutDefinitions_of_none {block : Block}
    (noneLeft : block.items.filterMap Item.definition? = []) :
    block.withoutDefinitions = block := by
  have allKept : block.items.filter (fun item => item.definition?.isNone) = block.items := by
    rw [List.filter_eq_self]
    intro item listed
    rw [Option.isNone_iff_eq_none]
    exact List.filterMap_eq_nil_iff.mp noneLeft item listed
  rw [withoutDefinitions, allKept]

theorem dropsItems_filter (items : List Item) :
    DropsItems (items.filterMap Item.definition?) items
      (items.filter fun item => item.definition?.isNone) := by
  induction items with
  | nil => exact .nil
  | cons item rest inductionHypothesis =>
      cases item with
      | declaration d => exact .keep inductionHypothesis
      | definition d => exact .drop inductionHypothesis

theorem DropsItems.eq_filter {dropped : List Definition} {items kept : List Item}
    (drops : DropsItems dropped items kept) (noneLeft : kept.filterMap Item.definition? = []) :
    dropped = items.filterMap Item.definition? ∧
      kept = items.filter fun item => item.definition?.isNone := by
  induction drops with
  | nil => exact ⟨rfl, rfl⟩
  | drop _ inductionHypothesis =>
      obtain ⟨rfl, rfl⟩ := inductionHypothesis noneLeft
      exact ⟨rfl, rfl⟩
  | @keep item _ _ _ _ inductionHypothesis =>
      cases item with
      | definition d => cases noneLeft
      | declaration d =>
          obtain ⟨rfl, rfl⟩ := inductionHypothesis noneLeft
          exact ⟨rfl, rfl⟩

mutual

/-- Where nothing is defined, nothing is dropped. -/
theorem Statement.withoutDefinitions?_of_none : ∀ {statement : Statement},
    statement.items.filterMap Item.definition? = [] →
      statement.withoutDefinitions? = some statement
  | .rule _ block _, noneLeft => by
      rw [Statement.withoutDefinitions?, Block.withoutDefinitions_of_none noneLeft]
  | .definition _, noneLeft => by cases noneLeft
  | .importing _ _ _, _ => rfl
  | .conditional _ _ statements _, noneLeft => by
      rw [Statement.withoutDefinitions?, withoutDefinitionsOf_of_none noneLeft]
  | .atRule _ _ none _, _ => rfl
  | .atRule _ _ (some (.declarations block)) _, noneLeft => by
      rw [Statement.withoutDefinitions?, Block.withoutDefinitions_of_none noneLeft]
  | .atRule _ _ (some (.raw _)) _, _ => rfl
  | .comment _ _, _ => rfl

theorem withoutDefinitionsOf_of_none : ∀ {statements : List Statement},
    definitionsOf statements = [] → withoutDefinitionsOf statements = statements
  | [], _ => rfl
  | statement :: rest, noneLeft => by
      rw [definitionsOf_cons, List.append_eq_nil_iff] at noneLeft
      rw [withoutDefinitionsOf, Statement.withoutDefinitions?_of_none noneLeft.1,
        withoutDefinitionsOf_of_none noneLeft.2]
      rfl

end

mutual

theorem Statement.drops_withoutDefinitions : ∀ {statement kept : Statement},
    statement.withoutDefinitions? = some kept →
      Statement.Drops (statement.items.filterMap Item.definition?) statement kept
  | .rule _ block _, _, rfl => .rule (dropsItems_filter block.items)
  | .importing _ _ _, _, rfl => .same _
  | .conditional _ _ statements _, _, rfl => .conditional (drops_withoutDefinitionsOf statements)
  | .atRule _ _ none _, _, rfl => .same _
  | .atRule _ _ (some (.declarations block)) _, _, rfl =>
      .declarations (dropsItems_filter block.items)
  | .atRule _ _ (some (.raw _)) _, _, rfl => .same _
  | .comment _ _, _, rfl => .same _

theorem drops_withoutDefinitionsOf : ∀ statements : List Statement,
    Drops (definitionsOf statements) statements (withoutDefinitionsOf statements)
  | [] => .nil
  | statement :: rest => by
      rw [definitionsOf_cons, withoutDefinitionsOf]
      cases kept : statement.withoutDefinitions? with
      | some statement' =>
          exact .keep (Statement.drops_withoutDefinitions kept) (drops_withoutDefinitionsOf rest)
      | none =>
          obtain ⟨d, rfl⟩ : ∃ d, statement = .definition d := by
            cases statement with
            | definition d => exact ⟨d, rfl⟩
            | atRule _ _ body _ => rcases body with - | (_ | _) <;> cases kept
            | _ => cases kept
          exact .drop (drops_withoutDefinitionsOf rest)

end

mutual

theorem Statement.Drops.eq_withoutDefinitions : ∀ {dropped : List Definition}
    {statement kept : Statement}, Statement.Drops dropped statement kept →
      kept.items.filterMap Item.definition? = [] →
        dropped = statement.items.filterMap Item.definition? ∧
          statement.withoutDefinitions? = some kept
  | _, _, _, .rule drops, noneLeft => by
      obtain ⟨rfl, rfl⟩ := drops.eq_filter noneLeft
      exact ⟨rfl, rfl⟩
  | _, _, _, .conditional drops, noneLeft => by
      obtain ⟨rfl, rfl⟩ := drops.eq_withoutDefinitionsOf noneLeft
      exact ⟨rfl, rfl⟩
  | _, _, _, .declarations drops, noneLeft => by
      obtain ⟨rfl, rfl⟩ := drops.eq_filter noneLeft
      exact ⟨rfl, rfl⟩
  | _, _, _, .same _, noneLeft => ⟨noneLeft.symm, Statement.withoutDefinitions?_of_none noneLeft⟩

theorem Drops.eq_withoutDefinitionsOf : ∀ {dropped : List Definition}
    {statements kept : List Statement}, Drops dropped statements kept →
      definitionsOf kept = [] →
        dropped = definitionsOf statements ∧ kept = withoutDefinitionsOf statements
  | _, _, _, .nil, _ => ⟨rfl, rfl⟩
  | _, _, _, .drop drops, noneLeft => by
      obtain ⟨rfl, rfl⟩ := drops.eq_withoutDefinitionsOf noneLeft
      exact ⟨rfl, rfl⟩
  | _, _, _, .keep dropsInside drops, noneLeft => by
      rw [definitionsOf_cons, List.append_eq_nil_iff] at noneLeft
      obtain ⟨rfl, inside⟩ := dropsInside.eq_withoutDefinitions noneLeft.1
      obtain ⟨rfl, rfl⟩ := drops.eq_withoutDefinitionsOf noneLeft.2
      rw [definitionsOf_cons, withoutDefinitionsOf, inside]
      exact ⟨rfl, rfl⟩

end

theorem definitionsOf_withoutDefinitionsOf (statements : List Statement) :
    definitionsOf (withoutDefinitionsOf statements) = [] := by
  rw [definitionsOf, itemsOf_withoutDefinitionsOf, List.filterMap_eq_nil_iff]
  intro item listed
  exact Option.isNone_iff_eq_none.mp (List.mem_filter.mp listed).2

/-- An entry is kept or is a definition. -/
theorem length_eq_kept_add_definitions (items : List Item) :
    items.length = (items.filter fun item => item.definition?.isNone).length +
      (items.filterMap Item.definition?).length := by
  induction items with
  | nil => rfl
  | cons item rest inductionHypothesis =>
      cases item with
      | declaration d =>
          rw [List.filter_cons_of_pos rfl, List.filterMap_cons_none rfl, List.length_cons,
            List.length_cons, inductionHypothesis, Nat.add_right_comm]
      | definition d =>
          have found : (Item.definition d).definition? = some d := rfl
          rw [List.filter_cons_of_neg Bool.false_ne_true, List.filterMap_cons_some found,
            List.length_cons, List.length_cons, inductionHypothesis, Nat.add_assoc]

/-- Of all deletions of definitions only the whole one leaves no definition behind. -/
theorem drops_all_iff {dropped : List Definition} {statements kept : List Statement} :
    (Drops dropped statements kept ∧ ∀ place d, ¬ EntryAt kept place (.definition d)) ↔
      dropped = definitionsOf statements ∧ kept = withoutDefinitionsOf statements := by
  have noneLeft_iff : (∀ place d, ¬ EntryAt kept place (.definition d)) ↔
      definitionsOf kept = [] := by
    rw [List.eq_nil_iff_forall_not_mem, forall_comm]
    simp only [(lists_definitionsOf kept).mem_iff, not_exists]
  rw [noneLeft_iff]
  constructor
  · rintro ⟨drops, noneLeft⟩
    exact drops.eq_withoutDefinitionsOf noneLeft
  · rintro ⟨rfl, rfl⟩
    exact ⟨drops_withoutDefinitionsOf statements, definitionsOf_withoutDefinitionsOf statements⟩

end Dropping

namespace Definitions

theorem find?_insertInto (d : Definition) (ds : List Definition) (name : Text) :
    (insertInto d ds).find? (fun other => other.name = name) =
      if d.name = name then some d else ds.find? fun other => other.name = name := by
  induction ds with
  | nil =>
      rw [insertInto, List.find?_singleton]
      simp
  | cons first rest inductionHypothesis =>
      rw [insertInto]
      by_cases same : first.name = d.name
      · rw [if_pos same]
        by_cases isName : d.name = name <;> simp [isName, same]
      · rw [if_neg same, List.find?_cons, inductionHypothesis, List.find?_cons]
        by_cases isName : first.name = name
        · have other : d.name ≠ name := fun sameName => same (isName.trans sameName.symm)
          simp [isName, other]
        · simp [isName]

theorem names_insertInto (d : Definition) (ds : List Definition) :
    (insertInto d ds).map (·.name) =
      if d.name ∈ ds.map (·.name) then ds.map (·.name) else ds.map (·.name) ++ [d.name] := by
  induction ds with
  | nil => simp [insertInto]
  | cons first rest inductionHypothesis =>
      by_cases same : first.name = d.name
      · simp [insertInto, same]
      · rw [insertInto, if_neg same, List.map_cons, inductionHypothesis]
        by_cases listed : d.name ∈ rest.map (·.name)
        · simp [listed]
        · have fresh : d.name ∉ (first :: rest).map (·.name) := by
            rw [List.map_cons, List.mem_cons, not_or]
            exact ⟨Ne.symm same, listed⟩
          rw [if_neg listed, if_neg fresh]
          rfl

/-- The definitions recorded one after the other, from none on. -/
def ofList (ds : List Definition) : Definitions :=
  ds.foldl insert empty

theorem ofList_concat (ds : List Definition) (d : Definition) :
    ofList (ds ++ [d]) = (ofList ds).insert d := by
  rw [ofList, List.foldl_append, List.foldl_cons, List.foldl_nil, ofList]

/-- The last definition of a name counts. -/
theorem get?_ofList (ds : List Definition) (name : Text) :
    (ofList ds).get? name = ds.reverse.find? fun d => d.name = name := by
  induction ds using List.reverseRecOn with
  | nil => rfl
  | append_singleton ds d inductionHypothesis =>
      have looked : (ofList (ds ++ [d])).get? name =
          if d.name = name then some d else (ofList ds).get? name := by
        rw [ofList_concat]
        exact find?_insertInto d _ name
      rw [looked, inductionHypothesis, List.reverse_append, List.reverse_singleton,
        List.singleton_append, List.find?_cons]
      by_cases isName : d.name = name <;> simp [isName]

/-- Names keep the order of their first definitions. -/
theorem names_ofList (ds : List Definition) :
    (ofList ds).toList.map (·.name) = (ds.map (·.name)).eraseDups := by
  induction ds using List.reverseRecOn with
  | nil => rfl
  | append_singleton ds d inductionHypothesis =>
      have named : (ofList (ds ++ [d])).toList.map (·.name) =
          if d.name ∈ (ofList ds).toList.map (·.name) then (ofList ds).toList.map (·.name)
          else (ofList ds).toList.map (·.name) ++ [d.name] := by
        rw [ofList_concat]
        exact names_insertInto d _
      rw [named, inductionHypothesis, List.map_append, List.eraseDups_append, List.map_singleton]
      generalize ds.map (·.name) = names
      by_cases listed : d.name ∈ names <;> simp [List.removeAll, List.eraseDups_cons, listed]

end Definitions

/-- What is collected and what is dropped are the same definitions. In document order they are those
of the stylesheet: under each name its last one is found, the names are listed as they first stand,
and the one deletion that leaves no definition behind deletes just these and leaves everything else
as it is, so it leaves as many entries fewer as there are definitions. After that nothing is left to
collect or to drop. -/
theorem collects_what_it_drops (sheet : Stylesheet) :
    let definitions := Definitions.ofStylesheet sheet
    let stripped := sheet.withoutDefinitions
    Lists (· < ·) (fun place d => EntryAt sheet.statements place (.definition d))
        sheet.definitions ∧
      (∀ name, definitions.get? name = sheet.definitions.reverse.find? fun d => d.name = name) ∧
      (∀ name, definitions.contains name = true ↔ name ∈ sheet.definitions.map (·.name)) ∧
      definitions.toList.map (·.name) = (sheet.definitions.map (·.name)).eraseDups ∧
      (∀ dropped kept,
        (Drops dropped sheet.statements kept ∧ ∀ place d, ¬ EntryAt kept place (.definition d)) ↔
          dropped = sheet.definitions ∧ kept = stripped.statements) ∧
      sheet.items.length = stripped.items.length + sheet.definitions.length ∧
      (Definitions.ofStylesheet stripped).toList = [] ∧
      stripped.definitions = [] ∧ stripped.withoutDefinitions = stripped := by
  intro definitions stripped
  have lookup (name : Text) : definitions.get? name =
      sheet.definitions.reverse.find? fun d => d.name = name :=
    Definitions.get?_ofList sheet.definitions name
  have noneLeft : stripped.definitions = [] := definitionsOf_withoutDefinitionsOf sheet.statements
  refine ⟨lists_definitionsOf sheet.statements, lookup, fun name => ?_,
    Definitions.names_ofList sheet.definitions, fun dropped kept => drops_all_iff, ?_, ?_, noneLeft,
    ?_⟩
  · rw [Definitions.contains, lookup, List.find?_isSome]
    simp
  · have kept : stripped.items = sheet.items.filter fun item => item.definition?.isNone :=
      itemsOf_withoutDefinitionsOf sheet.statements
    rw [kept]
    exact length_eq_kept_add_definitions sheet.items
  · rw [Definitions.ofStylesheet, noneLeft]
    rfl
  · have again := withoutDefinitionsOf_of_none noneLeft
    exact congrArg (fun statements => ({ stripped with statements } : Stylesheet)) again

end ComponentStyles
