import ComponentStyles.Variable.Substitution
import Mathlib.Data.List.Basic
import Mathlib.Logic.Relation

/-!
# Cycles of references

`Definitions.Refers` is the graph of the references between names, by rules and not through the
functions that list them. The search for a way back to a name finds one exactly when there is one,
so the warnings about cycles name the names on cycles and no others.
-/

namespace ComponentStyles

open Relation

/-- What a term refers to: the names used in it, and where a used name is undefined and its
fallback is a usage too, what the fallback refers to. -/
inductive Term.RefersTo (definitions : Definitions) : Term → Text → Prop where
  | name {name fallback span} : Term.RefersTo definitions (.usage name fallback span) name
  | fallback {name other fallback otherSpan span target} :
      definitions.get? name = none →
      Term.RefersTo definitions (.usage other fallback otherSpan) target →
      Term.RefersTo definitions (.usage name (some (.usage other fallback otherSpan)) span) target
  | argument {name arguments argumentsSpan span term target} :
      term ∈ arguments →
      Term.RefersTo definitions term target →
      Term.RefersTo definitions (.call name arguments argumentsSpan span) target

/-- A name refers to what a term of its definition refers to. -/
def Definitions.Refers (definitions : Definitions) (name target : Text) : Prop :=
  ∃ d, definitions.get? name = some d ∧ ∃ term ∈ d.value.terms, term.RefersTo definitions target

variable {definitions : Definitions}

theorem mem_referencesOf_iff {target : Text} {terms : List Term} :
    target ∈ referencesOf definitions terms ↔
      ∃ term ∈ terms, target ∈ term.references definitions := by
  induction terms with
  | nil => simp [referencesOf]
  | cons term rest inductionHypothesis => simp [referencesOf, inductionHypothesis]

namespace Term

theorem mem_references_usage {name target : Text} {fallback : Option Term} {span : Span} :
    target ∈ (usage name fallback span).references definitions ↔
      target = name ∨ definitions.get? name = none ∧
        ∃ other inner otherSpan, fallback = some (usage other inner otherSpan) ∧
          target ∈ (usage other inner otherSpan).references definitions := by
  cases fallback with
  | none => simp [references]
  | some fallback =>
      cases fallback with
      | usage other inner otherSpan =>
          cases defined : definitions.get? name with
          | none => simp only [references, Definitions.contains, defined]; grind
          | some d => simp [references, Definitions.contains, defined]
      | literal | url | call | operator => simp [references]

theorem refersTo_of_mem_references {target : Text} :
    (term : Term) → target ∈ term.references definitions → term.RefersTo definitions target
  | .literal _ _, listed => by cases listed
  | .url _ _, listed => by cases listed
  | .operator _ _, listed => by cases listed
  | .call _ arguments _ _, listed => by
      rw [references, mem_referencesOf_iff] at listed
      obtain ⟨term, inArguments, listed⟩ := listed
      exact .argument inArguments (term.refersTo_of_mem_references listed)
  | .usage name fallback span, listed => by
      rcases mem_references_usage.mp listed with
        rfl | ⟨undefined, other, inner, otherSpan, rfl, onward⟩
      · exact .name
      · exact .fallback undefined (refersTo_of_mem_references _ onward)

theorem mem_references_of_refersTo {term : Term} {target : Text}
    (refers : term.RefersTo definitions target) : target ∈ term.references definitions := by
  induction refers with
  | name => exact mem_references_usage.mpr (.inl rfl)
  | fallback undefined _ inductionHypothesis =>
      exact mem_references_usage.mpr (.inr ⟨undefined, _, _, _, rfl, inductionHypothesis⟩)
  | argument inArguments _ inductionHypothesis =>
      rw [references, mem_referencesOf_iff]
      exact ⟨_, inArguments, inductionHypothesis⟩

theorem mem_references_iff {term : Term} {target : Text} :
    target ∈ term.references definitions ↔ term.RefersTo definitions target :=
  ⟨term.refersTo_of_mem_references, mem_references_of_refersTo⟩

end Term

namespace Definitions

theorem mem_references_iff {name target : Text} :
    target ∈ definitions.references name ↔ definitions.Refers name target := by
  cases defined : definitions.get? name with
  | none =>
      rw [references_eq_nil defined]
      constructor
      · intro listed
        cases listed
      · rintro ⟨d, found, _⟩
        rw [defined] at found
        cases found
  | some d =>
      simp only [references, Refers, defined, Option.map_some, Option.getD_some,
        Option.some.injEq, exists_eq_left', mem_referencesOf_iff, Term.mem_references_iff]

/-- The names that have been followed are not the goal, and refer to nothing but what has been
followed or is still waiting. -/
def AreFollowed (definitions : Definitions) (goal : Text) (seen stack : List Text) : Prop :=
  ∀ name ∈ seen, name ≠ goal ∧
    ∀ target, definitions.Refers name target → target ∈ seen ∨ target ∈ stack

/-- A way from a followed name to the goal passes through a waiting one. -/
theorem AreFollowed.exists_waiting {goal name : Text} {seen stack : List Text}
    (followed : definitions.AreFollowed goal seen stack) (listed : name ∈ seen)
    (way : ReflTransGen definitions.Refers name goal) :
    ∃ waiting ∈ stack, ReflTransGen definitions.Refers waiting goal := by
  induction way using ReflTransGen.head_induction_on with
  | refl => exact absurd rfl (followed goal listed).1
  | head step rest inductionHypothesis =>
      rcases (followed _ listed).2 _ step with alreadySeen | waiting
      · exact inductionHypothesis alreadySeen
      · exact ⟨_, waiting, rest⟩

theorem leadsTo_iff (goal : Text) (seen stack : List Text)
    (followed : definitions.AreFollowed goal seen stack) :
    definitions.leadsTo goal seen stack = true ↔
      ∃ waiting ∈ stack, ReflTransGen definitions.Refers waiting goal := by
  induction seen, stack using leadsTo.induct definitions goal with
  | case1 seen => simp [leadsTo]
  | case2 seen stack =>
      rw [leadsTo, if_pos rfl]
      exact iff_of_true rfl ⟨goal, List.mem_cons_self, .refl⟩
  | case3 seen name stack other listed inductionHypothesis =>
      have followedRest : definitions.AreFollowed goal seen stack := by
        intro earlier earlierListed
        refine ⟨(followed earlier earlierListed).1, ?_⟩
        intro target refers
        rcases (followed earlier earlierListed).2 target refers with alreadySeen | waiting
        · exact .inl alreadySeen
        · rcases List.mem_cons.mp waiting with rfl | later
          · exact .inl listed
          · exact .inr later
      rw [leadsTo, if_neg other, if_pos listed, inductionHypothesis followedRest,
        List.exists_mem_cons_iff]
      -- The name was followed before, so a way from it passes through the rest.
      exact ⟨.inr, fun ways => ways.elim (followedRest.exists_waiting listed) id⟩
  | case4 seen name stack other fresh inductionHypothesis =>
      have followedMore :
          definitions.AreFollowed goal (name :: seen) (definitions.references name ++ stack) := by
        intro earlier earlierListed
        rcases List.mem_cons.mp earlierListed with rfl | earlierListed
        · refine ⟨other, ?_⟩
          intro target refers
          exact .inr (List.mem_append_left _ (mem_references_iff.mpr refers))
        · refine ⟨(followed earlier earlierListed).1, ?_⟩
          intro target refers
          rcases (followed earlier earlierListed).2 target refers with alreadySeen | waiting
          · exact .inl (List.mem_cons_of_mem _ alreadySeen)
          · rcases List.mem_cons.mp waiting with rfl | later
            · exact .inl List.mem_cons_self
            · exact .inr (List.mem_append_right _ later)
      rw [leadsTo, if_neg other, if_neg fresh, inductionHypothesis followedMore,
        List.exists_mem_cons_iff]
      constructor
      · rintro ⟨waiting, listed, way⟩
        rcases List.mem_append.mp listed with referred | later
        · exact .inl (.head (mem_references_iff.mp referred) way)
        · exact .inr ⟨waiting, later, way⟩
      · rintro (way | ⟨waiting, later, way⟩)
        · rcases ReflTransGen.cases_head_iff.mp way with same | ⟨next, refers, rest⟩
          · exact absurd same other
          · exact ⟨next, List.mem_append_left _ (mem_references_iff.mpr refers), rest⟩
        · exact ⟨waiting, List.mem_append_right _ later, way⟩

/-- The search from what a name refers to comes back to it exactly when a way does. -/
theorem isCyclic_iff {name : Text} :
    definitions.isCyclic name = true ↔ TransGen definitions.Refers name name := by
  have nothingFollowed : definitions.AreFollowed name [] (definitions.references name) := by
    intro other listed
    cases listed
  rw [isCyclic, leadsTo_iff name [] _ nothingFollowed, TransGen.head'_iff]
  simp only [mem_references_iff]

instance (name : Text) : Decidable (TransGen definitions.Refers name name) :=
  decidable_of_iff _ isCyclic_iff

theorem mem_names_of_refers {name target : Text} (refers : definitions.Refers name target) :
    name ∈ definitions.toList.map (·.name) := by
  obtain ⟨d, found, _⟩ := refers
  exact List.mem_map.mpr ⟨d, mem_of_get? found, name_of_get? found⟩

/-- A name that leads back to itself is the name of exactly one definition. -/
theorem countP_cyclic (name : Text) :
    definitions.toList.countP
        (fun d => TransGen definitions.Refers d.name d.name ∧ d.name = name) =
      if TransGen definitions.Refers name name then 1 else 0 := by
  split
  case isTrue cyclic =>
    obtain ⟨_, refers, _⟩ := TransGen.head'_iff.mp cyclic
    have once : (definitions.toList.map (·.name)).count name = 1 := by
      rw [definitions.distinct.count, if_pos (mem_names_of_refers refers)]
    rw [List.count_eq_countP, List.countP_map] at once
    rw [← once]
    refine List.countP_congr fun d _ => ?_
    simp only [decide_eq_true_eq, Function.comp_apply, beq_iff_eq, and_iff_right_iff_imp]
    rintro rfl
    exact cyclic
  case isFalse acyclic =>
    rw [List.countP_eq_zero]
    rintro d _ holds
    obtain ⟨cyclic, rfl⟩ := of_decide_eq_true holds
    exact acyclic cyclic

end Definitions

namespace Stylesheet

theorem filter_cycleMessages (sheet : Stylesheet) :
    (sheet.cycleMessages definitions).filter (·.code = .varCycle) =
      sheet.cycleMessages definitions := by
  rw [List.filter_eq_self]
  intro message raised
  obtain ⟨d, _, rfl⟩ := List.mem_map.mp raised
  rfl

theorem filter_unresolvedMessages (sheet : Stylesheet) :
    (sheet.unresolvedMessages definitions).filter (·.code = .varCycle) = [] := by
  rw [List.filter_eq_nil_iff]
  intro message raised
  obtain ⟨usage, _, rfl⟩ := List.mem_map.mp raised
  exact Bool.false_ne_true

theorem cycleMessages_eq (definitions : Definitions) (sheet : Stylesheet) :
    sheet.cycleMessages definitions =
      (definitions.toList.filter fun d => TransGen definitions.Refers d.name d.name).map fun d =>
        ⟨.varCycle, .warning, "var cycle detected var-".toList ++ d.name,
          sheet.file.locate d.span⟩ := by
  have sameNames : definitions.cyclic =
      definitions.toList.filter fun d => TransGen definitions.Refers d.name d.name := by
    refine List.filter_congr fun d _ => ?_
    rw [Bool.eq_iff_iff, Definitions.isCyclic_iff, decide_eq_true_eq]
  rw [cycleMessages, sameNames]
  rfl

end Stylesheet

/-- The warnings about cycles are one for each definition whose name leads back to itself, at that
definition and in the order of the definitions. So each name on a cycle has one, and no other name
has any. -/
theorem varCycle_messages_iff_on_cycle (definitions : Definitions) (reportUnresolved : Bool)
    (sheet : Stylesheet) :
    let raised := sheet.variableMessages definitions reportUnresolved
    raised.filter (·.code = .varCycle) =
        (definitions.toList.filter fun d => TransGen definitions.Refers d.name d.name).map
          (fun d => ⟨.varCycle, .warning, "var cycle detected var-".toList ++ d.name,
            sheet.file.locate d.span⟩) ∧
      (∀ d ∈ definitions.toList, definitions.get? d.name = some d) ∧
      ∀ name, raised.countP (fun message => message.code = .varCycle ∧
          message.text = "var cycle detected var-".toList ++ name) =
        if TransGen definitions.Refers name name then 1 else 0 := by
  intro raised
  have raisedCycles : raised.filter (·.code = .varCycle) = sheet.cycleMessages definitions := by
    rw [show raised = sheet.variableMessages definitions reportUnresolved from rfl,
      Stylesheet.variableMessages, List.filter_append, sheet.filter_cycleMessages]
    cases reportUnresolved with
    | false => simp
    | true => simp [sheet.filter_unresolvedMessages]
  have raisedDefinitions := raisedCycles.trans (sheet.cycleMessages_eq definitions)
  refine ⟨raisedDefinitions, fun d listed => Definitions.get?_name listed, ?_⟩
  intro name
  calc
    _ = (raised.filter (·.code = .varCycle)).countP
          (fun message => message.text = "var cycle detected var-".toList ++ name) := by
        rw [List.countP_filter]
        simp only [Bool.decide_and, Bool.and_comm]
    _ = definitions.toList.countP
          (fun d => TransGen definitions.Refers d.name d.name ∧ d.name = name) := by
        rw [raisedDefinitions, List.countP_map, List.countP_filter]
        simp only [Function.comp_def, List.append_cancel_left_eq, Bool.decide_and, Bool.and_comm]
    _ = _ := Definitions.countP_cyclic name

end ComponentStyles
