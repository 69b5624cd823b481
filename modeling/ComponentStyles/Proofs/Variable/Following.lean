import ComponentStyles.Proofs.Variable.Usage
import Mathlib.Logic.Relation

/-!
# Following usages

What is looked up while a term is replaced, as long as no chase fails: the names used in it, those
in arguments included, and where a name is undefined also what its fallback follows. The fallback
of a defined name is not among them.

Where no name comes back to itself that way, no chase fails, and what a name is looked up to does
not depend on the names on the way to it.
-/

namespace ComponentStyles

open Relation

/-- Replacing a term follows a name. -/
inductive Term.Follows (definitions : Definitions) : Term → Text → Prop where
  | name {name fallback span} : Term.Follows definitions (.usage name fallback span) name
  | fallback {name fallback span target} :
      definitions.get? name = none →
      Term.Follows definitions fallback target →
      Term.Follows definitions (.usage name (some fallback) span) target
  | argument {name arguments argumentsSpan span term target} :
      term ∈ arguments →
      Term.Follows definitions term target →
      Term.Follows definitions (.call name arguments argumentsSpan span) target

theorem mem_usedNamesOf_of_mem {term : Term} {terms : List Term} {name : Text}
    (listed : term ∈ terms) (used : name ∈ term.usedNames) : name ∈ usedNamesOf terms := by
  induction terms with
  | nil => cases listed
  | cons first rest inductionHypothesis =>
      rw [usedNamesOf, List.mem_append]
      rcases List.mem_cons.mp listed with rfl | later
      · exact .inl used
      · exact .inr (inductionHypothesis later)

theorem Term.Follows.mem_usedNames {definitions : Definitions} {term : Term} {target : Text}
    (follows : term.Follows definitions target) : target ∈ term.usedNames := by
  induction follows with
  | name => exact Term.name_mem_usedNames _ _ _
  | fallback _ _ inductionHypothesis => exact List.mem_cons_of_mem _ inductionHypothesis
  | argument inArguments _ inductionHypothesis =>
      exact mem_usedNamesOf_of_mem inArguments inductionHypothesis

namespace Definitions

/-- A name leads to what the terms of its definition follow. -/
def Leads (definitions : Definitions) (name target : Text) : Prop :=
  ∃ d, definitions.get? name = some d ∧ ∃ term ∈ d.value.terms, term.Follows definitions target

/-- No name leads back to itself. -/
def NeverReturn (definitions : Definitions) : Prop :=
  ∀ name, ¬ TransGen definitions.Leads name name

/-- The names that are being chased lead to a name. -/
def LeadTo (definitions : Definitions) (chasing : List Text) (name : Text) : Prop :=
  ∀ other ∈ chasing, TransGen definitions.Leads other name

variable {definitions : Definitions} {chasing : List Text} {name : Text} {d : Definition}

theorem leadTo_nil (name : Text) : definitions.LeadTo [] name := by
  intro other listed
  cases listed

theorem LeadTo.cons {next : Text} (leads : definitions.LeadTo chasing name)
    (step : definitions.Leads name next) : definitions.LeadTo (name :: chasing) next := by
  intro other listed
  rcases List.mem_cons.mp listed with rfl | earlier
  · exact .single step
  · exact (leads other earlier).tail step

theorem LeadTo.not_mem (never : definitions.NeverReturn)
    (leads : definitions.LeadTo chasing name) : name ∉ chasing := by
  intro again
  exact never name (leads name again)

theorem chase_eq_undefined_iff (chasing : List Text) :
    definitions.chase chasing name = .undefined ↔ definitions.get? name = none := by
  constructor
  · intro looked
    cases defined : definitions.get? name with
    | none => rfl
    | some d =>
        rw [chase_of_defined defined] at looked
        split at looked
        · cases looked
        · split at looked <;> cases looked
  · exact chase_of_undefined

end Definitions

variable {definitions : Definitions} {chasing : List Text}

mutual

theorem Term.exists_substitute : (term : Term) →
    (∀ target, term.Follows definitions target → definitions.chase chasing target ≠ .cyclic) →
      ∃ result, term.substitute (definitions.chase chasing) = some result ∧
        ∀ look : Text → Chase,
          (∀ target, term.Follows definitions target →
            look target = definitions.chase chasing target) →
          term.substitute look = some result
  | .literal text span, _ => ⟨[.literal text span], rfl, fun _ _ => rfl⟩
  | .url target span, _ => ⟨[.url target span], rfl, fun _ _ => rfl⟩
  | .operator op span, _ => ⟨[.operator op span], rfl, fun _ _ => rfl⟩
  | .call name arguments argumentsSpan span, succeeds => by
      obtain ⟨results, replaced, anyLook⟩ := exists_substituteAll arguments
        fun term listed target follows => succeeds target (.argument listed follows)
      refine ⟨[.call name results argumentsSpan span], ?_, ?_⟩
      · rw [Term.substitute, replaced, Option.map_some]
      · intro look same
        rw [Term.substitute, anyLook look fun term listed target follows =>
          same target (.argument listed follows), Option.map_some]
  | .usage name fallback span, succeeds => by
      cases looked : definitions.chase chasing name with
      | cyclic => exact absurd looked (succeeds name .name)
      | found terms =>
          refine ⟨terms, Term.substitute_usage_found looked, ?_⟩
          intro look same
          exact Term.substitute_usage_found ((same name .name).trans looked)
      | undefined =>
          have undefined := (Definitions.chase_eq_undefined_iff chasing).mp looked
          cases fallback with
          | none =>
              refine ⟨[], Term.substitute_usage_undefined looked, ?_⟩
              intro look same
              exact Term.substitute_usage_undefined ((same name .name).trans looked)
          | some fallback =>
              obtain ⟨result, replaced, anyLook⟩ := fallback.exists_substitute
                fun target follows => succeeds target (.fallback undefined follows)
              refine ⟨result, ?_, ?_⟩
              · rw [Term.substitute_usage_fallback (by simp [looked]), replaced]
              · intro look same
                rw [Term.substitute_usage_fallback (by simp [same name .name, looked])]
                exact anyLook look fun target follows => same target (.fallback undefined follows)

/-- Where no chase of a name that is followed fails, replacing succeeds, and its result depends on
the names that are followed only. -/
theorem exists_substituteAll : (terms : List Term) →
    (∀ term ∈ terms, ∀ target, term.Follows definitions target →
      definitions.chase chasing target ≠ .cyclic) →
      ∃ result, substituteAll (definitions.chase chasing) terms = some result ∧
        ∀ look : Text → Chase,
          (∀ term ∈ terms, ∀ target, term.Follows definitions target →
            look target = definitions.chase chasing target) →
          substituteAll look terms = some result
  | [], _ => ⟨[], rfl, fun _ _ => rfl⟩
  | term :: rest, succeeds => by
      obtain ⟨first, replaced, anyLook⟩ := term.exists_substitute
        (succeeds term List.mem_cons_self)
      obtain ⟨others, replacedRest, anyLookRest⟩ := exists_substituteAll rest
        fun other listed => succeeds other (List.mem_cons_of_mem _ listed)
      refine ⟨first ++ others, ?_, ?_⟩
      · simp only [substituteAll, replaced, replacedRest, Option.map_some]
      · intro look same
        simp only [substituteAll, anyLook look (same term List.mem_cons_self),
          anyLookRest look fun other listed => same other (List.mem_cons_of_mem _ listed),
          Option.map_some]

end

namespace Definitions

/-- Where no name leads back to itself no chase is blocked. Every name that is being chased leads
to the next one, so the next one cannot be among them. -/
theorem chase_ne_cyclic (never : definitions.NeverReturn) (chasing : List Text) (name : Text)
    (leads : definitions.LeadTo chasing name) : definitions.chase chasing name ≠ .cyclic := by
  induction chasing, name using chase.induct definitions with
  | case1 chasing name undefined =>
      rw [chase_of_undefined undefined]
      exact Chase.noConfusion
  | case2 chasing name d defined again =>
      exact absurd again (leads.not_mem never)
  | case3 chasing name d defined fresh failed inductionHypothesis =>
      obtain ⟨result, replaced, _⟩ := exists_substituteAll d.value.terms
        fun term listed target follows =>
          inductionHypothesis target (leads.cons ⟨d, defined, term, listed, follows⟩)
      rw [failed] at replaced
      cases replaced
  | case4 chasing name d defined fresh terms replaced inductionHypothesis =>
      rw [chase_of_replaced defined fresh replaced]
      exact Chase.noConfusion

/-- What a name is looked up to does not depend on the names on the way to it. -/
theorem chase_eq_of_leadTo (never : definitions.NeverReturn) (chasing others : List Text)
    (name : Text) (leads : definitions.LeadTo chasing name)
    (othersLead : definitions.LeadTo others name) :
    definitions.chase others name = definitions.chase chasing name := by
  induction chasing, name using chase.induct definitions generalizing others with
  | case1 chasing name undefined =>
      rw [chase_of_undefined undefined, chase_of_undefined undefined]
  | case2 chasing name d defined again =>
      exact absurd again (leads.not_mem never)
  | case3 chasing name d defined fresh failed inductionHypothesis =>
      exact absurd (chase_of_failed defined fresh failed)
        (chase_ne_cyclic never chasing name leads)
  | case4 chasing name d defined fresh terms replaced inductionHypothesis =>
      obtain ⟨result, replacedAgain, anyLook⟩ := exists_substituteAll d.value.terms
        fun term listed target follows =>
          chase_ne_cyclic never _ target (leads.cons ⟨d, defined, term, listed, follows⟩)
      have replacedThere := anyLook (definitions.chase (name :: others))
        fun term listed target follows =>
          inductionHypothesis target _ (leads.cons ⟨d, defined, term, listed, follows⟩)
            (othersLead.cons ⟨d, defined, term, listed, follows⟩)
      rw [chase_of_replaced defined (othersLead.not_mem never) replacedThere,
        chase_of_replaced defined fresh replacedAgain]

end Definitions

mutual

theorem Term.resolve_eq_of_substitute : (term : Term) → {result : List Term} →
    term.substitute (definitions.chase []) = some result → term.resolve definitions = result
  | .literal _ _, _, replaced => by
      cases replaced
      rfl
  | .url _ _, _, replaced => by
      cases replaced
      rfl
  | .operator _ _, _, replaced => by
      cases replaced
      rfl
  | .call name arguments argumentsSpan span, result, replaced => by
      rw [Term.substitute, Option.map_eq_some_iff] at replaced
      obtain ⟨results, replacedArguments, rfl⟩ := replaced
      rw [Term.resolve, resolveAll_eq_of_substituteAll arguments replacedArguments]
  | .usage name fallback span, result, replaced => by
      rw [Term.resolve_usage, replaced, Option.getD_some]

/-- Where nothing fails, resolving is substitution. -/
theorem resolveAll_eq_of_substituteAll : (terms : List Term) → {result : List Term} →
    substituteAll (definitions.chase []) terms = some result →
      resolveAll definitions terms = result
  | [], _, replaced => by
      cases replaced
      rfl
  | term :: rest, result, replaced => by
      obtain ⟨first, others, replacedTerm, replacedRest, rfl⟩ := substituteAll_cons replaced
      rw [resolveAll, term.resolve_eq_of_substitute replacedTerm,
        resolveAll_eq_of_substituteAll rest replacedRest]

end

theorem resolveAll_eq_flatMap (definitions : Definitions) (terms : List Term) :
    resolveAll definitions terms = terms.flatMap (Term.resolve definitions) := by
  induction terms with
  | nil => rfl
  | cons term rest inductionHypothesis =>
      rw [resolveAll, inductionHypothesis, List.flatMap_cons]

namespace Definitions

/-- A name is looked up to its expansion. -/
def LooksUp (definitions : Definitions) (look : Text → Chase) (expand : Term → List Term)
    (name : Text) : Prop :=
  match definitions.get? name with
  | none => look name = .undefined
  | some d => look name = .found (d.value.terms.flatMap expand)

/-- Where no name leads back to itself, a name is looked up to the resolved terms of its
definition. -/
theorem looksUp_resolve (never : definitions.NeverReturn) {chasing : List Text} {name : Text}
    (leads : definitions.LeadTo chasing name) :
    definitions.LooksUp (definitions.chase chasing) (Term.resolve definitions) name := by
  rw [LooksUp]
  cases defined : definitions.get? name with
  | none => exact chase_of_undefined defined
  | some d =>
      obtain ⟨result, replaced, anyLook⟩ := exists_substituteAll d.value.terms
        fun term listed target follows => chase_ne_cyclic never [] target (leadTo_nil target)
      have replacedInside := anyLook (definitions.chase [name]) fun term listed target follows =>
        chase_eq_of_leadTo never [] [name] target (leadTo_nil target)
          ((leadTo_nil name).cons ⟨d, defined, term, listed, follows⟩)
      show definitions.chase chasing name = _
      rw [← chase_eq_of_leadTo never chasing [] name leads (leadTo_nil name),
        chase_of_replaced defined List.not_mem_nil replacedInside,
        ← resolveAll_eq_flatMap, resolveAll_eq_of_substituteAll d.value.terms replaced]

end Definitions

end ComponentStyles
