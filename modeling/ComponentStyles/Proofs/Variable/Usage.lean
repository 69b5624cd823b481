import ComponentStyles.Variable.Substitution

/-!
Terms without usages.

`usedNamesOf` lists the names of all usages in terms, those in arguments and in fallbacks at any
depth included, so terms hold no usage exactly when the list is empty. What substitution gives
holds none, provided that what names are looked up to holds none.
-/

namespace ComponentStyles

mutual

/-- The names that are used in a term. -/
def Term.usedNames : Term → List Text
  | .usage name fallback _ =>
      name ::
        match fallback with
        | some fallback => fallback.usedNames
        | none => []
  | .call _ arguments _ _ => usedNamesOf arguments
  | _ => []

/-- The names that are used in terms. -/
def usedNamesOf : List Term → List Text
  | [] => []
  | term :: rest => term.usedNames ++ usedNamesOf rest

end

theorem Term.name_mem_usedNames (name : Text) (fallback : Option Term) (span : Span) :
    name ∈ (usage name fallback span).usedNames := by
  cases fallback <;> simp [usedNames]

@[simp] theorem usedNamesOf_append (first second : List Term) :
    usedNamesOf (first ++ second) = usedNamesOf first ++ usedNamesOf second := by
  induction first with
  | nil => rfl
  | cons term rest inductionHypothesis =>
      rw [List.cons_append, usedNamesOf, inductionHypothesis, usedNamesOf, List.append_assoc]

theorem usedNamesOf_singleton (term : Term) : usedNamesOf [term] = term.usedNames := by
  rw [usedNamesOf, usedNamesOf, List.append_nil]

/-- What names are looked up to holds no usage. -/
def GivesNoUsage (look : Text → Chase) : Prop :=
  ∀ name terms, look name = .found terms → usedNamesOf terms = []

mutual

theorem Term.usedNamesOf_substitute {look : Text → Chase} (clean : GivesNoUsage look) :
    (term : Term) → {result : List Term} → term.substitute look = some result →
      usedNamesOf result = []
  | .literal _ _, _, replaced => by
      cases replaced
      rfl
  | .url _ _, _, replaced => by
      cases replaced
      rfl
  | .operator _ _, _, replaced => by
      cases replaced
      rfl
  | .call name arguments argumentsSpan span, result, replaced => by
      rw [Term.substitute, Option.map_eq_some_iff] at replaced
      obtain ⟨replacedArguments, found, rfl⟩ := replaced
      rw [usedNamesOf_singleton, Term.usedNames]
      exact usedNamesOf_substituteAll clean arguments found
  | .usage name none span, result, replaced => by
      rcases Term.substitute_usage_cases replaced with looked | rfl
      · exact clean name _ looked
      · rfl
  | .usage name (some fallback) span, result, replaced => by
      rcases Term.substitute_usage_fallback_cases replaced with looked | instead
      · exact clean name _ looked
      · exact fallback.usedNamesOf_substitute clean instead

theorem usedNamesOf_substituteAll {look : Text → Chase} (clean : GivesNoUsage look) :
    (terms : List Term) → {result : List Term} → substituteAll look terms = some result →
      usedNamesOf result = []
  | [], _, replaced => by
      cases replaced
      rfl
  | term :: rest, result, replaced => by
      obtain ⟨first, others, replacedTerm, replacedRest, rfl⟩ := substituteAll_cons replaced
      rw [usedNamesOf_append, term.usedNamesOf_substitute clean replacedTerm,
        usedNamesOf_substituteAll clean rest replacedRest, List.append_nil]

end

namespace Definitions

/-- What names are looked up to has every property that replacing the usages in the terms of a
definition brings about, as long as what these are looked up to has it. -/
theorem forall_found_chase {definitions : Definitions} {P : List Term → Prop}
    (replacing : ∀ look, (∀ name terms, look name = .found terms → P terms) →
      ∀ d ∈ definitions.toList, ∀ terms, substituteAll look d.value.terms = some terms → P terms)
    (chasing : List Text) :
    ∀ name terms, definitions.chase chasing name = .found terms → P terms := by
  intro name
  induction chasing, name using chase.induct definitions with
  | case1 chasing name undefined =>
      rw [chase_of_undefined undefined]
      nofun
  | case2 chasing name d defined again =>
      rw [chase_of_again defined again]
      nofun
  | case3 chasing name d defined fresh failed inductionHypothesis =>
      rw [chase_of_failed defined fresh failed]
      nofun
  | case4 chasing name d defined fresh replaced substituted inductionHypothesis =>
      intro terms found
      rw [chase_of_replaced defined fresh substituted] at found
      cases found
      exact replacing _ inductionHypothesis d (mem_of_get? defined) replaced substituted

/-- A chase follows the definitions until nothing is left to replace. -/
theorem givesNoUsage_chase (definitions : Definitions) (chasing : List Text) :
    GivesNoUsage (definitions.chase chasing) :=
  forall_found_chase
    (fun _ clean d _ _ replaced => usedNamesOf_substituteAll clean d.value.terms replaced) chasing

end Definitions

mutual

theorem Term.usedNamesOf_resolve (definitions : Definitions) :
    (term : Term) → usedNamesOf (term.resolve definitions) = []
  | .literal _ _ => rfl
  | .url _ _ => rfl
  | .operator _ _ => rfl
  | .call name arguments argumentsSpan span => by
      rw [Term.resolve, usedNamesOf_singleton, Term.usedNames]
      exact usedNamesOf_resolveAll definitions arguments
  | .usage name fallback span => by
      rw [Term.resolve_usage]
      cases replaced : (Term.usage name fallback span).substitute (definitions.chase []) with
      | none => rfl
      | some terms =>
          exact Term.usedNamesOf_substitute (definitions.givesNoUsage_chase []) _ replaced

/-- Nothing is left to replace in the resolved terms of a declaration. -/
theorem usedNamesOf_resolveAll (definitions : Definitions) :
    (terms : List Term) → usedNamesOf (resolveAll definitions terms) = []
  | [] => rfl
  | term :: rest => by
      rw [resolveAll, usedNamesOf_append, term.usedNamesOf_resolve definitions,
        usedNamesOf_resolveAll definitions rest, List.append_nil]

end

end ComponentStyles
