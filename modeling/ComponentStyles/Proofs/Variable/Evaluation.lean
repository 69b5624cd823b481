import ComponentStyles.Proofs.Stylesheet.Alike
import ComponentStyles.Proofs.Variable.Usage

/-!
# Evaluation of usages

The rules by which usages are replaced, as relations. They bound nothing: a derivation is a finite
run, and a definition that is followed for ever would have none. Every run ends, with the result
that the functions compute, whatever refers to what.
-/

namespace ComponentStyles

variable {definitions : Definitions}

mutual

/-- `Chases definitions chasing name outcome`: looking `name` up, while the names in `chasing` are
being looked up, comes to `outcome`. -/
inductive Chases (definitions : Definitions) : List Text → Text → Chase → Prop where
  | undefined {chasing name} :
      definitions.get? name = none → Chases definitions chasing name .undefined
  | again {chasing name d} :
      definitions.get? name = some d → name ∈ chasing → Chases definitions chasing name .cyclic
  | failed {chasing name d} :
      definitions.get? name = some d → name ∉ chasing →
      ReplacesAll definitions (name :: chasing) d.value.terms none →
      Chases definitions chasing name .cyclic
  | found {chasing name d terms} :
      definitions.get? name = some d → name ∉ chasing →
      ReplacesAll definitions (name :: chasing) d.value.terms (some terms) →
      Chases definitions chasing name (.found terms)

/-- Replacing the usages in a term, on the way of a chase, comes to terms or fails. -/
inductive Replaces (definitions : Definitions) : List Text → Term → Option (List Term) → Prop where
  | literal {chasing text span} :
      Replaces definitions chasing (.literal text span) (some [.literal text span])
  | url {chasing target span} :
      Replaces definitions chasing (.url target span) (some [.url target span])
  | operator {chasing op span} :
      Replaces definitions chasing (.operator op span) (some [.operator op span])
  | call {chasing name arguments results argumentsSpan span} :
      ReplacesAll definitions chasing arguments (some results) →
      Replaces definitions chasing (.call name arguments argumentsSpan span)
        (some [.call name results argumentsSpan span])
  | callFails {chasing name arguments argumentsSpan span} :
      ReplacesAll definitions chasing arguments none →
      Replaces definitions chasing (.call name arguments argumentsSpan span) none
  | found {chasing name fallback span terms} :
      Chases definitions chasing name (.found terms) →
      Replaces definitions chasing (.usage name fallback span) (some terms)
  | removed {chasing name span} :
      Chases definitions chasing name .undefined →
      Replaces definitions chasing (.usage name none span) (some [])
  | fails {chasing name span} :
      Chases definitions chasing name .cyclic →
      Replaces definitions chasing (.usage name none span) none
  | undefinedFallback {chasing name fallback span result} :
      Chases definitions chasing name .undefined →
      Replaces definitions chasing fallback result →
      Replaces definitions chasing (.usage name (some fallback) span) result
  | cyclicFallback {chasing name fallback span result} :
      Chases definitions chasing name .cyclic →
      Replaces definitions chasing fallback result →
      Replaces definitions chasing (.usage name (some fallback) span) result

/-- Replacing the usages in terms one after the other, up to the first that fails. -/
inductive ReplacesAll (definitions : Definitions) :
    List Text → List Term → Option (List Term) → Prop where
  | nil {chasing} : ReplacesAll definitions chasing [] (some [])
  | cons {chasing term rest first others} :
      Replaces definitions chasing term (some first) →
      ReplacesAll definitions chasing rest (some others) →
      ReplacesAll definitions chasing (term :: rest) (some (first ++ others))
  | headFails {chasing term rest} :
      Replaces definitions chasing term none →
      ReplacesAll definitions chasing (term :: rest) none
  | tailFails {chasing term rest first} :
      Replaces definitions chasing term (some first) →
      ReplacesAll definitions chasing rest none →
      ReplacesAll definitions chasing (term :: rest) none

end

mutual

/-- Resolving a term of a declaration. A usage that fails is left out. -/
inductive Resolves (definitions : Definitions) : Term → List Term → Prop where
  | literal {text span} : Resolves definitions (.literal text span) [.literal text span]
  | url {target span} : Resolves definitions (.url target span) [.url target span]
  | operator {op span} : Resolves definitions (.operator op span) [.operator op span]
  | call {name arguments results argumentsSpan span} :
      ResolvesAll definitions arguments results →
      Resolves definitions (.call name arguments argumentsSpan span)
        [.call name results argumentsSpan span]
  | usage {name fallback span terms} :
      Replaces definitions [] (.usage name fallback span) (some terms) →
      Resolves definitions (.usage name fallback span) terms
  | leftOut {name fallback span} :
      Replaces definitions [] (.usage name fallback span) none →
      Resolves definitions (.usage name fallback span) []

/-- Resolving the terms of a declaration. -/
inductive ResolvesAll (definitions : Definitions) : List Term → List Term → Prop where
  | nil : ResolvesAll definitions [] []
  | cons {term rest terms others} :
      Resolves definitions term terms →
      ResolvesAll definitions rest others →
      ResolvesAll definitions (term :: rest) (terms ++ others)

end

/-! Every run ends: the induction on terms, given that the chases they start end, and the
induction along the chases. -/

mutual

theorem replaces_substitute {chasing : List Text}
    (ends : ∀ name, Chases definitions chasing name (definitions.chase chasing name)) :
    (term : Term) → Replaces definitions chasing term (term.substitute (definitions.chase chasing))
  | .literal _ _ => .literal
  | .url _ _ => .url
  | .operator _ _ => .operator
  | .call name arguments argumentsSpan span => by
      have argumentsEnd := replacesAll_substituteAll ends arguments
      rw [Term.substitute]
      cases replaced : substituteAll (definitions.chase chasing) arguments with
      | none => exact .callFails (replaced ▸ argumentsEnd)
      | some results => exact .call (replaced ▸ argumentsEnd)
  | .usage name none span => by
      have chaseEnds := ends name
      cases looked : definitions.chase chasing name with
      | undefined =>
          rw [Term.substitute_usage_undefined looked]
          exact .removed (looked ▸ chaseEnds)
      | cyclic =>
          rw [Term.substitute_usage_cyclic looked]
          exact .fails (looked ▸ chaseEnds)
      | found terms =>
          rw [Term.substitute_usage_found looked]
          exact .found (looked ▸ chaseEnds)
  | .usage name (some fallback) span => by
      have chaseEnds := ends name
      have fallbackEnds := replaces_substitute ends fallback
      cases looked : definitions.chase chasing name with
      | undefined =>
          rw [Term.substitute_usage_fallback (by simp [looked])]
          exact .undefinedFallback (looked ▸ chaseEnds) fallbackEnds
      | cyclic =>
          rw [Term.substitute_usage_fallback (by simp [looked])]
          exact .cyclicFallback (looked ▸ chaseEnds) fallbackEnds
      | found terms =>
          rw [Term.substitute_usage_found looked]
          exact .found (looked ▸ chaseEnds)

theorem replacesAll_substituteAll {chasing : List Text}
    (ends : ∀ name, Chases definitions chasing name (definitions.chase chasing name)) :
    (terms : List Term) →
      ReplacesAll definitions chasing terms (substituteAll (definitions.chase chasing) terms)
  | [] => .nil
  | term :: rest => by
      have termEnds := replaces_substitute ends term
      have restEnds := replacesAll_substituteAll ends rest
      rw [substituteAll]
      cases first : term.substitute (definitions.chase chasing) with
      | none => exact .headFails (first ▸ termEnds)
      | some terms =>
          cases others : substituteAll (definitions.chase chasing) rest with
          | none => exact .tailFails (first ▸ termEnds) (others ▸ restEnds)
          | some results => exact .cons (first ▸ termEnds) (others ▸ restEnds)

end

theorem Definitions.chases_chase (definitions : Definitions) (chasing : List Text) (name : Text) :
    Chases definitions chasing name (definitions.chase chasing name) := by
  induction chasing, name using Definitions.chase.induct definitions with
  | case1 chasing name undefined =>
      rw [Definitions.chase_of_undefined undefined]
      exact .undefined undefined
  | case2 chasing name d defined again =>
      rw [Definitions.chase_of_again defined again]
      exact .again defined again
  | case3 chasing name d defined fresh failed inductionHypothesis =>
      have run := replacesAll_substituteAll inductionHypothesis d.value.terms
      rw [Definitions.chase_of_failed defined fresh failed]
      exact .failed defined fresh (failed ▸ run)
  | case4 chasing name d defined fresh terms replaced inductionHypothesis =>
      have run := replacesAll_substituteAll inductionHypothesis d.value.terms
      rw [Definitions.chase_of_replaced defined fresh replaced]
      exact .found defined fresh (replaced ▸ run)

/-! A run comes to nothing but what is computed. -/

mutual

theorem chase_eq_of_chases {chasing : List Text} {name : Text} {outcome : Chase} :
    Chases definitions chasing name outcome → definitions.chase chasing name = outcome
  | .undefined undefined => Definitions.chase_of_undefined undefined
  | .again defined again => Definitions.chase_of_again defined again
  | .failed defined fresh run =>
      Definitions.chase_of_failed defined fresh (substituteAll_eq_of_replacesAll run)
  | .found defined fresh run =>
      Definitions.chase_of_replaced defined fresh (substituteAll_eq_of_replacesAll run)

theorem substitute_eq_of_replaces {chasing : List Text} {term : Term}
    {result : Option (List Term)} :
    Replaces definitions chasing term result →
      term.substitute (definitions.chase chasing) = result
  | .literal => rfl
  | .url => rfl
  | .operator => rfl
  | .call run => by
      rw [Term.substitute, substituteAll_eq_of_replacesAll run, Option.map_some]
  | .callFails run => by
      rw [Term.substitute, substituteAll_eq_of_replacesAll run, Option.map_none]
  | .found run => Term.substitute_usage_found (chase_eq_of_chases run)
  | .removed run => Term.substitute_usage_undefined (chase_eq_of_chases run)
  | .fails run => Term.substitute_usage_cyclic (chase_eq_of_chases run)
  | .undefinedFallback run fallbackRun => by
      rw [Term.substitute_usage_fallback (by simp [chase_eq_of_chases run])]
      exact substitute_eq_of_replaces fallbackRun
  | .cyclicFallback run fallbackRun => by
      rw [Term.substitute_usage_fallback (by simp [chase_eq_of_chases run])]
      exact substitute_eq_of_replaces fallbackRun

theorem substituteAll_eq_of_replacesAll {chasing : List Text} {terms : List Term}
    {result : Option (List Term)} :
    ReplacesAll definitions chasing terms result →
      substituteAll (definitions.chase chasing) terms = result
  | .nil => rfl
  | .cons head tail => by
      rw [substituteAll, substitute_eq_of_replaces head, substituteAll_eq_of_replacesAll tail]
      rfl
  | .headFails head => by rw [substituteAll, substitute_eq_of_replaces head]
  | .tailFails head tail => by
      rw [substituteAll, substitute_eq_of_replaces head, substituteAll_eq_of_replacesAll tail]
      rfl

end

mutual

theorem resolves_resolve :
    (term : Term) → Resolves definitions term (term.resolve definitions)
  | .literal _ _ => .literal
  | .url _ _ => .url
  | .operator _ _ => .operator
  | .call _ arguments _ _ => .call (resolvesAll_resolveAll arguments)
  | .usage name fallback span => by
      have run := replaces_substitute (definitions.chases_chase []) (.usage name fallback span)
      rw [Term.resolve_usage]
      cases replaced : (Term.usage name fallback span).substitute (definitions.chase []) with
      | none => exact .leftOut (replaced ▸ run)
      | some terms => exact .usage (replaced ▸ run)

theorem resolvesAll_resolveAll :
    (terms : List Term) → ResolvesAll definitions terms (resolveAll definitions terms)
  | [] => .nil
  | term :: rest => .cons (resolves_resolve term) (resolvesAll_resolveAll rest)

end

mutual

theorem resolve_eq_of_resolves {term : Term} {result : List Term} :
    Resolves definitions term result → term.resolve definitions = result
  | .literal => rfl
  | .url => rfl
  | .operator => rfl
  | .call run => by rw [Term.resolve, resolveAll_eq_of_resolvesAll run]
  | .usage run => by
      rw [Term.resolve_usage, substitute_eq_of_replaces run, Option.getD_some]
  | .leftOut run => by
      rw [Term.resolve_usage, substitute_eq_of_replaces run, Option.getD_none]

theorem resolveAll_eq_of_resolvesAll {terms result : List Term} :
    ResolvesAll definitions terms result → resolveAll definitions terms = result
  | .nil => rfl
  | .cons head tail => by
      rw [resolveAll, resolve_eq_of_resolves head, resolveAll_eq_of_resolvesAll tail]

end

/-- The rules and the function agree. -/
theorem resolvesAll_iff {terms result : List Term} :
    ResolvesAll definitions terms result ↔ resolveAll definitions terms = result := by
  constructor
  · exact resolveAll_eq_of_resolvesAll
  · rintro rfl
    exact resolvesAll_resolveAll terms

/-- Whatever the definitions refer to, the run for any terms ends, and with one result only.
Resolving a stylesheet puts that result, which holds no usage, into each declaration and leaves
everything else as it is. -/
theorem resolve_ends_without_usages (definitions : Definitions) (sheet : Stylesheet) :
    (∀ terms, ∃! result, ResolvesAll definitions terms result) ∧
      sheet.AlikeUpTo
        (fun before after => ResolvesAll definitions before after ∧ usedNamesOf after = [])
        (sheet.resolve definitions) := by
  constructor
  · intro terms
    refine ⟨resolveAll definitions terms, resolvesAll_iff.mpr rfl, ?_⟩
    intro other run
    exact (resolvesAll_iff.mp run).symm
  · apply sheet.alikeUpTo_mapTerms
    intro terms
    exact ⟨resolvesAll_iff.mpr rfl, usedNamesOf_resolveAll definitions terms⟩

end ComponentStyles
