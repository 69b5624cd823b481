import ComponentStyles.Proofs.Stylesheet.Alike
import ComponentStyles.Proofs.Variable.Following
import Mathlib.Logic.ExistsUnique

/-!
# Plain expansion of usages

Plain expansion puts the expanded terms of a definition in the place of each usage and keeps no
account of the names it is in. Where names depend on themselves no function need do that. Where
none does there is exactly one, and it is what resolving computes: the account that a chase keeps
never blocks a name, and what a name is looked up to does not depend on it.
-/

namespace ComponentStyles

namespace Definitions

/-- The equations of plain expansion. -/
structure IsExpansion (definitions : Definitions) (expand : Term → List Term) : Prop where
  literal : ∀ text span, expand (.literal text span) = [.literal text span]
  url : ∀ target span, expand (.url target span) = [.url target span]
  operator : ∀ op span, expand (.operator op span) = [.operator op span]
  call : ∀ name arguments argumentsSpan span,
    expand (.call name arguments argumentsSpan span) =
      [.call name (arguments.flatMap expand) argumentsSpan span]
  defined : ∀ {name d}, definitions.get? name = some d → ∀ fallback span,
    expand (.usage name fallback span) = d.value.terms.flatMap expand
  fallback : ∀ {name}, definitions.get? name = none → ∀ fallback span,
    expand (.usage name (some fallback) span) = expand fallback
  removed : ∀ {name}, definitions.get? name = none → ∀ span, expand (.usage name none span) = []

/-- A name depends on every name that is used in its definition, arguments and fallbacks
included. -/
def DependsOn (definitions : Definitions) (name other : Text) : Prop :=
  ∃ d, definitions.get? name = some d ∧ other ∈ usedNamesOf d.value.terms

/-- No defined name depends on itself, directly or through others. -/
def IsAcyclic (definitions : Definitions) : Prop :=
  ∀ name, definitions.contains name → ¬ Relation.TransGen definitions.DependsOn name name

theorem isAcyclic_of_rank {definitions : Definitions} (rank : Text → Nat)
    (falls : ∀ d ∈ definitions.toList, ∀ other ∈ usedNamesOf d.value.terms,
      rank other < rank d.name) : definitions.IsAcyclic := by
  have fallsAlong : ∀ {name other}, Relation.TransGen definitions.DependsOn name other →
      rank other < rank name := by
    intro name other way
    refine Relation.TransGen.trans_induction_on way ?_ ?_
    · rintro first second ⟨d, defined, used⟩
      rw [← name_of_get? defined]
      exact falls d (mem_of_get? defined) second used
    · intro first second third _ _ firstFalls secondFalls
      exact Nat.lt_trans secondFalls firstFalls
  intro name _ cycle
  exact Nat.lt_irrefl _ (fallsAlong cycle)

variable {definitions : Definitions}

/-- What a name leads to is used in its definition. -/
theorem IsAcyclic.neverReturn (acyclic : definitions.IsAcyclic) : definitions.NeverReturn := by
  intro name returns
  have dependsOn : Relation.TransGen definitions.DependsOn name name := by
    refine Relation.TransGen.mono ?_ _ _ returns
    rintro first second ⟨d, defined, term, listed, follows⟩
    exact ⟨d, defined, mem_usedNamesOf_of_mem listed follows.mem_usedNames⟩
  obtain ⟨_, ⟨d, defined, _⟩, _⟩ := Relation.TransGen.head'_iff.mp dependsOn
  exact acyclic name (contains_of_get? defined) dependsOn

/-- Resolving satisfies the equations of plain expansion. -/
theorem isExpansion_resolve (never : definitions.NeverReturn) :
    definitions.IsExpansion (Term.resolve definitions) where
  literal _ _ := rfl
  url _ _ := rfl
  operator _ _ := rfl
  call name arguments argumentsSpan span := by rw [Term.resolve, resolveAll_eq_flatMap]
  defined {name d} defined fallback span := by
    have looked := looksUp_resolve never (leadTo_nil name)
    rw [LooksUp, defined] at looked
    rw [Term.resolve_usage, Term.substitute_usage_found looked, Option.getD_some]
  fallback undefined fallback span := by
    obtain ⟨result, replaced, _⟩ := fallback.exists_substitute fun other _ =>
      chase_ne_cyclic never [] other (leadTo_nil other)
    rw [Term.resolve_usage,
      Term.substitute_usage_fallback (by simp [chase_of_undefined undefined]), replaced,
      Option.getD_some, fallback.resolve_eq_of_substitute replaced]
  removed undefined span := by
    rw [Term.resolve_usage, Term.substitute_usage_undefined (chase_of_undefined undefined),
      Option.getD_some]

end Definitions

variable {definitions : Definitions} {look : Text → Chase}

mutual

theorem Term.substitute_eq_expand {expand : Term → List Term}
    (isExpansion : definitions.IsExpansion expand) :
    (term : Term) →
      (∀ target, term.Follows definitions target → definitions.LooksUp look expand target) →
      term.substitute look = some (expand term)
  | .literal text span, _ => congrArg some (isExpansion.literal text span).symm
  | .url target span, _ => congrArg some (isExpansion.url target span).symm
  | .operator op span, _ => congrArg some (isExpansion.operator op span).symm
  | .call name arguments argumentsSpan span, lookups => by
      rw [isExpansion.call, Term.substitute, substituteAll_eq_expand isExpansion arguments
        fun term listed target follows => lookups target (.argument listed follows),
        Option.map_some]
  | .usage name fallback span, lookups => by
      have lookup := lookups name .name
      cases defined : definitions.get? name with
      | some d =>
          simp only [Definitions.LooksUp, defined] at lookup
          rw [Term.substitute_usage_found lookup, isExpansion.defined defined]
      | none =>
          simp only [Definitions.LooksUp, defined] at lookup
          cases fallback with
          | none => rw [Term.substitute_usage_undefined lookup, isExpansion.removed defined]
          | some fallback =>
              rw [Term.substitute_usage_fallback (by simp [lookup]), isExpansion.fallback defined]
              exact Term.substitute_eq_expand isExpansion fallback fun target follows =>
                lookups target (.fallback defined follows)

/-- Where names are looked up to their expansion, substitution is expansion. -/
theorem substituteAll_eq_expand {expand : Term → List Term}
    (isExpansion : definitions.IsExpansion expand) :
    (terms : List Term) →
      (∀ term ∈ terms, ∀ target, term.Follows definitions target →
        definitions.LooksUp look expand target) →
      substituteAll look terms = some (terms.flatMap expand)
  | [], _ => rfl
  | term :: rest, lookups => by
      simp only [substituteAll, List.flatMap_cons,
        Term.substitute_eq_expand isExpansion term (lookups term List.mem_cons_self),
        substituteAll_eq_expand isExpansion rest fun other listed =>
          lookups other (List.mem_cons_of_mem _ listed), Option.map_some]

end

namespace Definitions

theorem IsExpansion.looksUp_chase {expand : Term → List Term}
    (isExpansion : definitions.IsExpansion expand) (never : definitions.NeverReturn)
    (chasing : List Text) (name : Text) (leads : definitions.LeadTo chasing name) :
    definitions.LooksUp (definitions.chase chasing) expand name := by
  induction chasing, name using chase.induct definitions with
  | case1 chasing name undefined =>
      simp only [LooksUp, undefined, chase_of_undefined undefined]
  | case2 chasing name d defined again =>
      exact absurd again (leads.not_mem never)
  | case3 chasing name d defined fresh failed inductionHypothesis =>
      have replaced := substituteAll_eq_expand isExpansion d.value.terms
        fun term listed target follows =>
          inductionHypothesis target (leads.cons ⟨d, defined, term, listed, follows⟩)
      rw [failed] at replaced
      cases replaced
  | case4 chasing name d defined fresh terms _ inductionHypothesis =>
      have replaced := substituteAll_eq_expand isExpansion d.value.terms
        fun term listed target follows =>
          inductionHypothesis target (leads.cons ⟨d, defined, term, listed, follows⟩)
      simp only [LooksUp, defined]
      rw [chase_of_replaced defined fresh replaced]

/-- No other function satisfies the equations. -/
theorem IsExpansion.eq_resolve {expand : Term → List Term}
    (isExpansion : definitions.IsExpansion expand) (never : definitions.NeverReturn) :
    expand = Term.resolve definitions := by
  funext term
  have replaced := Term.substitute_eq_expand isExpansion term fun name _ =>
    isExpansion.looksUp_chase never [] name (leadTo_nil name)
  exact (term.resolve_eq_of_substitute replaced).symm

end Definitions

/-- Where no name depends on itself, plain expansion is well defined, and resolving leaves each
declaration with the expansion of its terms. -/
theorem resolve_expands_of_isAcyclic (definitions : Definitions)
    (acyclic : definitions.IsAcyclic) (sheet : Stylesheet) :
    (∃! expand, definitions.IsExpansion expand) ∧
      ∀ expand, definitions.IsExpansion expand →
        sheet.AlikeUpTo (fun before after => after = before.flatMap expand)
          (sheet.resolve definitions) := by
  constructor
  · refine ⟨Term.resolve definitions,
      Definitions.isExpansion_resolve acyclic.neverReturn, ?_⟩
    intro expand isExpansion
    exact isExpansion.eq_resolve acyclic.neverReturn
  · intro expand isExpansion
    rw [isExpansion.eq_resolve acyclic.neverReturn]
    apply sheet.alikeUpTo_mapTerms
    exact resolveAll_eq_flatMap definitions

/-- Two names on the way from one name to another. -/
def palette : Definitions where
  toList :=
    [("palette", [.usage "light".toList none .detached, .usage "dark".toList none .detached]),
      ("light", [.call "tint".toList [.usage "ink".toList none .detached] .detached .detached]),
      ("dark", [.usage "ink".toList (some (.literal "black".toList .detached)) .detached]),
      ("ink", [.literal "navy".toList .detached])].map fun (name, terms) =>
        ⟨name.toList, ⟨terms, .detached⟩, .directive, .detached⟩
  distinct := by decide +kernel

/-- `p { color: var(palette) var(gap, var(ink)); }` -/
def paletteSheet : Stylesheet where
  file := ⟨"palette.css".toList, ⟨[0], 48⟩⟩
  statements :=
    [.rule ⟨[.mk [.mk .same (.element "p".toList .detached)] .detached], .detached⟩
      ⟨[.declaration ⟨"color".toList,
        ⟨[.usage "palette".toList none .detached,
          .usage "gap".toList (some (.usage "ink".toList none .detached)) .detached], .detached⟩,
        false, .detached⟩], .detached⟩ .detached]
  span := .detached

theorem resolve_expands_of_isAcyclic_palette :
    palette.IsAcyclic ∧
      (∃! expand, palette.IsExpansion expand) ∧
        ∀ expand, palette.IsExpansion expand →
          paletteSheet.AlikeUpTo (fun before after => after = before.flatMap expand)
            (paletteSheet.resolve palette) := by
  -- Each name is longer than those that its definition uses.
  have acyclic : palette.IsAcyclic := Definitions.isAcyclic_of_rank List.length (by decide +kernel)
  exact ⟨acyclic, resolve_expands_of_isAcyclic palette acyclic paletteSheet⟩

end ComponentStyles
