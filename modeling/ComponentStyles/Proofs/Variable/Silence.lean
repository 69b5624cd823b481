import ComponentStyles.Proofs.Variable.Agreement
import ComponentStyles.Proofs.Variable.Expansion
import ComponentStyles.Proofs.Variable.Report

/-!
# What a silent run leaves out

A usage of nothing is warned about where it stands in a declaration. Met while another usage is
being looked up it is left out without a word, so a stylesheet that raises no warning may still lose
a part of a value. Where no definition hides a usage from the search for cycles, it loses nothing
else.
-/

namespace ComponentStyles

/-- `ComesTo definitions chasing inChase term met usage`: replacing `term`, while the names in
`chasing` are being looked up, comes to `usage`. `inChase` and `met` tell whether the term and the
usage are replaced for another usage. -/
inductive ComesTo (definitions : Definitions) : List Text → Bool → Term → Bool → Term → Prop where
  | here {chasing inChase name fallback span} :
      ComesTo definitions chasing inChase (.usage name fallback span) inChase
        (.usage name fallback span)
  | inside {chasing inChase name fallback span d term met usage} :
      definitions.get? name = some d → name ∉ chasing → term ∈ d.value.terms →
      ComesTo definitions (name :: chasing) true term met usage →
      ComesTo definitions chasing inChase (.usage name fallback span) met usage
  | fallback {chasing inChase name fallback span met usage} :
      (∀ terms, definitions.chase chasing name ≠ .found terms) →
      ComesTo definitions chasing true fallback met usage →
      ComesTo definitions chasing inChase (.usage name (some fallback) span) met usage
  | argument {chasing inChase name arguments argumentsSpan span term met usage} :
      term ∈ arguments → ComesTo definitions chasing inChase term met usage →
      ComesTo definitions chasing inChase (.call name arguments argumentsSpan span) met usage

variable {definitions : Definitions} {chasing : List Text} {inChase met : Bool} {term usage : Term}

/-- What is met for a term that is replaced for a usage, is replaced for a usage too. -/
theorem ComesTo.inChase_of_inChase
    (comes : ComesTo definitions chasing inChase term met usage) (isIn : inChase = true) :
    met = true := by
  induction comes with
  | here => exact isIn
  | inside _ _ _ _ inductionHypothesis => exact inductionHypothesis rfl
  | fallback _ _ inductionHypothesis => exact inductionHypothesis rfl
  | argument _ _ inductionHypothesis => exact inductionHypothesis isIn

/-- Outside of lookups a usage of nothing is reported. -/
theorem ComesTo.mem_unresolved {name : Text} {span : Span}
    (comes : ComesTo definitions chasing inChase term met usage) (outside : met = false)
    (ofNothing : usage = .usage name none span) (undefined : definitions.get? name = none) :
    (name, span) ∈ term.unresolved definitions := by
  induction comes with
  | here =>
      cases ofNothing
      simp [Term.unresolved, Definitions.contains, undefined]
  | inside _ _ _ comes _ =>
      rw [comes.inChase_of_inChase rfl] at outside
      cases outside
  | fallback _ comes _ =>
      rw [comes.inChase_of_inChase rfl] at outside
      cases outside
  | argument listed _ inductionHypothesis =>
      rw [Term.unresolved, unresolvedOf_eq_flatMap]
      exact List.mem_flatMap.mpr ⟨_, listed, inductionHypothesis outside ofNothing⟩

/-- Without any warning, though usages of nothing are to be reported: every usage that is met has a
definition or a fallback, unless it is met while another usage is looked up, in a definition that
leads to it or in a fallback that is used. And where no definition hides a usage from the search for
cycles, only usages of nothing are left out: every declaration becomes the plain expansion of its
terms. -/
theorem silent_run_leaves_out_only_usages_in_chases (sheet : Stylesheet)
    (quiet : sheet.variableMessages (.ofStylesheet sheet) true = []) :
    let definitions := Definitions.ofStylesheet sheet
    (∀ d ∈ sheet.declarations, ∀ term ∈ d.value.terms, ∀ inChase name fallback span,
      ComesTo definitions [] false term inChase (.usage name fallback span) →
        definitions.contains name = true ∨ fallback.isSome = true ∨ inChase = true) ∧
      (definitions.HideNothing →
        definitions.IsExpansion (Term.resolve definitions) ∧
          sheet.AlikeUpTo (fun before after => after = before.flatMap (Term.resolve definitions))
            (sheet.resolve definitions)) := by
  intro definitions
  constructor
  · intro d declared term listed inChase name fallback span comes
    cases defined : definitions.get? name with
    | some d => exact .inl (Definitions.contains_of_get? defined)
    | none =>
        cases fallback with
        | some fallback => exact .inr (.inl rfl)
        | none =>
            refine .inr (.inr (Bool.not_eq_false _ |>.mp fun outside => ?_))
            have reported := comes.mem_unresolved outside rfl defined
            have warned : sheet.unresolvedMessages definitions = [] :=
              (List.append_eq_nil_iff.mp quiet).2
            rw [Stylesheet.unresolvedMessages, List.map_eq_nil_iff, List.flatMap_eq_nil_iff]
              at warned
            have noneRaised := warned d declared
            rw [unresolvedOf_eq_flatMap, List.flatMap_eq_nil_iff] at noneRaised
            rw [noneRaised term listed] at reported
            cases reported
  · intro shows
    have noCycleWarning : ∀ message ∈ sheet.variableMessages definitions true,
        message.code ≠ .varCycle := by
      rw [quiet]
      exact List.forall_mem_nil _
    have never : definitions.NeverReturn :=
      Definitions.neverReturn_of_acyclic shows (not_transGen_refers_of_no_varCycle noCycleWarning)
    refine ⟨Definitions.isExpansion_resolve never, ?_⟩
    apply sheet.alikeUpTo_mapTerms
    exact resolveAll_eq_flatMap definitions

/-- `@a: var(nope) 1px; p { color: var(a) var(missing, var(nope)); }` -/
def swallowed : Stylesheet where
  file := ⟨"swallowed.css".toList, ⟨[0], 64⟩⟩
  statements :=
    [.definition ⟨"a".toList, ⟨[.usage "nope".toList none .detached,
        .literal "1px".toList .detached], .detached⟩, .directive, .detached⟩,
      .rule ⟨[.mk [.mk .same (.element "p".toList .detached)] .detached], .detached⟩
        ⟨[.declaration ⟨"color".toList, ⟨[.usage "a".toList none .detached,
          .usage "missing".toList (some (.usage "nope".toList none .detached)) .detached],
          .detached⟩, false, .detached⟩], .detached⟩ .detached]
  span := .detached

theorem swallowed_silent : swallowed.variableMessages (.ofStylesheet swallowed) true = [] := by cbv

theorem silent_run_leaves_out_only_usages_in_chases_swallowed :
    (swallowed.variableMessages (.ofStylesheet swallowed) true = [] ∧
      (Definitions.ofStylesheet swallowed).HideNothing) ∧
    (let definitions := Definitions.ofStylesheet swallowed
    (∀ d ∈ swallowed.declarations, ∀ term ∈ d.value.terms, ∀ inChase name fallback span,
      ComesTo definitions [] false term inChase (.usage name fallback span) →
        definitions.contains name = true ∨ fallback.isSome = true ∨ inChase = true) ∧
      definitions.IsExpansion (Term.resolve definitions) ∧
        swallowed.AlikeUpTo (fun before after => after = before.flatMap (Term.resolve definitions))
          (swallowed.resolve definitions)) := by
  have shows : (Definitions.ofStylesheet swallowed).HideNothing := by
    rw [Definitions.HideNothing]
    decide +kernel
  obtain ⟨outside, expands⟩ :=
    silent_run_leaves_out_only_usages_in_chases swallowed swallowed_silent
  exact ⟨⟨swallowed_silent, shows⟩, outside, expands shows⟩

/-- No warning is raised, and yet a usage of nothing is met in a definition and one in a fallback,
and both are left out. -/
theorem usages_of_nothing_in_chases_are_silent :
    let definitions := Definitions.ofStylesheet swallowed
    swallowed.variableMessages definitions true = [] ∧
      definitions.contains "nope".toList = false ∧
      (∀ d ∈ swallowed.declarations, ∀ term ∈ d.value.terms,
        ComesTo definitions [] false term true (.usage "nope".toList none .detached)) ∧
      swallowed.declarations.map (fun d => resolveAll definitions d.value.terms) =
        [[.literal "1px".toList .detached]] := by
  intro definitions
  have defined : definitions.get? "a".toList =
      some ⟨"a".toList, ⟨[.usage "nope".toList none .detached, .literal "1px".toList .detached],
        .detached⟩, .directive, .detached⟩ := by cbv
  have undefined : definitions.get? "missing".toList = none := by cbv
  refine ⟨swallowed_silent, by cbv, ?_, by cbv⟩
  intro d declared term listed
  obtain rfl := List.mem_singleton.mp declared
  rcases List.mem_pair.mp listed with rfl | rfl
  · exact .inside defined List.not_mem_nil List.mem_cons_self .here
  · refine .fallback ?_ .here
    rw [Definitions.chase_of_undefined undefined]
    intro terms found
    cases found

end ComponentStyles
