import ComponentStyles.Proofs.Variable.Cycle
import ComponentStyles.Proofs.Variable.Following

/-!
# Warnings about cycles and chases that fail

The warnings go by what definitions refer to, the chases by what they follow. The two differ in one
place: a fallback of an undefined name is followed into the arguments of a call, but what it refers
to ends there. Where no definition hides a usage in that way, silence about cycles means that no
chase fails.
-/

namespace ComponentStyles

open Relation

mutual

/-- Whether a usage stands in the arguments of a call that is the fallback of an undefined name. -/
def Term.hides (definitions : Definitions) : Term → Bool
  | .usage name (some (.call _ arguments _ _)) _ =>
      !definitions.contains name && !(usedNamesOf arguments).isEmpty
  | .usage name (some fallback) _ => !definitions.contains name && fallback.hides definitions
  | .call _ arguments _ _ => anyHides definitions arguments
  | _ => false

def anyHides (definitions : Definitions) : List Term → Bool
  | [] => false
  | term :: rest => term.hides definitions || anyHides definitions rest

end

variable {definitions : Definitions}

theorem anyHides_eq_false_iff {terms : List Term} :
    anyHides definitions terms = false ↔ ∀ term ∈ terms, term.hides definitions = false := by
  induction terms with
  | nil => simp [anyHides]
  | cons term rest inductionHypothesis => simp [anyHides, inductionHypothesis]

/-- A term that hides nothing refers to all that it follows. -/
theorem Term.Follows.refersTo {term : Term} {target : Text}
    (follows : term.Follows definitions target) (shows : term.hides definitions = false) :
    term.RefersTo definitions target := by
  induction follows with
  | name => exact .name
  | @fallback name fallback span target undefined follows inductionHypothesis =>
      cases fallback with
      | usage other inner otherSpan =>
          refine .fallback undefined (inductionHypothesis ?_)
          simpa [Term.hides, Definitions.contains, undefined] using shows
      | call callee arguments argumentsSpan callSpan =>
          have nothingUsed : usedNamesOf arguments = [] := by
            simpa [Term.hides, Definitions.contains, undefined] using shows
          exact absurd nothingUsed (List.ne_nil_of_mem follows.mem_usedNames)
      | literal | url | operator => cases follows
  | argument listed _ inductionHypothesis =>
      rw [Term.hides, anyHides_eq_false_iff] at shows
      exact .argument listed (inductionHypothesis (shows _ listed))

namespace Definitions

/-- No definition hides a usage from the search for cycles. -/
def HideNothing (definitions : Definitions) : Prop :=
  ∀ d ∈ definitions.toList, anyHides definitions d.value.terms = false

theorem neverReturn_of_acyclic (shows : definitions.HideNothing)
    (acyclic : ∀ name, ¬ TransGen definitions.Refers name name) : definitions.NeverReturn := by
  intro name returns
  refine acyclic name (TransGen.mono ?_ _ _ returns)
  rintro first second ⟨d, defined, term, listed, follows⟩
  have termShows := anyHides_eq_false_iff.mp (shows d (mem_of_get? defined)) term listed
  exact ⟨d, defined, term, listed, follows.refersTo termShows⟩

end Definitions

/-- `Meets definitions chasing term others name`: replacing `term`, while the names in `chasing` are
being looked up, comes to a usage of `name` while those in `others` are. -/
inductive Meets (definitions : Definitions) : List Text → Term → List Text → Text → Prop where
  | here {chasing name fallback span} :
      Meets definitions chasing (.usage name fallback span) chasing name
  | inside {chasing name fallback span d term others target} :
      definitions.get? name = some d → name ∉ chasing → term ∈ d.value.terms →
      Meets definitions (name :: chasing) term others target →
      Meets definitions chasing (.usage name fallback span) others target
  | fallback {chasing name fallback span others target} :
      (∀ terms, definitions.chase chasing name ≠ .found terms) →
      Meets definitions chasing fallback others target →
      Meets definitions chasing (.usage name (some fallback) span) others target
  | argument {chasing name arguments argumentsSpan span term others target} :
      term ∈ arguments → Meets definitions chasing term others target →
      Meets definitions chasing (.call name arguments argumentsSpan span) others target

/-- The names on the way to a usage that is met lead to it. -/
theorem Meets.leadTo (never : definitions.NeverReturn) {chasing others : List Text} {term : Term}
    {target : Text} (meets : Meets definitions chasing term others target)
    (leads : ∀ name, term.Follows definitions name → definitions.LeadTo chasing name) :
    definitions.LeadTo others target := by
  induction meets with
  | here => exact leads _ .name
  | inside defined _ listed _ inductionHypothesis =>
      exact inductionHypothesis fun next follows =>
        (leads _ .name).cons ⟨_, defined, _, listed, follows⟩
  | @fallback chasing name fallback _ _ _ notFound _ inductionHypothesis =>
      have undefined : definitions.get? name = none := by
        rw [← Definitions.chase_eq_undefined_iff chasing]
        cases looked : definitions.chase chasing name with
        | undefined => rfl
        | found terms => exact absurd looked (notFound terms)
        | cyclic => exact absurd looked (Definitions.chase_ne_cyclic never _ _ (leads _ .name))
      exact inductionHypothesis fun next follows => leads next (.fallback undefined follows)
  | argument listed _ inductionHypothesis =>
      exact inductionHypothesis fun next follows => leads next (.argument listed follows)

theorem not_transGen_refers_of_no_varCycle {sheet : Stylesheet} {reportUnresolved : Bool}
    (quiet : ∀ message ∈ sheet.variableMessages definitions reportUnresolved,
      message.code ≠ .varCycle) (name : Text) : ¬ TransGen definitions.Refers name name := by
  intro cyclic
  obtain ⟨d, listed, rfl⟩ := List.mem_map.mp <| Definitions.mem_names_of_refers
    (TransGen.head'_iff.mp cyclic).choose_spec.1
  refine quiet _ (List.mem_append_left _ (List.mem_map.mpr ⟨d, ?_, rfl⟩)) rfl
  exact List.mem_filter.mpr ⟨listed, Definitions.isCyclic_iff.mpr cyclic⟩

/-- Without a warning about a cycle, and where no definition hides a usage, no chase fails that is
started in a declaration: each usage of a defined name that is met is replaced by the resolved terms
of its definition, and only usages of undefined names are left out or replaced by a fallback. -/
theorem looksUp_resolve_of_no_varCycle (sheet : Stylesheet) (reportUnresolved : Bool)
    (quiet : ∀ message ∈ sheet.variableMessages (.ofStylesheet sheet) reportUnresolved,
      message.code ≠ .varCycle)
    (shows : (Definitions.ofStylesheet sheet).HideNothing) :
    let definitions := Definitions.ofStylesheet sheet
    ∀ d ∈ sheet.declarations, ∀ term ∈ d.value.terms, ∀ chasing name,
      Meets definitions [] term chasing name →
        definitions.chase chasing name ≠ .cyclic ∧
          definitions.LooksUp (definitions.chase chasing) (Term.resolve definitions) name := by
  intro definitions d _ term _ chasing name meets
  have never : definitions.NeverReturn :=
    Definitions.neverReturn_of_acyclic shows (not_transGen_refers_of_no_varCycle quiet)
  have leads := meets.leadTo never fun next _ => Definitions.leadTo_nil next
  exact ⟨Definitions.chase_ne_cyclic never chasing name leads,
    Definitions.looksUp_resolve never leads⟩

/-- `@pair: var(dark) var(gap, var(dark, mix(var(pair)))); @dark: mix(var(ink)); @ink: navy;` and
`p { color: var(pair); }` -/
def swatches : Stylesheet where
  file := ⟨"swatches.css".toList, ⟨[0], 113⟩⟩
  statements :=
    [.definition ⟨"pair".toList, ⟨[.usage "dark".toList none .detached,
        .usage "gap".toList (some (.usage "dark".toList (some (.call "mix".toList
          [.usage "pair".toList none .detached] .detached .detached)) .detached)) .detached],
        .detached⟩, .directive, .detached⟩,
      .definition ⟨"dark".toList, ⟨[.call "mix".toList [.usage "ink".toList none .detached]
        .detached .detached], .detached⟩, .directive, .detached⟩,
      .definition ⟨"ink".toList, ⟨[.literal "navy".toList .detached], .detached⟩, .directive,
        .detached⟩,
      .rule ⟨[.mk [.mk .same (.element "p".toList .detached)] .detached], .detached⟩
        ⟨[.declaration ⟨"color".toList, ⟨[.usage "pair".toList none .detached], .detached⟩, false,
          .detached⟩], .detached⟩ .detached]
  span := .detached

theorem looksUp_resolve_of_no_varCycle_swatches :
    ((∀ message ∈ swatches.variableMessages (.ofStylesheet swatches) false,
        message.code ≠ .varCycle) ∧
      (Definitions.ofStylesheet swatches).HideNothing) ∧
    (let definitions := Definitions.ofStylesheet swatches
    ∀ d ∈ swatches.declarations, ∀ term ∈ d.value.terms, ∀ chasing name,
      Meets definitions [] term chasing name →
        definitions.chase chasing name ≠ .cyclic ∧
          definitions.LooksUp (definitions.chase chasing) (Term.resolve definitions) name) := by
  have quiet : ∀ message ∈ swatches.variableMessages (.ofStylesheet swatches) false,
      message.code ≠ .varCycle := by
    have silent : swatches.variableMessages (.ofStylesheet swatches) false = [] := by cbv
    simp [silent]
  have shows : (Definitions.ofStylesheet swatches).HideNothing := by
    rw [Definitions.HideNothing]
    decide +kernel
  exact ⟨⟨quiet, shows⟩, looksUp_resolve_of_no_varCycle swatches false quiet shows⟩

/-- `@a: var(missing, calc(var(a))); p { color: var(a, blue); }` -/
def hiddenCycle : Stylesheet where
  file := ⟨"hidden.css".toList, ⟨[0], 60⟩⟩
  statements :=
    [.definition ⟨"a".toList, ⟨[.usage "missing".toList (some (.call "calc".toList
        [.usage "a".toList none .detached] .detached .detached)) .detached], .detached⟩,
        .directive, .detached⟩,
      .rule ⟨[.mk [.mk .same (.element "p".toList .detached)] .detached], .detached⟩
        ⟨[.declaration ⟨"color".toList, ⟨[.usage "a".toList
          (some (.literal "blue".toList .detached)) .detached], .detached⟩, false, .detached⟩],
          .detached⟩ .detached]
  span := .detached

/-- No warning is raised, and yet the chase of the only usage fails and leaves the usage with its
fallback. -/
theorem cyclic_lookup_without_varCycle :
    let definitions := Definitions.ofStylesheet hiddenCycle
    hiddenCycle.variableMessages definitions true = [] ∧
      definitions.lookup "a".toList = .cyclic ∧
      hiddenCycle.declarations.map (fun d => resolveAll definitions d.value.terms) =
        [[.literal "blue".toList .detached]] := by
  refine ⟨?_, ?_, ?_⟩ <;> cbv

end ComponentStyles
