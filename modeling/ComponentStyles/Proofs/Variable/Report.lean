import ComponentStyles.Proofs.Stylesheet.Order
import ComponentStyles.Proofs.Variable.Pass

/-!
# The warnings of a run

Behind the warnings about cycles a run raises one warning for each usage that stands for nothing, in
document order. Which usages these are is read off the stylesheet as it was: a usage counts where it
stands in a declaration, as a term of the value or of arguments in it. The terms that a run puts in
place of usages, fallbacks and definitions have no part in it.
-/

namespace ComponentStyles

variable {definitions : Definitions}

/-- A usage of `name`, without a fallback, that stands for nothing. -/
def Unresolved (definitions : Definitions) (stands : List Nat → Term → Prop) (place : List Nat)
    (usage : Text × Span) : Prop :=
  definitions.get? usage.1 = none ∧ stands place (.usage usage.1 none usage.2)

theorem usageAt_iff {terms : List Term} {place : List Nat} {usage : Term} :
    UsageAt terms place usage ↔
      ∃ number rest term, place = number :: rest ∧ terms[number]? = some term ∧
        term.UsageAt rest usage := by
  constructor
  · rintro ⟨found, inside⟩
    exact ⟨_, _, _, rfl, found, inside⟩
  · rintro ⟨number, rest, term, rfl, found, inside⟩
    exact .within found inside

theorem unresolvedOf_eq_flatMap (terms : List Term) :
    unresolvedOf definitions terms = terms.flatMap (Term.unresolved definitions) := by
  induction terms with
  | nil => rfl
  | cons term rest inductionHypothesis =>
      rw [unresolvedOf, inductionHypothesis, List.flatMap_cons]

theorem lists_unresolvedOf_of_row {terms : List Term}
    (each : ∀ term ∈ terms, Lists (· < ·) (Unresolved definitions term.UsageAt)
      (term.unresolved definitions)) :
    Lists (· < ·) (Unresolved definitions (UsageAt terms)) (unresolvedOf definitions terms) := by
  rw [unresolvedOf_eq_flatMap]
  refine (lists_row each).congr fun place usage => ?_
  rw [Unresolved, usageAt_iff]
  constructor
  · rintro ⟨number, rest, term, rfl, found, undefined, inside⟩
    exact ⟨undefined, number, rest, term, rfl, found, inside⟩
  · rintro ⟨undefined, number, rest, term, rfl, found, inside⟩
    exact ⟨number, rest, term, rfl, found, undefined, inside⟩

theorem Term.lists_unresolved (term : Term) :
    Lists (· < ·) (Unresolved definitions term.UsageAt) (term.unresolved definitions) := by
  have nothing (other : Term)
      (holdsNone : ∀ place usage, ¬ Unresolved definitions other.UsageAt place usage) :
      Lists (· < ·) (Unresolved definitions other.UsageAt) [] :=
    lists_nil.congr fun place usage => (iff_false_intro (holdsNone place usage)).symm
  match term with
  | .usage name none span =>
      rw [unresolved, Definitions.contains]
      cases defined : definitions.get? name with
      | some d =>
          refine nothing _ ?_
          rintro place usage ⟨undefined, stands⟩
          cases stands
          rw [defined] at undefined
          cases undefined
      | none =>
          refine (lists_single _).congr fun place usage => ⟨?_, ?_⟩
          · rintro ⟨rfl, rfl⟩
            exact ⟨defined, .usage⟩
          · rintro ⟨_, stands⟩
            cases stands
            exact ⟨rfl, rfl⟩
  | .usage _ (some _) _ =>
      refine nothing _ ?_
      rintro place usage ⟨_, stands⟩
      cases stands
  | .call name arguments argumentsSpan span =>
      have inside := lists_unresolvedOf_of_row fun argument (_ : argument ∈ arguments) =>
        argument.lists_unresolved
      refine inside.congr fun place usage => and_congr_right fun _ => ⟨.argument, ?_⟩
      intro stands
      cases stands with
      | argument insideStands => exact insideStands
  | .literal _ _ | .url _ _ | .operator _ _ =>
      refine nothing _ ?_
      rintro place usage ⟨_, stands⟩
      cases stands
termination_by sizeOf term
decreasing_by
  have smaller := List.sizeOf_lt_of_mem ‹argument ∈ arguments›
  simp only [Term.call.sizeOf_spec]
  omega

/-- The first place leads to a declaration, the second to a usage in its value. -/
def Stylesheet.UsageAt (sheet : Stylesheet) (place : List Nat × List Nat) (usage : Term) : Prop :=
  ∃ d, EntryAt sheet.statements place.1 (.declaration d) ∧
    ComponentStyles.UsageAt d.value.terms place.2 usage

theorem Stylesheet.lists_declarations (sheet : Stylesheet) :
    Lists (· < ·) (fun place d => EntryAt sheet.statements place (.declaration d))
      sheet.declarations := by
  refine ((lists_entries sheet.statements).filterMap Item.declaration?).congr fun place d => ?_
  constructor
  · rintro ⟨item, held, selected⟩
    cases item <;> cases selected
    exact held
  · intro held
    exact ⟨_, held, rfl⟩

/-- What a stylesheet raises are the warnings about cycles and then, if they are asked for, those
about usages of nothing: one for each usage that stands in a declaration and has neither a
definition nor a fallback, at that usage and in document order. A run that replaces usages where they
stand puts just these behind the messages it is given, which stay as they are; it cannot end
otherwise. -/
theorem runs_append_warnings_in_document_order (definitions : Definitions) (reportUnresolved : Bool)
    (sheet : Stylesheet) :
    ∃ unresolved : List (Text × Span),
      Lists (Prod.Lex (· < ·) (· < ·))
          (fun place usage => definitions.get? usage.1 = none ∧
            sheet.UsageAt place (.usage usage.1 none usage.2)) unresolved ∧
        sheet.variableMessages definitions reportUnresolved =
          (definitions.toList.filter fun d =>
              Relation.TransGen definitions.Refers d.name d.name).map (fun d =>
            ⟨.varCycle, .warning, "var cycle detected var-".toList ++ d.name,
              sheet.file.locate d.span⟩) ++
          (if reportUnresolved then
            unresolved.map fun usage =>
              ⟨.unresolvedVar, .warning, "unresolved variable var-".toList ++ usage.1,
                sheet.file.locate usage.2⟩
          else []) ∧
        ∀ sink resolved last, sheet.Runs definitions reportUnresolved sink resolved last ↔
          resolved = sheet.resolve definitions ∧
            last = sink ++ sheet.variableMessages definitions reportUnresolved := by
  refine ⟨sheet.declarations.flatMap fun d => unresolvedOf definitions d.value.terms, ?_, ?_,
    fun sink resolved last => Stylesheet.runs_iff⟩
  · have ofValue (d : Declaration) (_ : d ∈ sheet.declarations) :
        Lists (· < ·) (Unresolved definitions (UsageAt d.value.terms))
          (unresolvedOf definitions d.value.terms) :=
      lists_unresolvedOf_of_row fun term _ => term.lists_unresolved
    refine (sheet.lists_declarations.flatMap ofValue).congr fun place usage => ?_
    constructor
    · rintro ⟨d, held, undefined, stands⟩
      exact ⟨undefined, d, held, stands⟩
    · rintro ⟨undefined, d, held, stands⟩
      exact ⟨d, held, undefined, stands⟩
  · rw [Stylesheet.variableMessages, sheet.cycleMessages_eq]
    rfl

end ComponentStyles
