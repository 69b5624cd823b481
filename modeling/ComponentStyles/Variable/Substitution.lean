import ComponentStyles.Message
import ComponentStyles.Variable.Reference

/-!
Replacing the usages of variables by what they stand for.

A defined name stands for the terms of its definition, in which usages are replaced in turn. An
undefined name stands for its fallback, or for nothing. A chase that comes back to a name it
started from has failed; then the fallback stands in, and without one the failure passes to the
usage that led there. In a declaration a failed usage is left out.

Definitions themselves keep their usages.
-/

namespace ComponentStyles

/-- What comes of looking a name up. -/
inductive Chase where
  | undefined
  /-- The name is being looked up already, or leads to one that is. -/
  | cyclic
  | found (terms : List Term)
deriving Repr

mutual

/-- Replaces the usages in a term, where `chase` looks names up. -/
def Term.substitute (chase : Text → Chase) : Term → Option (List Term)
  | .usage name fallback _ =>
      match chase name, fallback with
      | .found terms, _ => some terms
      | .undefined, none => some []
      | .cyclic, none => none
      | _, some fallback => fallback.substitute chase
  | .call name arguments argumentsSpan span =>
      (substituteAll chase arguments).map fun arguments =>
        [.call name arguments argumentsSpan span]
  | term => some [term]

def substituteAll (chase : Text → Chase) : List Term → Option (List Term)
  | [] => some []
  | term :: rest =>
      match term.substitute chase with
      | none => none
      | some terms => (substituteAll chase rest).map (terms ++ ·)

end

section Usage

variable {chase : Text → Chase} {name : Text} {fallback : Term} {span : Span}

theorem Term.substitute_usage_found {fallback : Option Term} {terms : List Term}
    (looked : chase name = .found terms) :
    (usage name fallback span).substitute chase = some terms := by
  unfold substitute
  rw [looked]

theorem Term.substitute_usage_undefined (looked : chase name = .undefined) :
    (usage name none span).substitute chase = some [] := by
  simp only [substitute, looked]

theorem Term.substitute_usage_cyclic (looked : chase name = .cyclic) :
    (usage name none span).substitute chase = none := by
  simp only [substitute, looked]

theorem Term.substitute_usage_fallback (looked : ∀ terms, chase name ≠ .found terms) :
    (usage name (some fallback) span).substitute chase = fallback.substitute chase := by
  cases outcome : chase name <;> simp_all [substitute]

/-- A usage that is replaced stands for what its name is looked up to, or for nothing. -/
theorem Term.substitute_usage_cases {result : List Term}
    (replaced : (usage name none span).substitute chase = some result) :
    chase name = .found result ∨ result = [] := by
  cases looked : chase name with
  | undefined =>
      rw [substitute_usage_undefined looked] at replaced
      exact .inr (Option.some.inj replaced).symm
  | cyclic =>
      rw [substitute_usage_cyclic looked] at replaced
      cases replaced
  | found terms =>
      rw [substitute_usage_found looked] at replaced
      obtain rfl := Option.some.inj replaced
      exact .inl rfl

/-- With a fallback it stands for what its name is looked up to, or for the replaced fallback. -/
theorem Term.substitute_usage_fallback_cases {result : List Term}
    (replaced : (usage name (some fallback) span).substitute chase = some result) :
    chase name = .found result ∨ fallback.substitute chase = some result := by
  by_cases found : ∃ terms, chase name = .found terms
  · obtain ⟨terms, looked⟩ := found
    rw [substitute_usage_found looked] at replaced
    obtain rfl := Option.some.inj replaced
    exact .inl looked
  · rw [substitute_usage_fallback (not_exists.mp found)] at replaced
    exact .inr replaced

/-- Terms are replaced when each of them is. -/
theorem substituteAll_cons {term : Term} {rest result : List Term}
    (replaced : substituteAll chase (term :: rest) = some result) :
    ∃ first others, term.substitute chase = some first ∧
      substituteAll chase rest = some others ∧ result = first ++ others := by
  cases first : term.substitute chase with
  | none => simp only [substituteAll, first, reduceCtorEq] at replaced
  | some terms =>
      simp only [substituteAll, first, Option.map_eq_some_iff] at replaced
      obtain ⟨others, found, rfl⟩ := replaced
      exact ⟨terms, others, rfl, found, rfl⟩

end Usage

namespace Definitions

/-- Looks a name up while the names in `chasing` are being looked up. Each of them is defined, so
only as many can join them as there are definitions left. -/
def chase (definitions : Definitions) (chasing : List Text) (name : Text) : Chase :=
  match _ : definitions.get? name with
  | none => .undefined
  | some d =>
      if _ : name ∈ chasing then .cyclic
      else
        match substituteAll (definitions.chase (name :: chasing)) d.value.terms with
        | none => .cyclic
        | some terms => .found terms
termination_by (definitions.outside chasing).length
decreasing_by exact length_outside_cons_lt ‹_› ‹_›

section Chase

variable {definitions : Definitions} {chasing : List Text} {name : Text}

theorem chase_of_undefined (undefined : definitions.get? name = none) :
    definitions.chase chasing name = .undefined := by
  rw [chase]
  split <;> simp_all only [reduceCtorEq]

/-- A definition is followed unless its name is being looked up. -/
theorem chase_of_defined {d : Definition} (defined : definitions.get? name = some d) :
    definitions.chase chasing name =
      if name ∈ chasing then .cyclic
      else
        match substituteAll (definitions.chase (name :: chasing)) d.value.terms with
        | none => .cyclic
        | some terms => .found terms := by
  rw [chase]
  split <;> simp_all only [reduceCtorEq, Option.some.injEq, dite_eq_ite]

variable {d : Definition} (defined : definitions.get? name = some d)
include defined

theorem chase_of_again (again : name ∈ chasing) : definitions.chase chasing name = .cyclic := by
  rw [chase_of_defined defined, if_pos again]

theorem chase_of_failed (fresh : name ∉ chasing)
    (failed : substituteAll (definitions.chase (name :: chasing)) d.value.terms = none) :
    definitions.chase chasing name = .cyclic := by
  rw [chase_of_defined defined, if_neg fresh, failed]

theorem chase_of_replaced {terms : List Term} (fresh : name ∉ chasing)
    (replaced : substituteAll (definitions.chase (name :: chasing)) d.value.terms = some terms) :
    definitions.chase chasing name = .found terms := by
  rw [chase_of_defined defined, if_neg fresh, replaced]

end Chase

def lookup (definitions : Definitions) (name : Text) : Chase :=
  definitions.chase [] name

end Definitions

mutual

/-- Replaces the usages in a term of a declaration. -/
def Term.resolve (definitions : Definitions) : Term → List Term
  | .call name arguments argumentsSpan span =>
      [.call name (resolveAll definitions arguments) argumentsSpan span]
  | term => (term.substitute definitions.lookup).getD []

def resolveAll (definitions : Definitions) : List Term → List Term
  | [] => []
  | term :: rest => term.resolve definitions ++ resolveAll definitions rest

end

theorem Term.resolve_usage {definitions : Definitions} {name : Text} {fallback : Option Term}
    {span : Span} : (usage name fallback span).resolve definitions =
      ((usage name fallback span).substitute (definitions.chase [])).getD [] := rfl

mutual

/-- The usages in a term of a declaration that stand for nothing because they have neither a
definition nor a fallback. -/
def Term.unresolved (definitions : Definitions) : Term → List (Text × Span)
  | .usage name none span => if definitions.contains name then [] else [(name, span)]
  | .call _ arguments _ _ => unresolvedOf definitions arguments
  | _ => []

def unresolvedOf (definitions : Definitions) : List Term → List (Text × Span)
  | [] => []
  | term :: rest => term.unresolved definitions ++ unresolvedOf definitions rest

end

namespace Stylesheet

/-- Replaces the usages in every declaration. -/
def resolve (definitions : Definitions) (sheet : Stylesheet) : Stylesheet :=
  sheet.mapTerms (resolveAll definitions) id

/-- The warnings about variables on cycles. -/
def cycleMessages (definitions : Definitions) (sheet : Stylesheet) : List Message :=
  definitions.cyclic.map fun d =>
    .warning .varCycle ("var cycle detected var-".toList ++ d.name) sheet.file d.span

/-- The warnings about unresolved usages. -/
def unresolvedMessages (definitions : Definitions) (sheet : Stylesheet) : List Message :=
  (sheet.declarations.flatMap fun d => unresolvedOf definitions d.value.terms).map
    fun (name, span) =>
      .warning .unresolvedVar ("unresolved variable var-".toList ++ name) sheet.file span

/-- The warnings about the variables of a stylesheet: cycles first, then, if asked for,
unresolved usages. -/
def variableMessages (definitions : Definitions) (reportUnresolved : Bool) (sheet : Stylesheet) :
    List Message :=
  sheet.cycleMessages definitions ++
    if reportUnresolved then sheet.unresolvedMessages definitions else []

end Stylesheet

end ComponentStyles
