import ComponentStyles.Variable.Definitions

/-!
References between variables, and the variables that lie on a cycle of them.

A definition refers to every name used in its terms and, where a used name is undefined and its
fallback is a usage too, to what the fallback refers to.
-/

namespace ComponentStyles

mutual

/-- The names that a term refers to. -/
def Term.references (definitions : Definitions) : Term → List Text
  | .usage name fallback _ =>
      name ::
        match fallback with
        | some (.usage other fallback span) =>
            if definitions.contains name then []
            else Term.references definitions (.usage other fallback span)
        | _ => []
  | .call _ arguments _ _ => referencesOf definitions arguments
  | _ => []

def referencesOf (definitions : Definitions) : List Term → List Text
  | [] => []
  | term :: rest => term.references definitions ++ referencesOf definitions rest

end

namespace Definitions

/-- The names that the definition of a name refers to; an undefined name refers to none. -/
def references (definitions : Definitions) (name : Text) : List Text :=
  ((definitions.get? name).map fun d => referencesOf definitions d.value.terms).getD []

theorem references_eq_nil {definitions : Definitions} {name : Text}
    (undefined : definitions.get? name = none) : definitions.references name = [] := by
  rw [references, undefined, Option.map_none, Option.getD_none]

/-- Whether one of the names in `stack` leads to `goal`. The names in `seen` have been followed
already. -/
def leadsTo (definitions : Definitions) (goal : Text) (seen : List Text) : List Text → Bool
  | [] => false
  | name :: stack =>
      if name = goal then true
      else if name ∈ seen then definitions.leadsTo goal seen stack
      else definitions.leadsTo goal (name :: seen) (definitions.references name ++ stack)
termination_by stack => ((definitions.outside seen).length, stack.length)
decreasing_by
  · exact Prod.Lex.right _ (Nat.lt_succ_self _)
  · rename_i fresh
    cases defined : definitions.get? name with
    | some d => exact Prod.Lex.left _ _ (length_outside_cons_lt defined fresh)
    | none =>
        -- An undefined name refers to nothing, so the stack shrinks instead.
        rw [references_eq_nil defined, List.nil_append]
        rcases Nat.lt_or_eq_of_le (length_outside_cons_le seen) with fewer | same
        · exact Prod.Lex.left _ _ fewer
        · rw [same]
          exact Prod.Lex.right _ (Nat.lt_succ_self _)

/-- Whether a name leads back to itself. -/
def isCyclic (definitions : Definitions) (name : Text) : Bool :=
  definitions.leadsTo name [] (definitions.references name)

/-- The definitions whose names lead back to themselves. -/
def cyclic (definitions : Definitions) : List Definition :=
  definitions.toList.filter fun d => definitions.isCyclic d.name

end Definitions

end ComponentStyles
