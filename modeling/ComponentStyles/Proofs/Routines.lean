import Mathlib.Data.List.Infix
import Mathlib.Logic.Relation

/-!
# Routines that call each other

The body of a routine tells its calls, with what is done behind each of them. So the calls of a run
are data, and a body can call a routine without giving a reason why that ends. Where no call goes on
with more than its caller has left, and a call with as much goes to a routine further down, every
chain of calls ends, and nothing but the routines themselves does what the bodies say.
-/

namespace ComponentStyles

variable {Name State : Type}

/-- A value, or a call with what is done with its result and the state that it leaves. -/
inductive Calling (Result : Name → Type) (State Value : Type)
  | done (value : Value)
  | call (name : Name) (state : State) (behind : Result name → State → Calling Result State Value)

namespace Calling

variable {Result : Name → Type} {Value : Type}

/-- What comes out when the calls are answered. -/
def value (answer : (name : Name) → State → Result name × State) :
    Calling Result State Value → Value
  | done value => value
  | call name state behind =>
      (behind (answer name state).1 (answer name state).2).value answer

/-- The calls that are made when they are answered, in their order. -/
def calls (answer : (name : Name) → State → Result name × State) :
    Calling Result State Value → List (Name × State)
  | done _ => []
  | call name state behind =>
      (name, state) :: (behind (answer name state).1 (answer name state).2).calls answer

/-- All calls that are made when they are answered meet a condition. -/
def All (answer : (name : Name) → State → Result name × State) (meets : Name → State → Prop) :
    Calling Result State Value → Prop
  | done _ => True
  | call name state behind =>
      meets name state ∧ (behind (answer name state).1 (answer name state).2).All answer meets

variable {answer other : (name : Name) → State → Result name × State}
  {meets : Name → State → Prop} {calling : Calling Result State Value}

theorem all_iff : calling.All answer meets ↔
    ∀ call ∈ calling.calls answer, meets call.1 call.2 := by
  induction calling with
  | done value => simp [All, calls]
  | call name state behind inductionHypothesis => simp [All, calls, inductionHypothesis]

/-- Only the answers to the calls that are made matter. -/
theorem value_congr (same : calling.All answer fun name state => other name state = answer name state) :
    calling.value other = calling.value answer := by
  induction calling with
  | done value => rfl
  | call name state behind inductionHypothesis =>
      obtain ⟨here, later⟩ := same
      rw [value, value, here]
      exact inductionHypothesis _ _ later

end Calling

/-- Routines with the bodies that they carry out. -/
structure Routines (Name State : Type) where
  Result : Name → Type
  body : (name : Name) → State → Calling Result State (Result name × State)
  run : (name : Name) → State → Result name × State
  runs : ∀ name state, (body name state).value run = run name state

namespace Routines

variable (routines : Routines Name State)

/-- A routine that starts in a state calls another one in a state. -/
def Calls (caller callee : Name × State) : Prop :=
  callee ∈ (routines.body caller.1 caller.2).calls routines.run

variable {Sign : Type} {left : State → List Sign} {rank : Name → Nat}

/-- What is left for a callee is what is left for its caller or less of it. -/
structure Below (left : State → List Sign) (rank : Name → Nat) (caller callee : Name × State) :
    Prop where
  suffix : left callee.2 <:+ left caller.2
  down : (left callee.2).length < (left caller.2).length ∨ rank callee.1 < rank caller.1

variable {routines}

theorem Below.lower {caller callee : Name × State} (suffix : left callee.2 <:+ left caller.2)
    (lower : (rank callee.1).blt (rank caller.1) = true) : Below left rank caller callee :=
  ⟨suffix, .inr (by rwa [Nat.blt_eq] at lower)⟩

theorem Below.shorter {caller callee : Name × State} (suffix : left callee.2 <:+ left caller.2)
    (shorter : (left callee.2).length < (left caller.2).length) : Below left rank caller callee :=
  ⟨suffix, .inl shorter⟩

theorem Below.trans {caller between callee : Name × State} (first : Below left rank caller between)
    (second : Below left rank between callee) : Below left rank caller callee := by
  refine ⟨second.suffix.trans first.suffix, ?_⟩
  have notLonger := first.suffix.length_le
  have notLongerToo := second.suffix.length_le
  rcases first.down with shorter | lower
  · exact .inl (by omega)
  · rcases second.down with shorter | lowerToo
    · exact .inl (by omega)
    · exact .inr (by omega)

/-- No chain of calls goes on for ever or comes back to a routine with as much left, and nothing but
the routines does what the bodies say. -/
structure MakesProgress (routines : Routines Name State) (left : State → List Sign)
    (rank : Name → Nat) : Prop where
  ends : WellFounded fun callee caller => routines.Calls caller callee
  onward : ∀ caller callee, Relation.TransGen routines.Calls caller callee →
    left callee.2 <:+ left caller.2
  consumes : ∀ caller callee, Relation.TransGen routines.Calls caller callee →
    rank callee.1 = rank caller.1 → (left callee.2).length < (left caller.2).length
  unique : ∀ other, (∀ name state, (routines.body name state).value other = other name state) ↔
    other = routines.run

section Descent

variable (descends : ∀ {caller callee}, routines.Calls caller callee → Below left rank caller callee)

include descends

theorem below_of_chain {caller callee : Name × State}
    (chain : Relation.TransGen routines.Calls caller callee) : Below left rank caller callee := by
  induction chain with
  | single call => exact descends call
  | tail _ call inductionHypothesis => exact inductionHypothesis.trans (descends call)

theorem wellFounded_calls : WellFounded fun callee caller => routines.Calls caller callee := by
  refine Subrelation.wf (r := InvImage (Prod.Lex (· < ·) (· < ·))
    fun call : Name × State => ((left call.2).length, rank call.1)) ?_
    (InvImage.wf _ (Prod.lex Nat.lt_wfRel Nat.lt_wfRel).wf)
  intro callee caller call
  obtain ⟨suffix, shorter | lower⟩ := descends call
  · exact Prod.Lex.left _ _ shorter
  · rcases suffix.length_le.lt_or_eq with shorter | same
    · exact Prod.Lex.left _ _ shorter
    · simp only [InvImage, same]
      exact Prod.Lex.right _ lower

/-- The routines are the only functions that do what the bodies say. -/
theorem eq_run_iff {other : (name : Name) → State → routines.Result name × State} :
    (∀ name state, (routines.body name state).value other = other name state) ↔
      other = routines.run := by
  refine ⟨fun does => ?_, fun same => same ▸ routines.runs⟩
  have same (call : Name × State) : other call.1 call.2 = routines.run call.1 call.2 := by
    induction call using (wellFounded_calls descends).induction with
    | _ caller inductionHypothesis =>
        rw [← does, ← routines.runs]
        exact Calling.value_congr (Calling.all_iff.mpr inductionHypothesis)
  funext name state
  exact same (name, state)

theorem makesProgress : routines.MakesProgress left rank where
  ends := wellFounded_calls descends
  onward _ _ chain := (below_of_chain descends chain).suffix
  consumes _ _ chain same := (below_of_chain descends chain).down.resolve_right (by omega)
  unique _ := eq_run_iff descends

end Descent

end Routines

end ComponentStyles
