import ComponentStyles.Proofs.Variable.Pass

/-!
# Splicing in place

The calls of a run over the terms of a declaration, with what each of them does on the way. A row of
terms is changed where it stands: what a usage is replaced by is put in its place, and a row in which
a cycle is met is left as far as it has been changed by then. A lookup works on a copy of the terms
of its definition, which is dropped on a cycle.

Every call comes back, and with the names being looked up as they were. In a lookup it comes to what
substitution computes, and for a declaration to the resolved terms.
-/

namespace ComponentStyles

/-- A term that is neither a usage nor has any inside. -/
def Term.IsKept : Term → Prop
  | .literal _ _ | .url _ _ | .operator _ _ => True
  | .usage _ _ _ | .call _ _ _ _ => False

theorem Term.IsKept.substitute {term : Term} (kept : term.IsKept) (look : Text → Chase) :
    term.substitute look = some [term] := by
  cases term with
  | literal | url | operator => rfl
  | usage | call => cases kept

theorem Term.IsKept.resolve {term : Term} (kept : term.IsKept) (definitions : Definitions) :
    term.resolve definitions = [term] := by
  cases term with
  | literal | url | operator => rfl
  | usage | call => cases kept

theorem Term.IsKept.unresolved {term : Term} (kept : term.IsKept) (definitions : Definitions) :
    term.unresolved definitions = [] := by
  cases term with
  | literal | url | operator => rfl
  | usage | call => cases kept

namespace Pass

/-- Where a call is made: in a definition, whose usages only hold a place, or in a lookup, which is
told of cycles. -/
structure Context where
  inDefinition : Bool
  inChase : Bool

def Context.declaration : Context := ⟨false, false⟩

def Context.chase : Context := ⟨false, true⟩

/-- The calls of a run. A row is split into the terms that have been passed and those ahead, and is
entered with none passed. -/
inductive Call where
  | terms (context : Context) (passed ahead : List Term)
  | usage (context : Context) (name : Text) (fallback : Option Term) (span : Span)
  | chase (d : Definition)
  | fallback (term : Term)

/-- Lookups and fallbacks are the same wherever they are called. -/
def Call.context : Call → Context
  | .terms context _ _ | .usage context _ _ _ => context
  | .chase _ | .fallback _ => .chase

/-- What a call comes back with. Where it met a cycle, a row is left as it is by then. -/
inductive Answer where
  | ok (terms : List Term)
  | cycle (left : List Term)

namespace Answer

def terms? : Answer → Option (List Term)
  | .ok terms => some terms
  | .cycle _ => none

/-- The answer of whoever worked on a copy of a row. -/
def dropRow : Answer → Answer
  | .ok terms => .ok terms
  | .cycle _ => .cycle []

@[simp] theorem terms?_dropRow (answer : Answer) : answer.dropRow.terms? = answer.terms? := by
  cases answer <;> rfl

theorem eq_ok_of_dropRow {answer : Answer} {terms : List Term}
    (answered : answer.dropRow = .ok terms) : answer = .ok terms := by
  cases answer with
  | ok => exact answered
  | cycle => cases answered

end Answer

/-- Outside of lookups a usage absorbs its cycle. -/
def Context.settle (context : Context) (answer : Answer) : Answer :=
  if context.inChase then answer else .ok (answer.terms?.getD [])

theorem Context.eq_of_settle {context : Context} {answer : Answer} {terms : List Term}
    (settled : context.settle answer = .ok terms) : answer = .ok terms ∨ terms = [] := by
  rw [settle] at settled
  split at settled
  · exact .inl settled
  · cases answer with
    | ok => exact .inl settled
    | cycle =>
        obtain rfl := Answer.ok.inj settled
        exact .inr rfl

/-- A usage of nothing is warned about outside of lookups, if that is asked for. -/
def usageWarnings (pass : Pass) (context : Context) (usage : Text × Span) : List Message :=
  if pass.reportUnresolved ∧ context.inChase = false then [pass.unresolvedWarning usage] else []

theorem usageWarnings_of_inChase {pass : Pass} {context : Context} {usage : Text × Span}
    (inChase : context.inChase = true) : pass.usageWarnings context usage = [] := by
  simp [usageWarnings, inChase]

/-- `Calls pass before call answer after`: the rules of a run. -/
inductive Calls (pass : Pass) : State → Call → Answer → State → Prop where
  | inDefinition {state context passed ahead} :
      context.inDefinition = true →
      Calls pass state (.terms context passed ahead) (.ok (passed ++ ahead)) state
  | done {state context passed} :
      context.inDefinition = false →
      Calls pass state (.terms context passed []) (.ok passed) state
  | kept {before context passed term ahead answer after} :
      context.inDefinition = false →
      term.IsKept →
      Calls pass before (.terms context (passed ++ [term]) ahead) answer after →
      Calls pass before (.terms context passed (term :: ahead)) answer after
  | arguments {before context passed name arguments argumentsSpan span ahead results middle answer
        after} :
      context.inDefinition = false →
      Calls pass before (.terms context [] arguments) (.ok results) middle →
      Calls pass middle (.terms context (passed ++ [.call name results argumentsSpan span]) ahead)
        answer after →
      Calls pass before (.terms context passed (.call name arguments argumentsSpan span :: ahead))
        answer after
  | argumentsCycle {before context passed name arguments argumentsSpan span ahead left after} :
      context.inDefinition = false →
      Calls pass before (.terms context [] arguments) (.cycle left) after →
      Calls pass before (.terms context passed (.call name arguments argumentsSpan span :: ahead))
        (.cycle (passed ++ .call name left argumentsSpan span :: ahead)) after
  | splice {before context passed name fallback span ahead replacement middle answer after} :
      context.inDefinition = false →
      Calls pass before (.usage context name fallback span) (.ok replacement) middle →
      Calls pass middle (.terms context (passed ++ replacement) ahead) answer after →
      Calls pass before (.terms context passed (.usage name fallback span :: ahead)) answer after
  | spliceCycle {before context passed name fallback span ahead left after} :
      context.inDefinition = false →
      Calls pass before (.usage context name fallback span) (.cycle left) after →
      Calls pass before (.terms context passed (.usage name fallback span :: ahead))
        (.cycle (passed ++ .usage name fallback span :: ahead)) after
  | defined {before context name fallback span d terms after} :
      pass.definitions.get? name = some d →
      Calls pass before (.chase d) (.ok terms) after →
      Calls pass before (.usage context name fallback span) (context.settle (.ok terms)) after
  | definedCycle {before context name span d left after} :
      pass.definitions.get? name = some d →
      Calls pass before (.chase d) (.cycle left) after →
      Calls pass before (.usage context name none span) (context.settle (.cycle left)) after
  | definedFallback {before context name fallback span d left middle answer after} :
      pass.definitions.get? name = some d →
      Calls pass before (.chase d) (.cycle left) middle →
      Calls pass middle (.fallback fallback) answer after →
      Calls pass before (.usage context name (some fallback) span) (context.settle answer) after
  | undefinedFallback {before context name fallback span answer after} :
      pass.definitions.get? name = none →
      Calls pass before (.fallback fallback) answer after →
      Calls pass before (.usage context name (some fallback) span) (context.settle answer) after
  | undefined {state context name span} :
      pass.definitions.get? name = none →
      Calls pass state (.usage context name none span) (context.settle (.ok []))
        (state.raise (pass.usageWarnings context (name, span)))
  | again {state d} :
      d.name ∈ state.chasing →
      Calls pass state (.chase d) (.cycle []) state
  | follow {before d answer after} :
      d.name ∉ before.chasing →
      Calls pass { before with chasing := d.name :: before.chasing }
        (.terms .chase [] d.value.terms) answer after →
      Calls pass before (.chase d) answer.dropRow
        { after with chasing := after.chasing.erase d.name }
  | fallback {before term answer after} :
      Calls pass before (.terms .chase [] [term]) answer after →
      Calls pass before (.fallback term) answer.dropRow after

variable {pass : Pass} {before after : State} {call : Call} {answer : Answer}

/-- The names being looked up are the same after every call, whatever it comes back with. -/
theorem Calls.chasing_eq (run : Calls pass before call answer after) :
    after.chasing = before.chasing := by
  induction run with
  | inDefinition | done | again | undefined => rfl
  | kept _ _ _ rest => exact rest
  | arguments _ _ _ inside rest | splice _ _ _ inside rest => exact rest.trans inside
  | argumentsCycle _ _ inside | spliceCycle _ _ inside => exact inside
  | defined _ _ inside | definedCycle _ _ inside | undefinedFallback _ _ inside => exact inside
  | definedFallback _ _ _ inside rest => exact rest.trans inside
  | follow _ _ inside =>
      -- The name that was added is the one that is taken away.
      show List.erase _ _ = _
      rw [inside, List.erase_cons_head]
  | fallback _ inside => exact inside

/-- No call in a lookup writes to the sink. -/
theorem Calls.messages_eq (run : Calls pass before call answer after)
    (inChase : call.context.inChase = true) : after.messages = before.messages := by
  induction run with
  | inDefinition | done | again => rfl
  | kept _ _ _ rest => exact rest inChase
  | arguments _ _ _ inside rest | splice _ _ _ inside rest =>
      exact (rest inChase).trans (inside inChase)
  | argumentsCycle _ _ inside | spliceCycle _ _ inside => exact inside inChase
  | defined _ _ inside | definedCycle _ _ inside | undefinedFallback _ _ inside => exact inside rfl
  | definedFallback _ _ _ inside rest => exact (rest rfl).trans (inside rfl)
  | @undefined state context _ _ _ =>
      have silent : context.inChase = true := inChase
      rw [usageWarnings_of_inChase silent, State.raise_nil]
  | follow _ _ inside => exact inside rfl
  | fallback _ inside => exact inside rfl

theorem Calls.state_eq (run : Calls pass before call answer after)
    (inChase : call.context.inChase = true) : after = before := by
  obtain ⟨chasing, messages⟩ := before
  obtain ⟨chasing', messages'⟩ := after
  obtain rfl : chasing' = chasing := run.chasing_eq
  obtain rfl : messages' = messages := run.messages_eq inChase
  rfl

/-! What is found in a lookup is what substitution computes. -/

section Found

variable {definitions : Definitions} {chasing : List Text} {d : Definition}

/-- The terms that a call in a lookup comes back with, if it does not meet a cycle. -/
def Call.found? (definitions : Definitions) (chasing : List Text) : Call → Option (List Term)
  | .terms _ passed ahead => (substituteAll (definitions.chase chasing) ahead).map (passed ++ ·)
  | .usage _ name instead span =>
      (Term.usage name instead span).substitute (definitions.chase chasing)
  | .chase d =>
      if chasing.contains d.name then none
      else substituteAll (definitions.chase (d.name :: chasing)) d.value.terms
  | .fallback term => term.substitute (definitions.chase chasing)

theorem Call.found?_chase {name : Text} (defined : definitions.get? name = some d) :
    (Call.chase d).found? definitions chasing = (definitions.chase chasing name).terms? := by
  obtain rfl := Definitions.name_of_get? defined
  rw [found?, terms?_chase defined]
  simp only [List.contains_iff_mem]

/-- A defined name is looked up first, and its fallback is only read on a cycle. -/
theorem Call.found?_usage_defined {context : Context} {name : Text} {instead : Option Term}
    {span : Span} (defined : definitions.get? name = some d) :
    (Call.usage context name instead span).found? definitions chasing =
      ((Call.chase d).found? definitions chasing).or
        (instead.bind fun term => (Call.fallback term).found? definitions chasing) := by
  rw [found?, substitute_usage_defined defined, found?_chase defined]
  rfl

/-- A term that has been replaced is passed. -/
theorem Call.found?_terms_cons {context : Context} {passed first ahead : List Term} {term : Term}
    (replaced : term.substitute (definitions.chase chasing) = some first) :
    (Call.terms context passed (term :: ahead)).found? definitions chasing =
      (Call.terms context (passed ++ first) ahead).found? definitions chasing := by
  rw [found?, found?, substituteAll, replaced, Option.map_map]
  exact congrArg (Option.map · _) (funext fun others => (List.append_assoc _ _ _).symm)

theorem Call.found?_terms_none {context : Context} {passed ahead : List Term} {term : Term}
    (failed : term.substitute (definitions.chase chasing) = none) :
    (Call.terms context passed (term :: ahead)).found? definitions chasing = none := by
  rw [found?, substituteAll, failed, Option.map_none]

theorem Call.found?_terms_nil_passed {context : Context} {terms : List Term} :
    (Call.terms context [] terms).found? definitions chasing =
      substituteAll (definitions.chase chasing) terms :=
  congrFun Option.map_id _

/-- In a lookup, a call comes back with what substitution computes. -/
theorem Calls.found (run : Calls pass before call answer after) (inChase : call.context = .chase) :
    answer.terms? = call.found? pass.definitions before.chasing := by
  induction run with
  | inDefinition isIn =>
      obtain rfl : _ = Context.chase := inChase
      cases isIn
  | done _ => rw [Call.found?, substituteAll, Option.map_some, List.append_nil, Answer.terms?]
  | kept _ kept _ rest => rw [Call.found?_terms_cons (kept.substitute _), rest inChase]
  | arguments _ insideRun _ inside rest =>
      have replaced := inside inChase
      rw [Call.found?_terms_nil_passed] at replaced
      rw [rest inChase, insideRun.chasing_eq, Call.found?_terms_cons]
      rw [Term.substitute, ← replaced, Answer.terms?, Option.map_some]
  | argumentsCycle _ _ inside =>
      have failed := inside inChase
      rw [Call.found?_terms_nil_passed] at failed
      rw [Call.found?_terms_none, Answer.terms?]
      rw [Term.substitute, ← failed, Answer.terms?, Option.map_none]
  | splice _ insideRun _ inside rest =>
      have replaced := inside inChase
      rw [rest inChase, insideRun.chasing_eq, Call.found?_terms_cons replaced.symm]
  | spliceCycle _ _ inside =>
      have failed := inside inChase
      rw [Call.found?_terms_none failed.symm, Answer.terms?]
  | defined defined _ inside =>
      obtain rfl : _ = Context.chase := inChase
      rw [Call.found?_usage_defined defined, ← inside rfl]
      rfl
  | definedCycle defined _ inside =>
      obtain rfl : _ = Context.chase := inChase
      rw [Call.found?_usage_defined defined, ← inside rfl]
      rfl
  | definedFallback defined chaseRun _ inside rest =>
      obtain rfl : _ = Context.chase := inChase
      rw [Call.found?_usage_defined defined, ← inside rfl]
      exact chaseRun.chasing_eq ▸ rest rfl
  | undefinedFallback undefined _ inside =>
      obtain rfl : _ = Context.chase := inChase
      rw [Call.found?, substitute_usage_undefinedFallback undefined]
      exact inside rfl
  | undefined undefined =>
      obtain rfl : _ = Context.chase := inChase
      exact (substitute_usage_undefined undefined).symm
  | again listed => exact (if_pos (List.contains_iff_mem.mpr listed)).symm
  | follow fresh _ inside =>
      have replaced := inside rfl
      rw [Call.found?_terms_nil_passed] at replaced
      rw [Answer.terms?_dropRow, replaced, Call.found?, if_neg (by simpa using fresh)]
  | fallback _ inside =>
      have replaced := inside rfl
      rw [Call.found?_terms_nil_passed, substituteAll_singleton] at replaced
      rw [Answer.terms?_dropRow, replaced, Call.found?]

end Found

/-! Outside of lookups no call meets a cycle. -/

section Outside

variable {name : Text} {fallback : Option Term} {span : Span} {d : Definition}

/-- A usage is settled by where it is, and found as in a lookup. -/
theorem Calls.exists_settle {context : Context}
    (run : Calls pass before (.usage context name fallback span) answer after) :
    ∃ inside, answer = context.settle inside ∧ inside.terms? =
      (Term.usage name fallback span).substitute (pass.definitions.chase before.chasing) := by
  cases run with
  | defined defined run =>
      exact ⟨_, rfl, (Calls.defined defined run).found rfl⟩
  | definedCycle defined run =>
      exact ⟨_, rfl, (Calls.definedCycle defined run).found rfl⟩
  | definedFallback defined run fallbackRun =>
      exact ⟨_, rfl, (Calls.definedFallback defined run fallbackRun).found rfl⟩
  | undefinedFallback undefined run =>
      exact ⟨_, rfl, (Calls.undefinedFallback undefined run).found rfl⟩
  | undefined undefined =>
      exact ⟨_, rfl, (Calls.undefined undefined).found rfl⟩

/-- The terms that a call made for a declaration comes back with. -/
def Call.resolved (definitions : Definitions) : Call → List Term
  | .terms _ passed ahead => passed ++ resolveAll definitions ahead
  | .usage _ name instead span => (Term.usage name instead span).resolve definitions
  | .chase _ | .fallback _ => []

theorem Call.resolved_terms_cons {definitions : Definitions} {context : Context}
    {passed ahead : List Term} {term : Term} :
    (Call.terms context passed (term :: ahead)).resolved definitions =
      (Call.terms context (passed ++ term.resolve definitions) ahead).resolved definitions := by
  rw [resolved, resolved, resolveAll, List.append_assoc]

theorem Calls.resolved_usage {context : Context}
    (run : Calls pass before (.usage context name fallback span) answer after)
    (outside : context = .declaration) (idle : before.Idle) :
    answer = .ok ((Term.usage name fallback span).resolve pass.definitions) := by
  obtain ⟨inside, rfl, found⟩ := run.exists_settle
  rw [idle] at found
  rw [outside, Term.resolve_usage, ← found]
  rfl

theorem Calls.resolved (run : Calls pass before call answer after)
    (outside : call.context = .declaration) (idle : before.Idle) :
    answer = .ok (call.resolved pass.definitions) := by
  induction run with
  | inDefinition isIn =>
      obtain rfl : _ = Context.declaration := outside
      cases isIn
  | done _ => rw [Call.resolved, resolveAll, List.append_nil]
  | kept _ kept _ rest =>
      rw [rest outside idle, Call.resolved_terms_cons, kept.resolve]
  | arguments _ insideRun _ inside rest =>
      obtain rfl := Answer.ok.inj (inside outside idle)
      have idleToo : State.Idle _ := insideRun.chasing_eq.trans idle
      rw [rest outside idleToo, Call.resolved_terms_cons, Term.resolve]
      rfl
  | argumentsCycle _ _ inside => cases inside outside idle
  | splice _ insideRun _ inside rest =>
      obtain rfl := Answer.ok.inj (inside outside idle)
      have idleToo : State.Idle _ := insideRun.chasing_eq.trans idle
      rw [rest outside idleToo, Call.resolved_terms_cons]
      rfl
  | spliceCycle _ _ inside => cases inside outside idle
  | defined defined run => exact (Calls.defined defined run).resolved_usage outside idle
  | definedCycle defined run => exact (Calls.definedCycle defined run).resolved_usage outside idle
  | definedFallback defined run fallbackRun =>
      exact (Calls.definedFallback defined run fallbackRun).resolved_usage outside idle
  | undefinedFallback undefined run =>
      exact (Calls.undefinedFallback undefined run).resolved_usage outside idle
  | undefined undefined => exact (Calls.undefined undefined).resolved_usage outside idle
  | again | follow | fallback => cases outside

/-- A call for a declaration does not come back with a cycle, whatever is being looked up. -/
theorem Calls.exists_ok (run : Calls pass before call answer after)
    (outside : call.context.inChase = false) : ∃ terms, answer = .ok terms := by
  induction run with
  | inDefinition | done => exact ⟨_, rfl⟩
  | kept _ _ _ rest | arguments _ _ _ _ rest | splice _ _ _ _ rest => exact rest outside
  | argumentsCycle _ _ inside | spliceCycle _ _ inside =>
      obtain ⟨_, answered⟩ := inside outside
      cases answered
  | @defined _ context | @definedCycle _ context | @definedFallback _ context
  | @undefinedFallback _ context | @undefined _ context =>
      have absorbs : context.inChase = false := outside
      exact ⟨_, if_neg (by simp [absorbs])⟩
  | again | follow | fallback => cases outside

/-- The usages of nothing that a call made for a declaration meets. -/
def Call.unresolved (definitions : Definitions) : Call → List (Text × Span)
  | .terms _ _ ahead => unresolvedOf definitions ahead
  | .usage _ name instead span => (Term.usage name instead span).unresolved definitions
  | .chase _ | .fallback _ => []

/-- A call for a declaration warns about its own usages in their order. -/
theorem Calls.raised (run : Calls pass before call answer after)
    (outside : call.context = .declaration) :
    after = before.raise (pass.warnings (call.unresolved pass.definitions)) := by
  induction run with
  | inDefinition isIn =>
      obtain rfl : _ = Context.declaration := outside
      cases isIn
  | done _ => rw [Call.unresolved, unresolvedOf, warnings_nil, State.raise_nil]
  | kept _ kept _ rest =>
      simp only [rest outside, Call.unresolved, unresolvedOf, kept.unresolved, List.nil_append]
  | arguments _ _ _ inside rest | splice _ _ _ inside rest =>
      rw [rest outside, inside outside, State.raise_raise, ← warnings_append]
      rfl
  | argumentsCycle _ insideRun _ | spliceCycle _ insideRun _ =>
      obtain rfl : _ = Context.declaration := outside
      obtain ⟨_, answered⟩ := insideRun.exists_ok rfl
      cases answered
  | defined defined run _ | definedCycle defined run _ =>
      rw [run.state_eq rfl, Call.unresolved, warnings_unresolved_defined defined, State.raise_nil]
  | definedFallback defined run fallbackRun _ _ =>
      rw [fallbackRun.state_eq rfl, run.state_eq rfl, Call.unresolved,
        warnings_unresolved_defined defined, State.raise_nil]
  | undefinedFallback _ run _ =>
      rw [run.state_eq rfl, Call.unresolved, warnings_unresolved_fallback, State.raise_nil]
  | undefined undefined =>
      obtain rfl : _ = Context.declaration := outside
      rw [Call.unresolved, warnings_unresolved_undefined undefined]
      simp [usageWarnings, Context.declaration]
  | again | follow | fallback => cases outside

end Outside

/-! Every call comes back. -/

section Answered

/-- A call comes back from wherever these names are being looked up. -/
def Answers (pass : Pass) (chasing : List Text) (call : Call) : Prop :=
  ∀ messages, ∃ answer after, Calls pass ⟨chasing, messages⟩ call answer after

/-- All defined names can be looked up. -/
def AnswersAll (pass : Pass) (chasing : List Text) : Prop :=
  ∀ name d, pass.definitions.get? name = some d → pass.Answers chasing (.chase d)

variable {chasing : List Text}

/-- A state after a call is one in which the same names are being looked up. -/
theorem Answers.next {next : Call} (answers : pass.Answers chasing next)
    (run : Calls pass before call answer after) (same : before.chasing = chasing) :
    ∃ answer last, Calls pass after next answer last := by
  obtain ⟨chasing', messages⟩ := after
  obtain rfl : chasing' = chasing := run.chasing_eq.trans same
  exact answers messages

theorem AnswersAll.usage {context : Context} {name : Text} {fallback : Option Term} {span : Span}
    (answersAll : pass.AnswersAll chasing)
    (fallbackAnswers : ∀ term ∈ fallback, pass.Answers chasing (.fallback term)) :
    pass.Answers chasing (.usage context name fallback span) := by
  intro messages
  cases defined : pass.definitions.get? name with
  | none =>
      cases fallback with
      | none => exact ⟨_, _, .undefined defined⟩
      | some fallback =>
          obtain ⟨answer, after, run⟩ := fallbackAnswers fallback rfl messages
          exact ⟨_, _, .undefinedFallback defined run⟩
  | some d =>
      obtain ⟨answer, after, run⟩ := answersAll name d defined messages
      cases answer with
      | ok terms => exact ⟨_, _, .defined defined run⟩
      | cycle left =>
          cases fallback with
          | none => exact ⟨_, _, .definedCycle defined run⟩
          | some fallback =>
              obtain ⟨_, _, fallbackRun⟩ := (fallbackAnswers fallback rfl).next run rfl
              exact ⟨_, _, .definedFallback defined run fallbackRun⟩

theorem Answers.splice {context : Context} {name : Text} {fallback : Option Term} {span : Span}
    {passed ahead : List Term} (entered : context.inDefinition = false)
    (answers : pass.Answers chasing (.usage context name fallback span))
    (rest : ∀ passed, pass.Answers chasing (.terms context passed ahead)) :
    pass.Answers chasing (.terms context passed (.usage name fallback span :: ahead)) := by
  intro messages
  obtain ⟨answer, middle, run⟩ := answers messages
  cases answer with
  | ok replacement =>
      obtain ⟨_, _, restRun⟩ := (rest _).next run rfl
      exact ⟨_, _, .splice entered run restRun⟩
  | cycle left => exact ⟨_, _, .spliceCycle entered run⟩

mutual

/-- A row comes back if it does with its first term passed. -/
theorem AnswersAll.term (answersAll : pass.AnswersAll chasing) {context : Context}
    (entered : context.inDefinition = false) {ahead : List Term} : ∀ term : Term,
    (∀ passed, pass.Answers chasing (.terms context passed ahead)) →
      ∀ passed, pass.Answers chasing (.terms context passed (term :: ahead))
  | .literal _ _, rest, passed, messages
  | .url _ _, rest, passed, messages
  | .operator _ _, rest, passed, messages => by
      obtain ⟨_, _, run⟩ := rest (passed ++ [_]) messages
      exact ⟨_, _, .kept entered trivial run⟩
  | .call name arguments argumentsSpan span, rest, passed, messages => by
      obtain ⟨answer, middle, run⟩ := answersAll.terms context entered arguments [] messages
      cases answer with
      | ok results =>
          obtain ⟨_, _, restRun⟩ := (rest _).next run rfl
          exact ⟨_, _, .arguments entered run restRun⟩
      | cycle left => exact ⟨_, _, .argumentsCycle entered run⟩
  | .usage name none span, rest, passed, messages => by
      refine (answersAll.usage ?_).splice entered rest messages
      exact nofun
  | .usage name (some fallback) span, rest, passed, messages => by
      have done : ∀ passed, pass.Answers chasing (.terms .chase passed []) :=
        fun passed messages => ⟨_, _, .done rfl⟩
      refine (answersAll.usage ?_).splice entered rest messages
      rintro _ ⟨⟩ messages
      obtain ⟨_, _, run⟩ := answersAll.term rfl fallback done [] messages
      exact ⟨_, _, .fallback run⟩

theorem AnswersAll.terms (answersAll : pass.AnswersAll chasing) (context : Context)
    (entered : context.inDefinition = false) : ∀ ahead passed : List Term,
    pass.Answers chasing (.terms context passed ahead)
  | [], _, _ => ⟨_, _, .done entered⟩
  | term :: rest, passed, messages =>
      answersAll.term entered term (answersAll.terms context entered rest) passed messages

end

theorem AnswersAll.fallback (answersAll : pass.AnswersAll chasing) (term : Term) :
    pass.Answers chasing (.fallback term) := by
  intro messages
  obtain ⟨_, _, run⟩ := answersAll.terms .chase rfl [term] [] messages
  exact ⟨_, _, .fallback run⟩

theorem AnswersAll.follow {d : Definition} (answersAll : pass.AnswersAll (d.name :: chasing))
    (fresh : d.name ∉ chasing) : pass.Answers chasing (.chase d) := by
  intro messages
  obtain ⟨_, _, run⟩ := answersAll.terms .chase rfl d.value.terms [] messages
  exact ⟨_, _, .follow fresh run⟩

theorem answersAll (chasing : List Text) : pass.AnswersAll chasing := by
  intro name
  -- A name that is followed joins those being looked up, so fewer definitions are left outside.
  induction chasing, name using Definitions.chase.induct pass.definitions with
  | case1 chasing name undefined =>
      intro d defined
      rw [undefined] at defined
      cases defined
  | case2 chasing name d defined again =>
      intro other same messages
      rw [← Definitions.name_of_get? same] at again
      exact ⟨_, _, .again again⟩
  | case3 chasing name d defined fresh _ inductionHypothesis
  | case4 chasing name d defined fresh _ _ inductionHypothesis =>
      intro other same
      obtain rfl := Definitions.name_of_get? same
      have inside : pass.AnswersAll (other.name :: chasing) := inductionHypothesis
      exact inside.follow fresh

theorem answers (chasing : List Text) : ∀ call : Call, pass.Answers chasing call
  | .terms context passed ahead, messages => by
      cases entered : context.inDefinition with
      | true => exact ⟨_, _, .inDefinition entered⟩
      | false => exact (answersAll chasing).terms context entered ahead passed messages
  | .usage context name fallback span, messages =>
      (answersAll chasing).usage (fun term _ => (answersAll chasing).fallback term) messages
  | .chase d, messages => by
      by_cases listed : d.name ∈ chasing
      · exact ⟨_, _, .again listed⟩
      · exact (answersAll (d.name :: chasing)).follow listed messages
  | .fallback term, messages => (answersAll chasing).fallback term messages

end Answered

end Pass

end ComponentStyles
