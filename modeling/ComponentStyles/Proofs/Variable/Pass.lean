import ComponentStyles.Proofs.Variable.Cycle
import ComponentStyles.Proofs.Variable.Following

/-!
# Resolving in one pass

The rules of a run that replaces usages where they stand and writes its warnings to a sink on the
way. The names being looked up are one set, which every lookup adds its name to and takes it from
again, so each rule says what the set and the sink are before and after.

Whether a lookup succeeds or fails, the set comes back as it was and the sink is not written to. A
run over a declaration writes the warnings about its own usages in their order. So a run over a
stylesheet ends in one way only: with the resolved stylesheet, and with its messages behind those of
the sink.
-/

namespace ComponentStyles

open Relation

/-- The terms that a name is looked up to. -/
def Chase.terms? : Chase → Option (List Term)
  | .found terms => some terms
  | _ => none

/-- What a run over a stylesheet goes by. -/
structure Pass where
  definitions : Definitions
  file : File
  reportUnresolved : Bool

namespace Pass

/-- What a run changes: the names being looked up, the latest one in front, and the messages so
far. -/
structure State where
  chasing : List Text
  messages : List Message

def unresolvedWarning (pass : Pass) (usage : Text × Span) : Message :=
  .warning .unresolvedVar ("unresolved variable var-".toList ++ usage.1) pass.file usage.2

mutual

/-- `RunsChase pass before d outcome after`: looking up the name that `d` defines. -/
inductive RunsChase (pass : Pass) : State → Definition → Option (List Term) → State → Prop where
  | again {state d} : d.name ∈ state.chasing → RunsChase pass state d none state
  | follow {before d outcome after} :
      d.name ∉ before.chasing →
      RunsTerms pass true { before with chasing := d.name :: before.chasing } d.value.terms outcome
        after →
      RunsChase pass before d outcome { after with chasing := after.chasing.erase d.name }

/-- `RunsUsage pass inChase before name fallback span outcome after`: finding what a usage stands
for. A warning is written only outside of lookups. -/
inductive RunsUsage (pass : Pass) :
    Bool → State → Text → Option Term → Span → Option (List Term) → State → Prop where
  | found {inChase before name fallback span d terms after} :
      pass.definitions.get? name = some d →
      RunsChase pass before d (some terms) after →
      RunsUsage pass inChase before name fallback span (some terms) after
  | fails {inChase before name span d after} :
      pass.definitions.get? name = some d →
      RunsChase pass before d none after →
      RunsUsage pass inChase before name none span none after
  | failsToFallback {inChase before name fallback span d middle outcome after} :
      pass.definitions.get? name = some d →
      RunsChase pass before d none middle →
      RunsTerms pass true middle [fallback] outcome after →
      RunsUsage pass inChase before name (some fallback) span outcome after
  | undefinedFallback {inChase before name fallback span outcome after} :
      pass.definitions.get? name = none →
      RunsTerms pass true before [fallback] outcome after →
      RunsUsage pass inChase before name (some fallback) span outcome after
  | reported {before name span} :
      pass.definitions.get? name = none →
      pass.reportUnresolved = true →
      RunsUsage pass false before name none span (some [])
        { before with messages := before.messages ++ [pass.unresolvedWarning (name, span)] }
  | unreported {inChase state name span} :
      pass.definitions.get? name = none →
      (inChase = true ∨ pass.reportUnresolved = false) →
      RunsUsage pass inChase state name none span (some []) state

/-- `RunsTerm pass inChase before term outcome after`: what is put in the place of a term. Outside
of lookups a usage that fails is left out. -/
inductive RunsTerm (pass : Pass) : Bool → State → Term → Option (List Term) → State → Prop where
  | literal {inChase state text span} :
      RunsTerm pass inChase state (.literal text span) (some [.literal text span]) state
  | url {inChase state target span} :
      RunsTerm pass inChase state (.url target span) (some [.url target span]) state
  | operator {inChase state op span} :
      RunsTerm pass inChase state (.operator op span) (some [.operator op span]) state
  | call {inChase before name arguments results argumentsSpan span after} :
      RunsTerms pass inChase before arguments (some results) after →
      RunsTerm pass inChase before (.call name arguments argumentsSpan span)
        (some [.call name results argumentsSpan span]) after
  | callFails {inChase before name arguments argumentsSpan span after} :
      RunsTerms pass inChase before arguments none after →
      RunsTerm pass inChase before (.call name arguments argumentsSpan span) none after
  | usage {before name fallback span outcome after} :
      RunsUsage pass false before name fallback span outcome after →
      RunsTerm pass false before (.usage name fallback span) (some (outcome.getD [])) after
  | usageInChase {before name fallback span outcome after} :
      RunsUsage pass true before name fallback span outcome after →
      RunsTerm pass true before (.usage name fallback span) outcome after

/-- `RunsTerms pass inChase before terms outcome after`: one term after the other, up to the first
that fails. -/
inductive RunsTerms (pass : Pass) :
    Bool → State → List Term → Option (List Term) → State → Prop where
  | nil {inChase state} : RunsTerms pass inChase state [] (some []) state
  | cons {inChase before term rest first middle others after} :
      RunsTerm pass inChase before term (some first) middle →
      RunsTerms pass inChase middle rest (some others) after →
      RunsTerms pass inChase before (term :: rest) (some (first ++ others)) after
  | headFails {inChase before term rest after} :
      RunsTerm pass inChase before term none after →
      RunsTerms pass inChase before (term :: rest) none after
  | tailFails {inChase before term rest first middle after} :
      RunsTerm pass inChase before term (some first) middle →
      RunsTerms pass inChase middle rest none after →
      RunsTerms pass inChase before (term :: rest) none after

end

/-- The entries of a block one after the other, from a sink on. Nothing is being looked up when the
value of a declaration is entered, and definitions are not entered. -/
inductive RunsItems (pass : Pass) :
    List Message → List Item → List Item → List Message → Prop where
  | nil {sink} : RunsItems pass sink [] [] sink
  | declaration {sink d terms after rest rest' last} :
      RunsTerms pass false ⟨[], sink⟩ d.value.terms (some terms) after →
      RunsItems pass after.messages rest rest' last →
      RunsItems pass sink (.declaration d :: rest)
        (.declaration { d with value.terms := terms } :: rest') last
  | definition {sink d rest rest' last} :
      RunsItems pass sink rest rest' last →
      RunsItems pass sink (.definition d :: rest) (.definition d :: rest') last

/-- Statements one after the other, from a sink on. -/
inductive RunsStatements (pass : Pass) :
    List Message → List Statement → List Statement → List Message → Prop where
  | nil {sink} : RunsStatements pass sink [] [] sink
  | rule {sink selectors items items' blockSpan span middle rest rest' last} :
      RunsItems pass sink items items' middle →
      RunsStatements pass middle rest rest' last →
      RunsStatements pass sink (.rule selectors ⟨items, blockSpan⟩ span :: rest)
        (.rule selectors ⟨items', blockSpan⟩ span :: rest') last
  | definition {sink d rest rest' last} :
      RunsStatements pass sink rest rest' last →
      RunsStatements pass sink (.definition d :: rest) (.definition d :: rest') last
  | importing {sink target media span rest rest' last} :
      RunsStatements pass sink rest rest' last →
      RunsStatements pass sink (.importing target media span :: rest)
        (.importing target media span :: rest') last
  | conditional {sink name condition statements statements' span middle rest rest' last} :
      RunsStatements pass sink statements statements' middle →
      RunsStatements pass middle rest rest' last →
      RunsStatements pass sink (.conditional name condition statements span :: rest)
        (.conditional name condition statements' span :: rest') last
  | declarations {sink name prelude items items' blockSpan span middle rest rest' last} :
      RunsItems pass sink items items' middle →
      RunsStatements pass middle rest rest' last →
      RunsStatements pass sink
        (.atRule name prelude (some (.declarations ⟨items, blockSpan⟩)) span :: rest)
        (.atRule name prelude (some (.declarations ⟨items', blockSpan⟩)) span :: rest') last
  | raw {sink name prelude text span rest rest' last} :
      RunsStatements pass sink rest rest' last →
      RunsStatements pass sink (.atRule name prelude (some (.raw text)) span :: rest)
        (.atRule name prelude (some (.raw text)) span :: rest') last
  | bodiless {sink name prelude span rest rest' last} :
      RunsStatements pass sink rest rest' last →
      RunsStatements pass sink (.atRule name prelude none span :: rest)
        (.atRule name prelude none span :: rest') last
  | comment {sink text span rest rest' last} :
      RunsStatements pass sink rest rest' last →
      RunsStatements pass sink (.comment text span :: rest) (.comment text span :: rest') last

variable {pass : Pass}

section Chases

variable {definitions : Definitions} {chasing : List Text} {name : Text} {d : Definition}
  {fallback : Option Term} {span : Span}

theorem terms?_chase (defined : definitions.get? name = some d) :
    (definitions.chase chasing name).terms? =
      if name ∈ chasing then none
      else substituteAll (definitions.chase (name :: chasing)) d.value.terms := by
  rw [Definitions.chase_of_defined defined]
  split
  · rfl
  · cases substituteAll (definitions.chase (name :: chasing)) d.value.terms <;> rfl

theorem substitute_usage_defined (defined : definitions.get? name = some d) :
    (Term.usage name fallback span).substitute (definitions.chase chasing) =
      (definitions.chase chasing name).terms?.or
        (fallback.bind (Term.substitute (definitions.chase chasing))) := by
  cases looked : definitions.chase chasing name with
  | found terms => exact Term.substitute_usage_found looked
  | undefined =>
      rw [Definitions.chase_eq_undefined_iff, defined] at looked
      cases looked
  | cyclic =>
      cases fallback with
      | none => exact Term.substitute_usage_cyclic looked
      | some fallback => exact Term.substitute_usage_fallback (by simp [looked])

theorem substitute_usage_undefined (undefined : definitions.get? name = none) :
    (Term.usage name none span).substitute (definitions.chase chasing) = some [] :=
  Term.substitute_usage_undefined (Definitions.chase_of_undefined undefined)

theorem substitute_usage_undefinedFallback {fallback : Term}
    (undefined : definitions.get? name = none) :
    (Term.usage name (some fallback) span).substitute (definitions.chase chasing) =
      fallback.substitute (definitions.chase chasing) :=
  Term.substitute_usage_fallback (by simp [Definitions.chase_of_undefined undefined])

theorem get?_name_of_get? (defined : definitions.get? name = some d) :
    definitions.get? d.name = some d :=
  Definitions.get?_name (Definitions.mem_of_get? defined)

theorem substituteAll_singleton (look : Text → Chase) (term : Term) :
    substituteAll look [term] = term.substitute look := by
  rw [substituteAll]
  cases term.substitute look with
  | none => rfl
  | some terms => simp [substituteAll]

end Chases

/-! In a lookup every run comes to what substitution computes, and leaves set and sink as they
were. -/

section InChase

mutual

theorem RunsChase.eq_chase : ∀ {before d outcome after},
    RunsChase pass before d outcome after → pass.definitions.get? d.name = some d →
      outcome = (pass.definitions.chase before.chasing d.name).terms? ∧ after = before
  | _, _, _, _, .again listed, defined => by
      rw [terms?_chase defined, if_pos listed]
      exact ⟨rfl, rfl⟩
  | _, _, _, _, .follow fresh run, defined => by
      obtain ⟨rfl, rfl⟩ := run.eq_substituteAll rfl
      rw [terms?_chase defined, if_neg fresh, List.erase_cons_head]
      exact ⟨rfl, rfl⟩

theorem RunsUsage.eq_substitute : ∀ {inChase before name fallback span outcome after},
    RunsUsage pass inChase before name fallback span outcome after → inChase = true →
      outcome = (Term.usage name fallback span).substitute
        (pass.definitions.chase before.chasing) ∧ after = before
  | _, _, _, _, _, _, _, .found defined run, _ => by
      obtain ⟨looked, rfl⟩ := run.eq_chase (get?_name_of_get? defined)
      rw [Definitions.name_of_get? defined] at looked
      rw [substitute_usage_defined defined, ← looked]
      exact ⟨rfl, rfl⟩
  | _, _, _, _, _, _, _, .fails defined run, _ => by
      obtain ⟨looked, rfl⟩ := run.eq_chase (get?_name_of_get? defined)
      rw [Definitions.name_of_get? defined] at looked
      rw [substitute_usage_defined defined, ← looked]
      exact ⟨rfl, rfl⟩
  | _, _, _, _, _, _, _, .failsToFallback defined run fallbackRun, _ => by
      obtain ⟨looked, rfl⟩ := run.eq_chase (get?_name_of_get? defined)
      obtain ⟨rfl, rfl⟩ := fallbackRun.eq_substituteAll rfl
      rw [Definitions.name_of_get? defined] at looked
      rw [substitute_usage_defined defined, ← looked, substituteAll_singleton]
      exact ⟨rfl, rfl⟩
  | _, _, _, _, _, _, _, .undefinedFallback undefined run, _ => by
      obtain ⟨rfl, rfl⟩ := run.eq_substituteAll rfl
      rw [substitute_usage_undefinedFallback undefined, substituteAll_singleton]
      exact ⟨rfl, rfl⟩
  | _, _, _, _, _, _, _, .reported _ _, isIn => by cases isIn
  | _, _, _, _, _, _, _, .unreported undefined _, _ =>
      ⟨(substitute_usage_undefined undefined).symm, rfl⟩

theorem RunsTerm.eq_substitute : ∀ {inChase before term outcome after},
    RunsTerm pass inChase before term outcome after → inChase = true →
      outcome = term.substitute (pass.definitions.chase before.chasing) ∧ after = before
  | _, _, _, _, _, .literal, _ => ⟨rfl, rfl⟩
  | _, _, _, _, _, .url, _ => ⟨rfl, rfl⟩
  | _, _, _, _, _, .operator, _ => ⟨rfl, rfl⟩
  | _, _, _, _, _, .call run, isIn => by
      obtain ⟨replaced, rfl⟩ := run.eq_substituteAll isIn
      rw [Term.substitute, ← replaced]
      exact ⟨rfl, rfl⟩
  | _, _, _, _, _, .callFails run, isIn => by
      obtain ⟨replaced, rfl⟩ := run.eq_substituteAll isIn
      rw [Term.substitute, ← replaced]
      exact ⟨rfl, rfl⟩
  | _, _, _, _, _, .usage _, isIn => by cases isIn
  | _, _, _, _, _, .usageInChase run, isIn => run.eq_substitute isIn

theorem RunsTerms.eq_substituteAll : ∀ {inChase before terms outcome after},
    RunsTerms pass inChase before terms outcome after → inChase = true →
      outcome = substituteAll (pass.definitions.chase before.chasing) terms ∧ after = before
  | _, _, _, _, _, .nil, _ => ⟨rfl, rfl⟩
  | _, _, _, _, _, .cons head tail, isIn => by
      obtain ⟨replaced, rfl⟩ := head.eq_substitute isIn
      obtain ⟨replacedRest, rfl⟩ := tail.eq_substituteAll isIn
      rw [substituteAll, ← replaced, ← replacedRest]
      exact ⟨rfl, rfl⟩
  | _, _, _, _, _, .headFails head, isIn => by
      obtain ⟨replaced, rfl⟩ := head.eq_substitute isIn
      rw [substituteAll, ← replaced]
      exact ⟨rfl, rfl⟩
  | _, _, _, _, _, .tailFails head tail, isIn => by
      obtain ⟨replaced, rfl⟩ := head.eq_substitute isIn
      obtain ⟨replacedRest, rfl⟩ := tail.eq_substituteAll isIn
      rw [substituteAll, ← replaced, ← replacedRest]
      exact ⟨rfl, rfl⟩

end

/-- From a state, the runs for all defined names end, and in that state. -/
def Ends (pass : Pass) (state : State) : Prop :=
  ∀ name d, pass.definitions.get? name = some d →
    RunsChase pass state d (pass.definitions.chase state.chasing name).terms? state

/-- The warnings about usages of nothing, if they are asked for. -/
def warnings (pass : Pass) (usages : List (Text × Span)) : List Message :=
  if pass.reportUnresolved then usages.map pass.unresolvedWarning else []

theorem warnings_nil : pass.warnings [] = [] :=
  ite_self _

theorem warnings_append (first later : List (Text × Span)) :
    pass.warnings (first ++ later) = pass.warnings first ++ pass.warnings later := by
  unfold warnings
  split
  · exact List.map_append
  · rfl

/-- A sink with more messages behind. -/
def State.raise (state : State) (messages : List Message) : State :=
  { state with messages := state.messages ++ messages }

theorem State.raise_nil (state : State) : state.raise [] = state := by
  rw [raise, List.append_nil]

/-- Only a usage of nothing is warned about. -/
theorem warnings_unresolved_defined {name : Text} {d : Definition} {fallback : Option Term}
    {span : Span} (defined : pass.definitions.get? name = some d) :
    pass.warnings ((Term.usage name fallback span).unresolved pass.definitions) = [] := by
  cases fallback <;> simp [Term.unresolved, Definitions.contains, defined, warnings]

theorem warnings_unresolved_fallback {name : Text} {fallback : Term} {span : Span} :
    pass.warnings ((Term.usage name (some fallback) span).unresolved pass.definitions) = [] := by
  simp [Term.unresolved, warnings]

theorem warnings_unresolved_undefined {name : Text} {span : Span}
    (undefined : pass.definitions.get? name = none) :
    pass.warnings ((Term.usage name none span).unresolved pass.definitions) =
      if pass.reportUnresolved then [pass.unresolvedWarning (name, span)] else [] := by
  simp [Term.unresolved, Definitions.contains, undefined, warnings]

/-- Finding what a usage stands for ends if the run for its fallback does. The usage is warned about
outside of lookups only. -/
theorem runsUsage_substitute {state : State} (ends : pass.Ends state) (inChase : Bool) (name : Text)
    (fallback : Option Term) (span : Span)
    (fallbackEnds : ∀ term ∈ fallback, RunsTerms pass true state [term]
      (term.substitute (pass.definitions.chase state.chasing)) state) :
    RunsUsage pass inChase state name fallback span
      ((Term.usage name fallback span).substitute (pass.definitions.chase state.chasing))
      (state.raise (if inChase then []
        else pass.warnings ((Term.usage name fallback span).unresolved pass.definitions))) := by
  cases defined : pass.definitions.get? name with
  | some d =>
      have run := ends name d defined
      rw [substitute_usage_defined defined, warnings_unresolved_defined defined, ite_self,
        State.raise_nil]
      cases looked : (pass.definitions.chase state.chasing name).terms? with
      | some terms => exact .found defined (looked ▸ run)
      | none =>
          cases fallback with
          | none => exact .fails defined (looked ▸ run)
          | some fallback => exact .failsToFallback defined (looked ▸ run) (fallbackEnds _ rfl)
  | none =>
      cases fallback with
      | some fallback =>
          rw [substitute_usage_undefinedFallback defined, warnings_unresolved_fallback, ite_self,
            State.raise_nil]
          exact .undefinedFallback defined (fallbackEnds _ rfl)
      | none =>
          rw [substitute_usage_undefined defined, warnings_unresolved_undefined defined]
          cases inChase with
          | true =>
              rw [if_pos rfl, State.raise_nil]
              exact .unreported defined (.inl rfl)
          | false =>
              rw [if_neg Bool.false_ne_true]
              cases reports : pass.reportUnresolved with
              | true => exact .reported defined reports
              | false =>
                  rw [if_neg Bool.false_ne_true, State.raise_nil]
                  exact .unreported defined (.inr reports)

mutual

theorem runsTerm_substitute {state : State} (ends : pass.Ends state) : ∀ term : Term,
    RunsTerm pass true state term (term.substitute (pass.definitions.chase state.chasing)) state
  | .literal _ _ => .literal
  | .url _ _ => .url
  | .operator _ _ => .operator
  | .call _ arguments _ _ => by
      have run := runsTerms_substituteAll ends arguments
      rw [Term.substitute]
      cases replaced : substituteAll (pass.definitions.chase state.chasing) arguments with
      | none => exact .callFails (replaced ▸ run)
      | some results => exact .call (replaced ▸ run)
  | .usage name none span => by
      have run := runsUsage_substitute ends true name none span nofun
      rw [if_pos rfl, State.raise_nil] at run
      exact .usageInChase run
  | .usage name (some fallback) span => by
      have fallbackRun := runsTerm_substitute ends fallback
      have run := runsUsage_substitute ends true name (some fallback) span ?_
      · rw [if_pos rfl, State.raise_nil] at run
        exact .usageInChase run
      rintro _ ⟨⟩
      cases replaced : fallback.substitute (pass.definitions.chase state.chasing) with
      | none => exact .headFails (replaced ▸ fallbackRun)
      | some terms =>
          rw [← List.append_nil terms]
          exact .cons (replaced ▸ fallbackRun) .nil

theorem runsTerms_substituteAll {state : State} (ends : pass.Ends state) : ∀ terms : List Term,
    RunsTerms pass true state terms (substituteAll (pass.definitions.chase state.chasing) terms)
      state
  | [] => .nil
  | term :: rest => by
      have head := runsTerm_substitute ends term
      have tail := runsTerms_substituteAll ends rest
      rw [substituteAll]
      cases replaced : term.substitute (pass.definitions.chase state.chasing) with
      | none => exact .headFails (replaced ▸ head)
      | some first =>
          cases replacedRest : substituteAll (pass.definitions.chase state.chasing) rest with
          | none => exact .tailFails (replaced ▸ head) (replacedRest ▸ tail)
          | some others => exact .cons (replaced ▸ head) (replacedRest ▸ tail)

end

theorem ends (state : State) : pass.Ends state := by
  obtain ⟨chasing, messages⟩ := state
  intro name
  -- A name that is followed joins those being looked up, so fewer definitions are left outside.
  induction chasing, name using Definitions.chase.induct pass.definitions with
  | case1 chasing name undefined =>
      intro d defined
      rw [undefined] at defined
      cases defined
  | case2 chasing name d defined again =>
      intro other same
      obtain rfl := Option.some.inj (defined.symm.trans same)
      rw [terms?_chase defined, if_pos again]
      exact .again (by rwa [Definitions.name_of_get? defined])
  | case3 chasing name d defined fresh _ inductionHypothesis
  | case4 chasing name d defined fresh _ _ inductionHypothesis =>
      intro other same
      obtain rfl := Option.some.inj (defined.symm.trans same)
      obtain rfl := Definitions.name_of_get? defined
      -- The run for the terms gives back the set it was given, which the name is then taken from.
      have inside : pass.Ends ⟨d.name :: chasing, messages⟩ := inductionHypothesis
      have followed : RunsChase pass ⟨chasing, messages⟩ d _ _ :=
        .follow fresh (runsTerms_substituteAll inside d.value.terms)
      rw [terms?_chase defined, if_neg fresh]
      rwa [List.erase_cons_head] at followed

end InChase

/-! Outside of lookups a run warns about the usages of a term. -/

section Outside

theorem State.raise_raise (state : State) (first later : List Message) :
    (state.raise first).raise later = state.raise (first ++ later) := by
  rw [raise, raise, raise, List.append_assoc]

/-- A run outside of lookups starts where nothing is being looked up. -/
def State.Idle (state : State) : Prop :=
  state.chasing = []

theorem runsTerm_silent {state : State} {term : Term} {outcome : Option (List Term)}
    (run : RunsTerm pass false state term outcome state)
    (silent : term.unresolved pass.definitions = []) :
    RunsTerm pass false state term outcome
      (state.raise (pass.warnings (term.unresolved pass.definitions))) := by
  rwa [silent, warnings_nil, State.raise_nil]

mutual

theorem runsTerm_resolve : ∀ (term : Term) {state : State}, state.Idle →
    RunsTerm pass false state term (some (term.resolve pass.definitions))
      (state.raise (pass.warnings (term.unresolved pass.definitions)))
  | .literal _ _, _, _ => runsTerm_silent .literal rfl
  | .url _ _, _, _ => runsTerm_silent .url rfl
  | .operator _ _, _, _ => runsTerm_silent .operator rfl
  | .call _ arguments _ _, _, idle => .call (runsTerms_resolveAll arguments idle)
  | .usage name fallback span, state, idle => by
      have run := runsUsage_substitute (pass.ends state) false name fallback span fun term _ => ?_
      · rw [idle, if_neg Bool.false_ne_true] at run
        exact .usage run
      · rw [← substituteAll_singleton]
        exact runsTerms_substituteAll (pass.ends state) [term]

theorem runsTerms_resolveAll : ∀ (terms : List Term) {state : State}, state.Idle →
    RunsTerms pass false state terms (some (resolveAll pass.definitions terms))
      (state.raise (pass.warnings (unresolvedOf pass.definitions terms)))
  | [], state, _ => by
      rw [unresolvedOf, warnings_nil, State.raise_nil]
      exact .nil
  | term :: rest, state, idle => by
      rw [unresolvedOf, warnings_append, ← State.raise_raise]
      exact .cons (runsTerm_resolve term idle) (runsTerms_resolveAll rest idle)

end

section Usages

variable {before after : State} {name : Text} {fallback : Option Term} {span : Span}
  {outcome : Option (List Term)}

/-- Where a usage is not warned about, the rules are those inside of lookups. -/
theorem RunsUsage.eq_of_silent (run : RunsUsage pass true before name fallback span outcome after)
    (silent : pass.warnings ((Term.usage name fallback span).unresolved pass.definitions) = []) :
    outcome = (Term.usage name fallback span).substitute (pass.definitions.chase before.chasing) ∧
      after = before.raise
        (pass.warnings ((Term.usage name fallback span).unresolved pass.definitions)) := by
  rw [silent, State.raise_nil]
  exact run.eq_substitute rfl

theorem RunsUsage.eq_outside
    (run : RunsUsage pass false before name fallback span outcome after) :
    outcome = (Term.usage name fallback span).substitute (pass.definitions.chase before.chasing) ∧
      after = before.raise
        (pass.warnings ((Term.usage name fallback span).unresolved pass.definitions)) := by
  cases run with
  | found defined run =>
      exact (RunsUsage.found defined run).eq_of_silent (warnings_unresolved_defined defined)
  | fails defined run =>
      exact (RunsUsage.fails defined run).eq_of_silent (warnings_unresolved_defined defined)
  | failsToFallback defined run fallbackRun =>
      exact (RunsUsage.failsToFallback defined run fallbackRun).eq_of_silent
        warnings_unresolved_fallback
  | undefinedFallback undefined run =>
      exact (RunsUsage.undefinedFallback undefined run).eq_of_silent warnings_unresolved_fallback
  | reported undefined reports =>
      rw [substitute_usage_undefined undefined, warnings_unresolved_undefined undefined,
        if_pos reports]
      exact ⟨rfl, rfl⟩
  | unreported undefined silent =>
      have unasked : pass.reportUnresolved = false := silent.resolve_left Bool.false_ne_true
      refine (RunsUsage.unreported undefined (.inl rfl)).eq_of_silent ?_
      rw [warnings_unresolved_undefined undefined, unasked, if_neg Bool.false_ne_true]

end Usages

mutual

theorem RunsTerm.eq_resolve : ∀ {inChase before term outcome after},
    RunsTerm pass inChase before term outcome after → inChase = false → before.Idle →
      outcome = some (term.resolve pass.definitions) ∧
        after = before.raise (pass.warnings (term.unresolved pass.definitions))
  | _, _, _, _, _, .literal, _, _ => ⟨rfl, by simp [Term.unresolved, warnings, State.raise_nil]⟩
  | _, _, _, _, _, .url, _, _ => ⟨rfl, by simp [Term.unresolved, warnings, State.raise_nil]⟩
  | _, _, _, _, _, .operator, _, _ => ⟨rfl, by simp [Term.unresolved, warnings, State.raise_nil]⟩
  | _, _, _, _, _, .call run, outside, idle => by
      obtain ⟨resolved, rfl⟩ := run.eq_resolveAll outside idle
      obtain rfl := Option.some.inj resolved
      exact ⟨rfl, rfl⟩
  | _, _, _, _, _, .callFails run, outside, idle => by
      obtain ⟨resolved, _⟩ := run.eq_resolveAll outside idle
      cases resolved
  | _, _, _, _, _, .usage run, _, idle => by
      obtain ⟨rfl, rfl⟩ := run.eq_outside
      rw [idle, Term.resolve_usage]
      exact ⟨rfl, rfl⟩
  | _, _, _, _, _, .usageInChase _, outside, _ => by cases outside

theorem RunsTerms.eq_resolveAll : ∀ {inChase before terms outcome after},
    RunsTerms pass inChase before terms outcome after → inChase = false → before.Idle →
      outcome = some (resolveAll pass.definitions terms) ∧
        after = before.raise (pass.warnings (unresolvedOf pass.definitions terms))
  | _, _, _, _, _, .nil, _, _ => ⟨rfl, by simp [unresolvedOf, warnings, State.raise_nil]⟩
  | _, _, _, _, _, .cons head tail, outside, idle => by
      obtain ⟨resolved, rfl⟩ := head.eq_resolve outside idle
      obtain ⟨resolvedRest, rfl⟩ := tail.eq_resolveAll outside idle
      obtain rfl := Option.some.inj resolved
      obtain rfl := Option.some.inj resolvedRest
      rw [unresolvedOf, warnings_append, State.raise_raise]
      exact ⟨rfl, rfl⟩
  | _, _, _, _, _, .headFails head, outside, idle => by
      obtain ⟨resolved, _⟩ := head.eq_resolve outside idle
      cases resolved
  | _, _, _, _, _, .tailFails head tail, outside, idle => by
      obtain ⟨_, rfl⟩ := head.eq_resolve outside idle
      obtain ⟨resolved, _⟩ := tail.eq_resolveAll outside idle
      cases resolved

end

/-- Outside of lookups no run fails, and it comes to the resolved terms and the warnings about their
usages. -/
theorem runsTerms_iff {sink : List Message} {terms : List Term} {outcome : Option (List Term)}
    {after : State} :
    RunsTerms pass false ⟨[], sink⟩ terms outcome after ↔
      outcome = some (resolveAll pass.definitions terms) ∧
        after = ⟨[], sink ++ pass.warnings (unresolvedOf pass.definitions terms)⟩ := by
  constructor
  · intro run
    exact run.eq_resolveAll rfl rfl
  · rintro ⟨rfl, rfl⟩
    have idle : State.Idle ⟨[], sink⟩ := rfl
    exact runsTerms_resolveAll terms idle

end Outside

section Statements

/-- The usages of nothing in the declarations among some entries. -/
def unresolvedIn (pass : Pass) (items : List Item) : List (Text × Span) :=
  (items.filterMap Item.declaration?).flatMap fun d => unresolvedOf pass.definitions d.value.terms

theorem unresolvedIn_append (first later : List Item) :
    pass.unresolvedIn (first ++ later) = pass.unresolvedIn first ++ pass.unresolvedIn later := by
  rw [unresolvedIn, List.filterMap_append, List.flatMap_append, unresolvedIn, unresolvedIn]

/-- The sink after a run over some entries. -/
def reported (pass : Pass) (sink : List Message) (items : List Item) : List Message :=
  sink ++ pass.warnings (pass.unresolvedIn items)

theorem reported_nil (sink : List Message) : pass.reported sink [] = sink := by
  rw [reported, unresolvedIn, List.filterMap_nil, List.flatMap_nil, warnings_nil, List.append_nil]

theorem reported_append (sink : List Message) (first later : List Item) :
    pass.reported sink (first ++ later) = pass.reported (pass.reported sink first) later := by
  rw [reported, unresolvedIn_append, warnings_append, ← List.append_assoc, ← reported, ← reported]

theorem reported_declaration (sink : List Message) (d : Declaration) (rest : List Item) :
    pass.reported sink (.declaration d :: rest) =
      pass.reported (sink ++ pass.warnings (unresolvedOf pass.definitions d.value.terms)) rest := by
  have inFront : pass.unresolvedIn (.declaration d :: rest) =
      unresolvedOf pass.definitions d.value.terms ++ pass.unresolvedIn rest := rfl
  rw [reported, inFront, warnings_append, ← List.append_assoc, ← reported]

theorem runsItems_iff {sink last : List Message} {items items' : List Item} :
    RunsItems pass sink items items' last ↔
      items' = items.map (Item.mapTerms (resolveAll pass.definitions) id) ∧
        last = pass.reported sink items := by
  constructor
  · intro run
    induction run with
    | nil => exact ⟨rfl, (reported_nil _).symm⟩
    | declaration run _ inductionHypothesis =>
        obtain ⟨resolved, rfl⟩ := runsTerms_iff.mp run
        obtain rfl := Option.some.inj resolved
        obtain ⟨rfl, rfl⟩ := inductionHypothesis
        rw [reported_declaration]
        exact ⟨rfl, rfl⟩
    | definition _ inductionHypothesis =>
        obtain ⟨rfl, rfl⟩ := inductionHypothesis
        exact ⟨rfl, rfl⟩
  · rintro ⟨rfl, rfl⟩
    induction items generalizing sink with
    | nil =>
        rw [reported_nil]
        exact .nil
    | cons item rest inductionHypothesis =>
        cases item with
        | definition d => exact .definition inductionHypothesis
        | declaration d =>
            rw [reported_declaration]
            exact .declaration (runsTerms_iff.mpr ⟨rfl, rfl⟩) inductionHypothesis

theorem RunsStatements.eq_resolve {sink last : List Message}
    {statements statements' : List Statement}
    (run : RunsStatements pass sink statements statements' last) :
    statements' = mapTermsOf (resolveAll pass.definitions) id statements ∧
      last = pass.reported sink (itemsOf statements) := by
  induction run with
  | nil => exact ⟨rfl, (reported_nil _).symm⟩
  | rule run _ inductionHypothesis
  | declarations run _ inductionHypothesis =>
      obtain ⟨rfl, rfl⟩ := runsItems_iff.mp run
      obtain ⟨rfl, rfl⟩ := inductionHypothesis
      exact ⟨rfl, (reported_append _ _ _).symm⟩
  | conditional _ _ inside inductionHypothesis =>
      obtain ⟨rfl, rfl⟩ := inside
      obtain ⟨rfl, rfl⟩ := inductionHypothesis
      exact ⟨rfl, (reported_append _ _ _).symm⟩
  | definition _ inductionHypothesis
  | importing _ inductionHypothesis
  | raw _ inductionHypothesis
  | bodiless _ inductionHypothesis
  | comment _ inductionHypothesis =>
      obtain ⟨rfl, rfl⟩ := inductionHypothesis
      exact ⟨rfl, rfl⟩

theorem runsStatements_resolve (sink : List Message) : ∀ statements : List Statement,
    RunsStatements pass sink statements (mapTermsOf (resolveAll pass.definitions) id statements)
      (pass.reported sink (itemsOf statements))
  | [] => by
      rw [itemsOf, reported_nil]
      exact .nil
  | .rule _ block _ :: rest => by
      rw [itemsOf, reported_append]
      exact .rule (runsItems_iff.mpr ⟨rfl, rfl⟩) (runsStatements_resolve _ rest)
  | .definition _ :: rest => .definition (runsStatements_resolve sink rest)
  | .importing _ _ _ :: rest => .importing (runsStatements_resolve sink rest)
  | .conditional _ _ statements _ :: rest => by
      rw [itemsOf, reported_append]
      exact .conditional (runsStatements_resolve sink statements) (runsStatements_resolve _ rest)
  | .atRule _ _ none _ :: rest => .bodiless (runsStatements_resolve sink rest)
  | .atRule _ _ (some (.declarations block)) _ :: rest => by
      rw [itemsOf, reported_append]
      exact .declarations (runsItems_iff.mpr ⟨rfl, rfl⟩) (runsStatements_resolve _ rest)
  | .atRule _ _ (some (.raw _)) _ :: rest => .raw (runsStatements_resolve sink rest)
  | .comment _ _ :: rest => .comment (runsStatements_resolve sink rest)

end Statements

section Cycles

def cycleWarning (pass : Pass) (d : Definition) : Message :=
  .warning .varCycle ("var cycle detected var-".toList ++ d.name) pass.file d.span

/-- The search for cycles, one definition after the other and from a sink on. -/
inductive RunsCycles (pass : Pass) : List Message → List Definition → List Message → Prop where
  | nil {sink} : RunsCycles pass sink [] sink
  | cyclic {sink d rest last} :
      TransGen pass.definitions.Refers d.name d.name →
      RunsCycles pass (sink ++ [pass.cycleWarning d]) rest last →
      RunsCycles pass sink (d :: rest) last
  | acyclic {sink d rest last} :
      ¬ TransGen pass.definitions.Refers d.name d.name →
      RunsCycles pass sink rest last →
      RunsCycles pass sink (d :: rest) last

theorem runsCycles_iff {sink last : List Message} {ds : List Definition} :
    RunsCycles pass sink ds last ↔
      last = sink ++ (ds.filter fun d => TransGen pass.definitions.Refers d.name d.name).map
        pass.cycleWarning := by
  constructor
  · intro run
    induction run with
    | nil => simp
    | cyclic cyclic _ inductionHypothesis => simp [inductionHypothesis, cyclic]
    | acyclic acyclic _ inductionHypothesis => simp [inductionHypothesis, acyclic]
  · rintro rfl
    induction ds generalizing sink with
    | nil =>
        rw [List.filter_nil, List.map_nil, List.append_nil]
        exact .nil
    | cons d rest inductionHypothesis =>
        by_cases cyclic : TransGen pass.definitions.Refers d.name d.name
        · refine .cyclic cyclic ?_
          have later : RunsCycles pass (sink ++ [pass.cycleWarning d]) rest _ := inductionHypothesis
          simpa [cyclic] using later
        · refine .acyclic cyclic ?_
          simpa [cyclic] using inductionHypothesis

end Cycles

end Pass

/-- A run over a stylesheet from a sink on: the search for cycles first, then the statements. -/
inductive Stylesheet.Runs (definitions : Definitions) (reportUnresolved : Bool)
    (sheet : Stylesheet) : List Message → Stylesheet → List Message → Prop where
  | intro {sink middle statements last} :
      Pass.RunsCycles ⟨definitions, sheet.file, reportUnresolved⟩ sink definitions.toList middle →
      Pass.RunsStatements ⟨definitions, sheet.file, reportUnresolved⟩ middle sheet.statements
        statements last →
      Stylesheet.Runs definitions reportUnresolved sheet sink { sheet with statements } last

/-- A run ends in one way only: with the resolved stylesheet, and with its messages behind those of
the sink. -/
theorem Stylesheet.runs_iff {definitions : Definitions} {reportUnresolved : Bool}
    {sheet resolved : Stylesheet} {sink last : List Message} :
    sheet.Runs definitions reportUnresolved sink resolved last ↔
      resolved = sheet.resolve definitions ∧
        last = sink ++ sheet.variableMessages definitions reportUnresolved := by
  let pass : Pass := ⟨definitions, sheet.file, reportUnresolved⟩
  have sameMessages :
      pass.reported (sink ++ (definitions.toList.filter fun d =>
          TransGen definitions.Refers d.name d.name).map pass.cycleWarning)
          (itemsOf sheet.statements) =
        sink ++ sheet.variableMessages definitions reportUnresolved := by
    rw [Stylesheet.variableMessages, sheet.cycleMessages_eq, ← List.append_assoc]
    rfl
  constructor
  · rintro ⟨cycles, run⟩
    obtain rfl := Pass.runsCycles_iff.mp cycles
    obtain ⟨rfl, rfl⟩ := run.eq_resolve
    exact ⟨rfl, sameMessages⟩
  · rintro ⟨rfl, rfl⟩
    rw [← sameMessages]
    exact ⟨Pass.runsCycles_iff.mpr rfl, Pass.runsStatements_resolve _ sheet.statements⟩

end ComponentStyles
