import ComponentStyles.Proofs.Variable.Splicing

/-!
# Where resolved terms come from

A declaration comes out with pieces of its own terms, fallbacks included, and of the definitions that
were followed for it. A lookup that fails keeps failing when more names are being looked up. So a
definition that cannot be followed from a declaration is followed nowhere on the way either, and
nothing of it is left there.
-/

namespace ComponentStyles

variable {definitions : Definitions}

mutual

/-- What a term can leave in a resolved value: its literals, urls, separators and calls. A call
stands for itself, without its arguments. -/
def Term.pieces : Term → List Term
  | .usage _ fallback _ =>
      match fallback with
      | some fallback => fallback.pieces
      | none => []
  | .call name arguments argumentsSpan span =>
      .call name [] argumentsSpan span :: piecesOf arguments
  | term => [term]

def piecesOf : List Term → List Term
  | [] => []
  | term :: rest => term.pieces ++ piecesOf rest

end

@[simp] theorem piecesOf_append (first second : List Term) :
    piecesOf (first ++ second) = piecesOf first ++ piecesOf second := by
  induction first with
  | nil => rfl
  | cons term rest inductionHypothesis =>
      rw [List.cons_append, piecesOf, inductionHypothesis, piecesOf, List.append_assoc]

theorem piecesOf_singleton (term : Term) : piecesOf [term] = term.pieces := by
  rw [piecesOf, piecesOf, List.append_nil]

section Failing

variable {look later : Text → Chase}

/-- What fails or is undefined where names are looked up first is so later too. -/
structure FailsOn (look later : Text → Chase) : Prop where
  cyclic : ∀ name, look name = .cyclic → later name = .cyclic
  undefined : ∀ name, look name = .undefined → later name = .undefined

mutual

theorem Term.substitute_eq_none_of_failsOn (fails : FailsOn look later) : ∀ term : Term,
    term.substitute look = none → term.substitute later = none
  | .literal _ _, failed | .url _ _, failed | .operator _ _, failed => nomatch failed
  | .call _ arguments _ _, failed => by
      rw [Term.substitute, Option.map_eq_none_iff] at failed ⊢
      exact substituteAll_eq_none_of_failsOn fails arguments failed
  | .usage name none span, failed => by
      cases looked : look name with
      | cyclic => exact Term.substitute_usage_cyclic (fails.cyclic name looked)
      | undefined =>
          rw [Term.substitute_usage_undefined looked] at failed
          cases failed
      | found terms =>
          rw [Term.substitute_usage_found looked] at failed
          cases failed
  | .usage name (some fallback) span, failed => by
      cases looked : look name with
      | cyclic | undefined =>
          rw [Term.substitute_usage_fallback (by simp [looked])] at failed
          have failedLater := fallback.substitute_eq_none_of_failsOn fails failed
          have lookedLater : later name = look name := by
            rw [looked]
            first | exact fails.cyclic name looked | exact fails.undefined name looked
          rwa [Term.substitute_usage_fallback (by simp [lookedLater, looked])]
      | found terms =>
          rw [Term.substitute_usage_found looked] at failed
          cases failed

theorem substituteAll_eq_none_of_failsOn (fails : FailsOn look later) : ∀ terms : List Term,
    substituteAll look terms = none → substituteAll later terms = none
  | [], failed => nomatch failed
  | term :: rest, failed => by
      cases replaced : term.substitute look with
      | none =>
          rw [substituteAll, term.substitute_eq_none_of_failsOn fails replaced]
      | some first =>
          rw [substituteAll, replaced, Option.map_eq_none_iff] at failed
          rw [substituteAll, substituteAll_eq_none_of_failsOn fails rest failed]
          cases term.substitute later <;> rfl

end

end Failing

namespace Definitions

/-- A lookup that fails still does when more names are being looked up. -/
theorem failsOn_chase {chasing more : List Text} (subset : chasing ⊆ more) :
    FailsOn (definitions.chase chasing) (definitions.chase more) := by
  constructor
  · intro name
    induction chasing, name using chase.induct definitions generalizing more with
    | case1 chasing name undefined =>
        intro cyclic
        rw [chase_of_undefined undefined] at cyclic
        cases cyclic
    | case2 chasing name d defined again =>
        intro _
        exact chase_of_again defined (subset again)
    | case3 chasing name d defined fresh failed inductionHypothesis =>
        intro _
        by_cases again : name ∈ more
        · exact chase_of_again defined again
        · have fails : FailsOn (definitions.chase (name :: chasing))
              (definitions.chase (name :: more)) := by
            constructor
            · exact fun target => inductionHypothesis target (List.cons_subset_cons name subset)
            · intro target undefined
              apply chase_of_undefined
              exact (chase_eq_undefined_iff _).mp undefined
          exact chase_of_failed defined again
            (substituteAll_eq_none_of_failsOn fails d.value.terms failed)
    | case4 chasing name d defined fresh terms replaced inductionHypothesis =>
        intro cyclic
        rw [chase_of_replaced defined fresh replaced] at cyclic
        cases cyclic
  · intro name undefined
    apply chase_of_undefined
    exact (chase_eq_undefined_iff chasing).mp undefined

end Definitions

namespace Pass

variable {pass : Pass} {before after : State} {call : Call} {answer : Answer}

/-! Whatever comes back from a call has stood in it, or in a definition that can be followed. -/

section Origin

variable {d : Definition}

/-- What stands in a call. -/
def Call.pieces : Call → List Term
  | .terms _ passed ahead => piecesOf passed ++ piecesOf ahead
  | .usage _ name instead span => (Term.usage name instead span).pieces
  | .chase d => piecesOf d.value.terms
  | .fallback term => term.pieces

/-- A definition that has been followed while more names were being looked up can be followed. -/
theorem Calls.chase_ne_cyclic {names : List Text} {name : Text} {terms : List Term}
    (run : Calls pass before (.chase d) (.ok terms) after) (subset : names ⊆ before.chasing)
    (defined : pass.definitions.get? name = some d) :
    pass.definitions.chase names d.name ≠ .cyclic := by
  intro cyclic
  obtain rfl := Definitions.name_of_get? defined
  have found := run.found rfl
  rw [Call.found?_chase defined, (Definitions.failsOn_chase subset).cyclic d.name cyclic] at found
  cases found

variable {Allowed : Term → Prop} {names : List Text}

theorem Call.allowed_terms_append {context : Context} {passed first ahead : List Term} {term : Term}
    (own : ∀ piece ∈ (Call.terms context passed (term :: ahead)).pieces, Allowed piece)
    (replaced : (∀ piece ∈ term.pieces, Allowed piece) → ∀ piece ∈ piecesOf first, Allowed piece) :
    ∀ piece ∈ (Call.terms context (passed ++ first) ahead).pieces, Allowed piece := by
  simp only [pieces, piecesOf, piecesOf_append, List.forall_mem_append] at own ⊢
  exact ⟨⟨own.1, replaced own.2.1⟩, own.2.2⟩

/-- What is allowed of a call and of the definitions that can be followed is allowed of what comes
back. -/
theorem Calls.allowed
    (followed : ∀ d ∈ pass.definitions.toList, pass.definitions.chase names d.name ≠ .cyclic →
      ∀ piece ∈ piecesOf d.value.terms, Allowed piece)
    (run : Calls pass before call answer after) (subset : names ⊆ before.chasing)
    (own : ∀ piece ∈ call.pieces, Allowed piece) {terms : List Term} (answered : answer = .ok terms) :
    ∀ piece ∈ piecesOf terms, Allowed piece := by
  induction run generalizing terms with
  | inDefinition _ =>
      obtain rfl := Answer.ok.inj answered
      rwa [piecesOf_append]
  | done _ =>
      obtain rfl := Answer.ok.inj answered
      intro piece listed
      exact own piece (List.mem_append_left _ listed)
  | kept _ _ _ rest =>
      refine rest subset (Call.allowed_terms_append own fun allowed => ?_) answered
      rwa [piecesOf_singleton]
  | arguments _ insideRun _ inside rest =>
      refine rest (insideRun.chasing_eq ▸ subset) ?_ answered
      refine Call.allowed_terms_append own fun allowed => ?_
      -- The call itself is kept, and its arguments are a row of their own.
      rw [piecesOf_singleton]
      rw [Term.pieces, List.forall_mem_cons] at allowed ⊢
      exact ⟨allowed.1, inside subset allowed.2 rfl⟩
  | splice _ insideRun _ inside rest =>
      refine rest (insideRun.chasing_eq ▸ subset) ?_ answered
      exact Call.allowed_terms_append own fun allowed => inside subset allowed rfl
  | argumentsCycle | spliceCycle | again => cases answered
  | defined defined run inside =>
      rcases Context.eq_of_settle answered with same | rfl
      · obtain rfl := Answer.ok.inj same
        have listed := Definitions.mem_of_get? defined
        exact inside subset (followed _ listed (run.chase_ne_cyclic subset defined)) rfl
      · exact nofun
  | definedCycle _ _ _ =>
      rcases Context.eq_of_settle answered with same | rfl
      · cases same
      · exact nofun
  | definedFallback _ run _ _ rest =>
      rcases Context.eq_of_settle answered with same | rfl
      · exact rest (run.chasing_eq ▸ subset) own same
      · exact nofun
  | undefinedFallback _ _ inside =>
      rcases Context.eq_of_settle answered with same | rfl
      · exact inside subset own same
      · exact nofun
  | undefined _ =>
      rcases Context.eq_of_settle answered with same | rfl
      · obtain rfl := Answer.ok.inj same
        exact nofun
      · exact nofun
  | follow _ _ inside =>
      exact inside (List.subset_cons_of_subset _ subset) own (Answer.eq_ok_of_dropRow answered)
  | fallback _ inside =>
      refine inside subset ?_ (Answer.eq_ok_of_dropRow answered)
      rwa [Call.pieces, piecesOf_singleton]

end Origin

section Traces

variable {d : Definition} {name : Text} {left : List Term} {middle : State}

theorem Calls.chase_eq_cyclic (chaseRun : Calls pass before (.chase d) (.cycle left) middle)
    (defined : pass.definitions.get? name = some d) :
    pass.definitions.chase before.chasing name = .cyclic := by
  have found := chaseRun.found rfl
  rw [Call.found?_chase defined] at found
  cases looked : pass.definitions.chase before.chasing name with
  | cyclic => rfl
  | found terms =>
      rw [looked] at found
      cases found
  | undefined =>
      rw [Definitions.chase_eq_undefined_iff, defined] at looked
      cases looked

/-- `StandsIn pass before fallback answer after`: what a declaration gets for a usage that it gives
up. -/
def StandsIn (pass : Pass) (before : State) : Option Term → Answer → State → Prop
  | none, answer, after => answer = .ok [] ∧ after = before
  | some term, answer, after =>
      ∃ found, Calls pass before (.fallback term) found after ∧ answer = .ok (found.terms?.getD [])

theorem Calls.standsIn_of_cycle {fallback : Option Term} {span : Span}
    (run : Calls pass before (.usage .declaration name fallback span) answer after)
    (defined : pass.definitions.get? name = some d)
    (chaseRun : Calls pass before (.chase d) (.cycle left) middle) :
    pass.StandsIn before fallback answer after := by
  cases run with
  | defined definedToo okRun =>
      obtain rfl := Option.some.inj (defined.symm.trans definedToo)
      have sameFound := (okRun.found rfl).trans (chaseRun.found rfl).symm
      cases sameFound
  | definedCycle _ cycleRun => exact ⟨rfl, cycleRun.state_eq rfl⟩
  | definedFallback _ cycleRun fallbackRun =>
      obtain rfl := cycleRun.state_eq rfl
      exact ⟨_, fallbackRun, rfl⟩
  | undefinedFallback undefined _ | undefined undefined =>
      rw [defined] at undefined
      cases undefined

/-- A definition that was given up leaves nothing in a declaration. -/
theorem Calls.pieces_of_cycle {terms result : List Term}
    (run : Calls pass before (.terms .declaration [] terms) (.ok result) after)
    (defined : pass.definitions.get? name = some d)
    (chaseRun : Calls pass before (.chase d) (.cycle left) middle) :
    ∀ piece ∈ piecesOf result, piece ∈ piecesOf terms ∨
      ∃ other ∈ pass.definitions.toList, other.name ≠ name ∧
        piece ∈ piecesOf other.value.terms := by
  refine run.allowed ?_ (List.Subset.refl before.chasing) (fun piece => .inl) rfl
  intro other listed notCyclic piece inOther
  refine .inr ⟨other, listed, ?_, inOther⟩
  rintro rfl
  exact notCyclic (chaseRun.chase_eq_cyclic defined)

end Traces

/-- Every call comes back, with a result or a cycle, and with the names being looked up as they
were; the calls in a lookup leave the sink as it was too, and what they find is what substitution
computes. Where looking a definition up meets a cycle, a usage of it in a declaration becomes what
its fallback comes to, or nothing. And the declaration comes out with resolved terms, of which each
piece has stood in the declaration or in another definition, and with the warnings about its own
usages. -/
theorem chase_leaves_no_trace (pass : Pass) (before : State) :
    (∀ call,
      (∃ answer after, Calls pass before call answer after) ∧
      ∀ answer after, Calls pass before call answer after →
        after.chasing = before.chasing ∧
          (call.context.inChase = true → after.messages = before.messages) ∧
          (call.context = .chase →
            answer.terms? = call.found? pass.definitions before.chasing)) ∧
    ∀ name d left middle, pass.definitions.get? name = some d →
      Calls pass before (.chase d) (.cycle left) middle →
      (∀ fallback span answer after,
        Calls pass before (.usage .declaration name fallback span) answer after →
          pass.StandsIn before fallback answer after) ∧
      ∀ terms answer after, Calls pass before (.terms .declaration [] terms) answer after →
        ∃ result, answer = .ok result ∧
          after = before.raise (pass.warnings (unresolvedOf pass.definitions terms)) ∧
          (before.Idle → result = resolveAll pass.definitions terms) ∧
          ∀ piece ∈ piecesOf result, piece ∈ piecesOf terms ∨
            ∃ other ∈ pass.definitions.toList, other.name ≠ name ∧
              piece ∈ piecesOf other.value.terms := by
  refine ⟨fun call => ⟨pass.answers before.chasing call before.messages, ?_⟩, ?_⟩
  · intro answer after run
    exact ⟨run.chasing_eq, run.messages_eq, run.found⟩
  · intro name d left middle defined chaseRun
    refine ⟨fun fallback span answer after run => run.standsIn_of_cycle defined chaseRun, ?_⟩
    intro terms answer after run
    obtain ⟨result, rfl⟩ := run.exists_ok rfl
    refine ⟨result, rfl, run.raised rfl, ?_, run.pieces_of_cycle defined chaseRun⟩
    intro idle
    exact Answer.ok.inj (run.resolved rfl idle)

/-- `@a: red var(a) blue;`, which comes back to itself after its first term. -/
def returning : Definition :=
  ⟨"a".toList, ⟨[.literal "red".toList ⟨4, 7⟩, .usage "a".toList none ⟨8, 14⟩,
    .literal "blue".toList ⟨15, 19⟩], ⟨4, 19⟩⟩, .directive, ⟨0, 20⟩⟩

def returningPass : Pass where
  definitions := ⟨[returning], .cons nofun .nil⟩
  file := ⟨"returning.css".toList, ⟨[0], 56⟩⟩
  reportUnresolved := true

/-- Neither `red` nor `blue` is left in `1px var(a, green)`. -/
theorem chase_leaves_no_trace_returning :
    (returningPass.definitions.get? "a".toList = some returning ∧
      Calls returningPass ⟨[], []⟩ (.chase returning) (.cycle []) ⟨[], []⟩) ∧
    (∃ after, Calls returningPass ⟨[], []⟩ (.usage .declaration "a".toList none ⟨40, 46⟩) (.ok [])
      after) ∧
    ∃ after, Calls returningPass ⟨[], []⟩
      (.terms .declaration [] [.literal "1px".toList ⟨36, 39⟩,
        .usage "a".toList (some (.literal "green".toList ⟨47, 52⟩)) ⟨40, 53⟩])
      (.ok [.literal "1px".toList ⟨36, 39⟩, .literal "green".toList ⟨47, 52⟩]) after := by
  have defined : returningPass.definitions.get? returning.name = some returning :=
    Definitions.get?_name List.mem_cons_self
  have chaseRun : Calls returningPass ⟨[], []⟩ (.chase returning) _ _ :=
    .follow List.not_mem_nil (.kept rfl trivial
      (.spliceCycle rfl (.definedCycle defined (.again List.mem_cons_self))))
  rw [List.erase_cons_head] at chaseRun
  obtain ⟨calls, traces⟩ := chase_leaves_no_trace returningPass ⟨[], []⟩
  obtain ⟨givenUp, declared⟩ := traces _ _ _ _ defined chaseRun
  refine ⟨⟨defined, chaseRun⟩, ?_, ?_⟩
  · obtain ⟨⟨answer, after, run⟩, _⟩ := calls (.usage .declaration "a".toList none ⟨40, 46⟩)
    obtain ⟨rfl, _⟩ := givenUp _ _ _ _ run
    exact ⟨after, run⟩
  · obtain ⟨⟨answer, after, run⟩, _⟩ := calls (.terms .declaration [] _)
    obtain ⟨result, rfl, _, resolved, _⟩ := declared _ _ _ run
    obtain rfl := resolved rfl
    refine ⟨after, ?_⟩
    convert run using 2
    cbv

end Pass

end ComponentStyles
