import ComponentStyles.Proofs.Component.InPlace
import ComponentStyles.Proofs.Scope.Places

/-!
# Renaming in one pass

The rules of a run that rewrites the attributes of a template where they stand, counts those it
rewrites and logs them on the way. Which values are rewritten, and to what, is said of the words of
a class attribute and of the whole value of an id attribute. A run ends in one way only: with the
renamed template, the number of its changes, and one line for each change, in the order of the
places where the values differ.
-/

namespace ComponentStyles

/-- What a run over a template goes by. -/
structure Renamer where
  names : SelectorNames
  tag : Option Text
  trace : Bool

namespace Renamer

variable {renamer : Renamer}

def scope (renamer : Renamer) : Scope :=
  ⟨renamer.names, renamer.tag⟩

/-- A word of a class attribute afterwards. -/
def word (renamer : Renamer) (tag word : Text) : Text :=
  if renamer.names.classes.contains word then scopedForm tag word else word

/-- `Rewrites renamer name old new`: the value of an attribute of this name is rewritten. -/
inductive Rewrites (renamer : Renamer) : Text → Text → Text → Prop where
  | ofClass {tag name value} :
      renamer.tag = some tag →
      Text.sameLetters name "class".toList →
      (∃ word ∈ Text.words value, word ∈ renamer.names.classes) →
      Rewrites renamer name value (Text.join [' '] ((Text.words value).map (renamer.word tag)))
  | ofId {tag name value} :
      renamer.tag = some tag →
      Text.sameLetters name "id".toList →
      value ∈ renamer.names.ids →
      Rewrites renamer name value (scopedForm tag value)

/-- `Becomes renamer before after`: an attribute before and afterwards. -/
inductive Becomes (renamer : Renamer) : Attribute → Attribute → Prop where
  | rewritten {name old new span} :
      renamer.Rewrites name old new →
      Becomes renamer ⟨name, some old, span⟩ ⟨name, some new, span⟩
  | kept {a} :
      (∀ old ∈ a.value, ∀ new, ¬ renamer.Rewrites a.name old new) →
      Becomes renamer a a

/-- What a run changes: the number of attributes that it has rewritten, and the log. -/
structure State where
  count : Nat
  log : List Text

/-- An attribute more is rewritten. -/
def State.note (renamer : Renamer) (state : State) (r : Renaming) : State :=
  ⟨state.count + 1, state.log ++ if renamer.trace then [r.render] else []⟩

/-- `RunsAttributes renamer element before attributes attributes' after`: one attribute of an element
after the other. -/
inductive RunsAttributes (renamer : Renamer) (element : Text) :
    State → List Attribute → List Attribute → State → Prop where
  | nil {state} : RunsAttributes renamer element state [] [] state
  | rewritten {before name old new span rest rest' after} :
      renamer.Rewrites name old new →
      RunsAttributes renamer element (before.note renamer ⟨element, name, old, new⟩) rest rest'
        after →
      RunsAttributes renamer element before (⟨name, some old, span⟩ :: rest)
        (⟨name, some new, span⟩ :: rest') after
  | kept {before a rest rest' after} :
      (∀ old ∈ a.value, ∀ new, ¬ renamer.Rewrites a.name old new) →
      RunsAttributes renamer element before rest rest' after →
      RunsAttributes renamer element before (a :: rest) (a :: rest') after

/-- `RunsNodes renamer before nodes nodes' after`: one node after the other. The attributes of an
element are entered before its children. -/
inductive RunsNodes (renamer : Renamer) : State → List Node → List Node → State → Prop where
  | nil {state} : RunsNodes renamer state [] [] state
  | element {before tag attributes attributes' within children children' selfClosing span behind
        rest rest' after} :
      RunsAttributes renamer tag before attributes attributes' within →
      RunsNodes renamer within children children' behind →
      RunsNodes renamer behind rest rest' after →
      RunsNodes renamer before (.element tag attributes children selfClosing span :: rest)
        (.element tag attributes' children' selfClosing span :: rest') after
  | text {before content span rest rest' after} :
      RunsNodes renamer before rest rest' after →
      RunsNodes renamer before (.text content span :: rest) (.text content span :: rest') after
  | comment {before content span rest rest' after} :
      RunsNodes renamer before rest rest' after →
      RunsNodes renamer before (.comment content span :: rest) (.comment content span :: rest')
        after

section Attributes

variable {tag name old new : Text} {a b : Attribute}

theorem rename?_of_tag (tagged : renamer.tag = some tag) (kind : NameKind) :
    renamer.scope.rename? kind name =
      if name ∈ renamer.names.ofKind kind then some (scopedForm tag name) else none := by
  simp [Scope.rename?, scope, tagged, SelectorNames.has]

theorem isSome_rename?_class_iff (tagged : renamer.tag = some tag) :
    (renamer.scope.rename? .ofClass name).isSome = true ↔ name ∈ renamer.names.classes := by
  rw [rename?_of_tag tagged]
  by_cases listed : name ∈ renamer.names.ofKind .ofClass
  · exact iff_of_true (by rw [if_pos listed]; rfl) listed
  · exact iff_of_false (by rw [if_neg listed]; nofun) listed

theorem rename_class (tagged : renamer.tag = some tag) :
    renamer.scope.rename .ofClass name = renamer.word tag name := by
  rw [Scope.rename, rename?_of_tag tagged, word]
  by_cases listed : name ∈ renamer.names.classes
  · simp [SelectorNames.ofKind, listed]
  · simp [SelectorNames.ofKind, listed]

theorem newValue?_of_no_tag (untagged : renamer.tag = none) :
    renamer.scope.newValue? a = none := by
  simp [Scope.newValue?, Scope.rename?, scope, untagged]

/-- A value is rewritten just when renaming gives it a new one. -/
theorem rewrites_iff (value : a.value = some old) :
    renamer.Rewrites a.name old new ↔ renamer.scope.newValue? a = some new := by
  cases tagged : renamer.tag with
  | none =>
      rw [newValue?_of_no_tag tagged]
      refine iff_of_false (fun rewrites => ?_) nofun
      cases rewrites <;> simp_all
  | some tag =>
      have classes : (∃ word ∈ old.words, word ∈ renamer.names.classes) ↔
          (old.words.any fun name => (renamer.scope.rename? .ofClass name).isSome) = true := by
        simp only [List.any_eq_true, isSome_rename?_class_iff tagged]
      have words : old.words.map (renamer.scope.rename .ofClass) =
          old.words.map (renamer.word tag) :=
        List.map_congr_left fun name _ => rename_class tagged
      constructor
      · rintro (⟨taggedToo, isClass, found⟩ | ⟨taggedToo, isId, listed⟩)
        · obtain rfl := Option.some.inj (tagged.symm.trans taggedToo)
          rw [Scope.newValue?_of_class isClass, value, Option.bind_some, if_pos (classes.mp found),
            words]
        · obtain rfl := Option.some.inj (tagged.symm.trans taggedToo)
          rw [Scope.newValue?_of_id isId, value, Option.bind_some, rename?_of_tag tagged]
          exact if_pos listed
      · intro changed
        cases isClass : Text.sameLetters a.name "class".toList with
        | true =>
            rw [Scope.newValue?_of_class isClass, value, Option.bind_some] at changed
            obtain ⟨found, joined⟩ := Option.ite_none_right_eq_some.mp changed
            rw [← Option.some.inj joined, words]
            exact .ofClass tagged isClass (classes.mpr found)
        | false =>
            cases isId : Text.sameLetters a.name "id".toList with
            | true =>
                rw [Scope.newValue?_of_id isId, value, Option.bind_some, rename?_of_tag tagged]
                  at changed
                obtain ⟨listed, form⟩ := Option.ite_none_right_eq_some.mp changed
                rw [← Option.some.inj form]
                exact .ofId tagged isId listed
            | false =>
                rw [Scope.newValue?_of_not_givesNames
                  (by rw [Attribute.givesNames, isClass, isId]; rfl)] at changed
                cases changed

theorem newValue?_eq_none_iff : renamer.scope.newValue? a = none ↔
    ∀ old ∈ a.value, ∀ new, ¬ renamer.Rewrites a.name old new := by
  constructor
  · intro kept old value new rewrites
    rw [rewrites_iff value, kept] at rewrites
    cases rewrites
  · intro kept
    refine Option.eq_none_iff_forall_ne_some.mpr fun new changed => ?_
    obtain ⟨old, value, -⟩ := Option.bind_eq_some_iff.mp changed
    exact kept old value new ((rewrites_iff value).mpr changed)

theorem becomes_iff : renamer.Becomes a b ↔ renamer.scope.inAttribute a = b := by
  constructor
  · rintro (rewrites | kept)
    · rw [Scope.inAttribute, (rewrites_iff rfl).mp rewrites]
    · rw [Scope.inAttribute, newValue?_eq_none_iff.mpr kept]
  · rintro rfl
    rw [Scope.inAttribute]
    split
    case h_1 new changed =>
      obtain ⟨old, value, -⟩ := Option.bind_eq_some_iff.mp changed
      obtain ⟨name, _, span⟩ := a
      cases value
      exact .rewritten ((rewrites_iff rfl).mpr changed)
    case h_2 kept => exact .kept (newValue?_eq_none_iff.mp kept)

end Attributes

/-- A state with more changes behind. -/
def State.notes (renamer : Renamer) (state : State) (changes : List Renaming) : State :=
  ⟨state.count + changes.length,
    state.log ++ if renamer.trace then changes.map Renaming.render else []⟩

theorem State.notes_nil (state : State) : state.notes renamer [] = state := by
  simp [notes]

theorem State.notes_append (state : State) (first later : List Renaming) :
    state.notes renamer (first ++ later) = (state.notes renamer first).notes renamer later := by
  simp only [notes, List.length_append, List.map_append]
  cases renamer.trace <;> simp [Nat.add_assoc]

theorem State.notes_cons (state : State) (r : Renaming) (later : List Renaming) :
    state.notes renamer (r :: later) = (state.note renamer r).notes renamer later :=
  state.notes_append [r] later

section Runs

variable {element : Text} {before after : State} {attributes attributes' : List Attribute}
  {nodes nodes' : List Node}

theorem RunsAttributes.eq_inAttribute
    (run : RunsAttributes renamer element before attributes attributes' after) :
    attributes' = attributes.map renamer.scope.inAttribute ∧
      after = before.notes renamer (attributes.filterMap (renamer.scope.change? element)) := by
  induction run with
  | nil => exact ⟨rfl, (State.notes_nil _).symm⟩
  | @rewritten before name old new span rest rest' after rewrites _ inductionHypothesis =>
      obtain ⟨rfl, rfl⟩ := inductionHypothesis
      have changed : renamer.scope.newValue? ⟨name, some old, span⟩ = some new :=
        (rewrites_iff rfl).mp rewrites
      constructor
      · rw [List.map_cons, becomes_iff.mp (.rewritten rewrites)]
      · rw [List.filterMap_cons_some (by rw [Scope.change?, changed]; rfl), State.notes_cons]
        rfl
  | @kept before a rest rest' after kept _ inductionHypothesis =>
      obtain ⟨rfl, rfl⟩ := inductionHypothesis
      have unchanged := newValue?_eq_none_iff.mpr kept
      constructor
      · rw [List.map_cons, becomes_iff.mp (.kept kept)]
      · rw [List.filterMap_cons_none (by rw [Scope.change?, unchanged]; rfl)]

theorem runsAttributes_inAttribute (element : Text) (attributes : List Attribute)
    (before : State) : RunsAttributes renamer element before attributes
      (attributes.map renamer.scope.inAttribute)
      (before.notes renamer (attributes.filterMap (renamer.scope.change? element))) := by
  induction attributes generalizing before with
  | nil =>
      rw [List.map_nil, List.filterMap_nil, State.notes_nil]
      exact .nil
  | cons a rest inductionHypothesis =>
      rw [List.map_cons]
      cases changed : renamer.scope.newValue? a with
      | none =>
          have kept := newValue?_eq_none_iff.mp changed
          rw [becomes_iff.mp (.kept kept),
            List.filterMap_cons_none (by rw [Scope.change?, changed]; rfl)]
          exact .kept kept (inductionHypothesis before)
      | some new =>
          obtain ⟨old, value, -⟩ := Option.bind_eq_some_iff.mp changed
          obtain ⟨name, _, span⟩ := a
          cases value
          have rewrites : renamer.Rewrites name old new := (rewrites_iff rfl).mpr changed
          have change : renamer.scope.change? element ⟨name, some old, span⟩ =
              some ⟨element, name, old, new⟩ := by
            rw [Scope.change?, changed]
            rfl
          rw [becomes_iff.mp (.rewritten rewrites), List.filterMap_cons_some change,
            State.notes_cons]
          exact .rewritten rewrites (inductionHypothesis _)

theorem RunsNodes.eq_inNodes (run : RunsNodes renamer before nodes nodes' after) :
    nodes' = renamer.scope.inNodes nodes ∧
      after = before.notes renamer (renamer.scope.changes nodes) := by
  induction run with
  | nil => exact ⟨rfl, (State.notes_nil _).symm⟩
  | element own _ _ inChildren inRest =>
      obtain ⟨rfl, rfl⟩ := own.eq_inAttribute
      obtain ⟨rfl, rfl⟩ := inChildren
      obtain ⟨rfl, rfl⟩ := inRest
      refine ⟨rfl, ?_⟩
      rw [Scope.changes, Scope.changesIn, State.notes_append, State.notes_append]
  | text _ inRest | comment _ inRest =>
      obtain ⟨rfl, rfl⟩ := inRest
      exact ⟨rfl, rfl⟩

theorem runsNodes_inNodes : ∀ (nodes : List Node) (before : State),
    RunsNodes renamer before nodes (renamer.scope.inNodes nodes)
      (before.notes renamer (renamer.scope.changes nodes))
  | [], before => by
      rw [Scope.changes, State.notes_nil]
      exact .nil
  | .element tag attributes children selfClosing span :: rest, before => by
      rw [Scope.changes, Scope.changesIn, State.notes_append, State.notes_append]
      exact .element (runsAttributes_inAttribute tag attributes before)
        (runsNodes_inNodes children _) (runsNodes_inNodes rest _)
  | .text _ _ :: rest, before => .text (runsNodes_inNodes rest before)
  | .comment _ _ :: rest, before => .comment (runsNodes_inNodes rest before)

end Runs

end Renamer

/-- Renaming changes the names in a template, counts the changed values and logs them, and does
nothing else. -/
theorem renaming_rewrites_names_only (renamer : Renamer) (nodes : List Node) :
    let after := renamer.scope.inNodes nodes
    let changes := renamer.scope.changes nodes
    (∀ start nodes' last, Renamer.RunsNodes renamer start nodes nodes' last ↔
      nodes' = after ∧ last = ⟨start.count + changes.length,
        start.log ++ if renamer.trace then changes.map Renaming.render else []⟩) ∧
    mapAttributesOf Attribute.withoutNames after = mapAttributesOf Attribute.withoutNames nodes ∧
    (∀ place element a, AttributeAt after place element a ↔
      ∃ old, AttributeAt nodes place element old ∧ renamer.Becomes old a) ∧
    Lists AttributePlace.Before (Scope.ChangeAt nodes after) changes ∧
    Scope.inNodes ⟨renamer.names, none⟩ nodes = nodes ∧
      Scope.changes ⟨renamer.names, none⟩ nodes = [] := by
  intro after changes
  refine ⟨fun start nodes' last => ⟨Renamer.RunsNodes.eq_inNodes, ?_⟩,
    Scope.withoutNames_inNodes nodes, fun place element a => ?_, Scope.lists_changes nodes,
    Scope.inNodes_of_untagged nodes, ?_⟩
  · rintro ⟨rfl, rfl⟩
    exact Renamer.runsNodes_inNodes nodes start
  · simp only [Renamer.becomes_iff]
    change AttributeAt (renamer.scope.inNodes nodes) place element a ↔ _
    rw [Scope.inNodes_eq, attributeAt_mapAttributesOf]
  · have listed : Lists _ _ (Scope.changes ⟨renamer.names, none⟩ nodes) := Scope.lists_changes nodes
    rw [Scope.inNodes_of_untagged] at listed
    refine List.eq_nil_iff_forall_not_mem.mpr fun r found => ?_
    obtain ⟨place, old, new, stands, standsToo, differs, -⟩ := listed.mem_iff.mp found
    exact differs (congrArg Attribute.value (stands.unique standsToo))

end ComponentStyles
