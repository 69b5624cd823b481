import ComponentStyles.Proofs.Scope.Attributes
import ComponentStyles.Proofs.Stylesheet.Order
import Mathlib

/-!
# The changes of a template by their places

An attribute stands at the path of its element and at its number there. In the order of these places
an element comes before what is inside it, as a path comes before those that lead on from it. The
changes that renaming makes are listed in this order, each at a place where the value before and the
value afterwards differ: a new value is never the old one, whatever the tag, as it has more
characters that are not blank.
-/

namespace ComponentStyles

section Nodes

mutual

/-- A node and those inside it, each in front of those inside it. -/
def Node.within : Node → List Node
  | .element tag attributes children selfClosing span =>
      .element tag attributes children selfClosing span :: nodesWithin children
  | other => [other]

def nodesWithin : List Node → List Node
  | [] => []
  | node :: rest => node.within ++ nodesWithin rest

end

theorem nodesWithin_eq_flatMap (nodes : List Node) :
    nodesWithin nodes = nodes.flatMap Node.within := by
  induction nodes with
  | nil => rfl
  | cons node rest inductionHypothesis =>
      rw [nodesWithin, inductionHypothesis, List.flatMap_cons]

theorem Node.within_eq (node : Node) : node.within = node :: nodesWithin node.children := by
  cases node <;> rfl

theorem nodeAt?_nil (path : NodePath) : nodeAt? [] path = none := by
  rcases path with _ | ⟨number, _ | ⟨next, rest⟩⟩ <;> rfl

/-- A path leads to a node of a row, or on to one inside it. -/
theorem nodeAt?_eq_some_iff {nodes : List Node} {path : NodePath} {node : Node} :
    nodeAt? nodes path = some node ↔ ∃ number rest outer, path = number :: rest ∧
      nodes[number]? = some outer ∧
        (rest = [] ∧ node = outer ∨ nodeAt? outer.children rest = some node) := by
  cases path with
  | nil => simp [nodeAt?]
  | cons number rest =>
      cases rest with
      | nil =>
          rw [nodeAt?]
          constructor
          · intro found
            exact ⟨number, [], node, rfl, found, .inl ⟨rfl, rfl⟩⟩
          · rintro ⟨_, _, outer, same, found, ⟨-, rfl⟩ | inside⟩
            · cases same
              exact found
            · cases same
              cases inside
      | cons next others =>
          rw [nodeAt?, Option.bind_eq_some_iff]
          constructor
          · rintro ⟨outer, found, inside⟩
            exact ⟨number, next :: others, outer, rfl, found, .inr inside⟩
          · rintro ⟨_, _, outer, same, found, ⟨nothing, -⟩ | inside⟩
            · cases same
              cases nothing
            · cases same
              exact ⟨outer, found, inside⟩

theorem lists_cons {Value : Type} {first : Value} {values : List Value}
    {stands : List Nat → Value → Prop} (lists : Lists (· < ·) stands values)
    (proper : ∀ place value, stands place value → place ≠ []) :
    Lists (· < ·) (fun place value => place = [] ∧ value = first ∨ stands place value)
      (first :: values) := by
  obtain ⟨placed, ordered, complete, rfl⟩ := lists
  refine ⟨([], first) :: placed, List.pairwise_cons.mpr ⟨?_, ordered⟩, ?_, rfl⟩
  · rintro ⟨place, value⟩ listed
    obtain ⟨number, rest, rfl⟩ :=
      List.exists_cons_of_ne_nil (proper place value ((complete place value).mp listed))
    exact List.nil_lt_cons number rest
  · intro place value
    rw [List.mem_cons, Prod.mk.injEq, complete]

theorem Node.lists_within (node : Node) : Lists (· < ·)
    (fun path found => path = [] ∧ found = node ∨ nodeAt? node.children path = some found)
    node.within := by
  rw [Node.within_eq]
  refine lists_cons ?_ (by rintro _ _ found rfl; cases found)
  cases node with
  | element tag attributes children selfClosing span =>
      have inside := lists_row fun child (_ : child ∈ children) => child.lists_within
      rw [← nodesWithin_eq_flatMap] at inside
      exact inside.congr fun path found => nodeAt?_eq_some_iff.symm
  | text => exact lists_nil.congr fun path found => by simp [children, nodeAt?_nil]
  | comment => exact lists_nil.congr fun path found => by simp [children, nodeAt?_nil]
termination_by sizeOf node
decreasing_by
  have smaller := List.sizeOf_lt_of_mem ‹child ∈ children›
  simp only [Node.element.sizeOf_spec]
  omega

/-- The nodes within a row are listed by their paths. -/
theorem lists_nodesWithin (nodes : List Node) :
    Lists (· < ·) (fun path node => nodeAt? nodes path = some node) (nodesWithin nodes) := by
  rw [nodesWithin_eq_flatMap]
  exact (lists_row fun node _ => node.lists_within).congr
    fun path node => nodeAt?_eq_some_iff.symm

end Nodes

/-- The place of an attribute: the path of its element, and its number there. -/
abbrev AttributePlace := NodePath × Nat

/-- The order of the attributes in a document. -/
def AttributePlace.Before : AttributePlace → AttributePlace → Prop :=
  Prod.Lex (· < ·) (· < ·)

/-- An element of the given name has the attribute at the place. -/
def AttributeAt (nodes : List Node) (place : AttributePlace) (element : Text) (a : Attribute) :
    Prop :=
  ∃ node, nodeAt? nodes place.1 = some node ∧ node.tag? = some element ∧
    node.attributes[place.2]? = some a

theorem attributeAt_mapAttributesOf {change : Attribute → Attribute} {nodes : List Node}
    {place : AttributePlace} {element : Text} {a : Attribute} :
    AttributeAt (mapAttributesOf change nodes) place element a ↔
      ∃ old, AttributeAt nodes place element old ∧ change old = a := by
  simp only [AttributeAt, nodeAt?_mapAttributesOf, Option.map_eq_some_iff]
  constructor
  · rintro ⟨_, ⟨node, found, rfl⟩, named, listed⟩
    rw [Node.tag?_mapAttributes] at named
    rw [Node.attributes_mapAttributes, List.getElem?_map] at listed
    obtain ⟨old, held, changed⟩ := Option.map_eq_some_iff.mp listed
    exact ⟨old, ⟨node, found, named, held⟩, changed⟩
  · rintro ⟨old, ⟨node, found, named, held⟩, changed⟩
    refine ⟨_, ⟨node, found, rfl⟩, ?_, ?_⟩
    · rw [Node.tag?_mapAttributes, named]
    · rw [Node.attributes_mapAttributes, List.getElem?_map, held, Option.map_some, changed]

theorem AttributeAt.unique {nodes : List Node} {place : AttributePlace} {element other : Text}
    {a b : Attribute} (stands : AttributeAt nodes place element a)
    (standsToo : AttributeAt nodes place other b) : a = b := by
  obtain ⟨node, found, -, held⟩ := stands
  obtain ⟨same, foundToo, -, heldToo⟩ := standsToo
  obtain rfl := Option.some.inj (found.symm.trans foundToo)
  exact Option.some.inj (held.symm.trans heldToo)

section NonBlank

/-- The number of characters that are not blank. -/
def Text.inked (text : Text) : Nat :=
  text.countP fun c => !Text.isBlank c

namespace Text

theorem inked_append (text other : Text) : inked (text ++ other) = inked text + inked other :=
  List.countP_append

theorem inked_wordsFrom (pending text : Text) :
    ((wordsFrom pending text).map inked).sum = inked pending + inked text := by
  induction text generalizing pending with
  | nil =>
      rw [wordsFrom]
      split
      case isTrue nothing => simp [List.isEmpty_iff.mp nothing, inked]
      case isFalse => simp [inked]
  | cons c rest inductionHypothesis =>
      rw [wordsFrom]
      cases blank : isBlank c with
      | true =>
          have same : inked (c :: rest) = inked rest := by simp [inked, blank]
          rw [if_pos rfl, same]
          split
          case isTrue nothing =>
            rw [inductionHypothesis, List.isEmpty_iff.mp nothing]
          case isFalse =>
            rw [List.map_cons, List.sum_cons, inductionHypothesis]
            simp [inked]
      | false =>
          rw [if_neg (by simp), inductionHypothesis, inked_append, Nat.add_assoc, ← inked_append,
            List.singleton_append]

/-- Blanks lie between the words only. -/
theorem inked_words (text : Text) : ((words text).map inked).sum = inked text := by
  rw [words, inked_wordsFrom]
  simp [inked]

theorem inked_join (texts : List Text) : inked (join [' '] texts) = (texts.map inked).sum := by
  induction texts with
  | nil => rfl
  | cons first rest inductionHypothesis =>
      cases rest with
      | nil => simp [join, List.intercalate_singleton]
      | cons second others =>
          have blank : inked [' '] = 0 := rfl
          rw [join, List.intercalate_cons_cons, inked_append, inked_append, blank, ← join,
            inductionHypothesis, List.map_cons (a := first), List.sum_cons, Nat.add_zero]

end Text

end NonBlank

namespace Scope

variable {scope : Scope}

theorem inked_lt_of_rename? {kind : NameKind} {name new : Text}
    (renamed : scope.rename? kind name = some new) : Text.inked name < Text.inked new := by
  obtain ⟨tag, -, changed⟩ := Option.bind_eq_some_iff.mp renamed
  obtain ⟨-, form⟩ := Option.ite_none_right_eq_some.mp changed
  obtain rfl := Option.some.inj form
  have sign : Text.inked ('_' :: name) = Text.inked name + 1 := by
    rw [Text.inked, List.countP_cons_of_pos rfl, Text.inked]
  rw [scopedForm, Text.inked_append, sign]
  omega

theorem inked_le_rename (kind : NameKind) (name : Text) :
    Text.inked name ≤ Text.inked (scope.rename kind name) := by
  cases renamed : scope.rename? kind name with
  | none => rw [rename_of_rename?_eq_none renamed]
  | some new =>
      rw [rename, renamed, Option.getD_some]
      exact (inked_lt_of_rename? renamed).le

/-- A new value is never the old one. -/
theorem inked_lt_of_newValue? {a : Attribute} {old new : Text} (value : a.value = some old)
    (changed : scope.newValue? a = some new) : Text.inked old < Text.inked new := by
  cases isClass : Text.sameLetters a.name "class".toList with
  | true =>
      rw [newValue?_of_class isClass, value, Option.bind_some] at changed
      obtain ⟨someRenamed, joined⟩ := Option.ite_none_right_eq_some.mp changed
      obtain rfl := Option.some.inj joined
      obtain ⟨word, listed, isRenamed⟩ := List.any_eq_true.mp someRenamed
      obtain ⟨renamed, form⟩ := Option.isSome_iff_exists.mp isRenamed
      rw [← Text.inked_words old, Text.inked_join, List.map_map]
      refine List.sum_lt_sum _ _ (fun word _ => inked_le_rename .ofClass word) ⟨word, listed, ?_⟩
      rw [Function.comp_apply, rename, form, Option.getD_some]
      exact inked_lt_of_rename? form
  | false =>
      cases isId : Text.sameLetters a.name "id".toList with
      | true =>
          rw [newValue?_of_id isId, value, Option.bind_some] at changed
          exact inked_lt_of_rename? changed
      | false =>
          rw [newValue?_of_not_givesNames (by rw [Attribute.givesNames, isClass, isId]; rfl)]
            at changed
          cases changed

/-- Where a value before differs from the one afterwards, with what a renaming says about it. -/
def ChangeAt (before after : List Node) (place : AttributePlace) (r : Renaming) : Prop :=
  ∃ old new, AttributeAt before place r.element old ∧ AttributeAt after place r.element new ∧
    old.value ≠ new.value ∧ r.name = old.name ∧ old.value = some r.before ∧
      new.value = some r.after

theorem changeAt_inNodes_iff {nodes : List Node} {place : AttributePlace} {r : Renaming} :
    ChangeAt nodes (scope.inNodes nodes) place r ↔
      ∃ a, AttributeAt nodes place r.element a ∧ scope.change? r.element a = some r := by
  obtain ⟨element, name, before, after⟩ := r
  simp only [ChangeAt, inNodes_eq, attributeAt_mapAttributesOf, change?]
  constructor
  · rintro ⟨old, _, stands, ⟨same, standsToo, rfl⟩, differs, rfl, held, heldAfter⟩
    obtain rfl := stands.unique standsToo
    rw [value_inAttribute] at differs heldAfter
    refine ⟨old, stands, ?_⟩
    cases changed : scope.newValue? old with
    | none =>
        rw [changed, Option.none_or] at differs
        exact absurd rfl differs
    | some new =>
        rw [changed, Option.some_or, Option.some_inj] at heldAfter
        rw [Option.map_some, held, heldAfter, Option.getD_some]
  · rintro ⟨old, stands, changes⟩
    obtain ⟨new, changed, same⟩ := Option.map_eq_some_iff.mp changes
    obtain ⟨-, rfl, rfl, rfl⟩ := Renaming.mk.inj same
    obtain ⟨value, held, -⟩ := Option.bind_eq_some_iff.mp changed
    refine ⟨old, _, stands, ⟨old, stands, rfl⟩, ?_, rfl, ?_, ?_⟩
    · rw [value_inAttribute, changed, held, Option.some_or, Ne, Option.some_inj]
      rintro rfl
      exact Nat.lt_irrefl _ (inked_lt_of_newValue? held changed)
    · rw [held, Option.getD_some]
    · rw [value_inAttribute, changed, Option.some_or]

/-- The changes of a node itself. -/
def changesOf (scope : Scope) (node : Node) : List Renaming :=
  node.tag?.elim [] fun element => node.attributes.filterMap (scope.change? element)

mutual

theorem changesIn_eq : ∀ node : Node, scope.changesIn node = node.within.flatMap scope.changesOf
  | .element _ _ children _ _ => by
      rw [changesIn, Node.within, List.flatMap_cons, changes_eq children]
      rfl
  | .text _ _ => rfl
  | .comment _ _ => rfl

theorem changes_eq : ∀ nodes : List Node,
    scope.changes nodes = (nodesWithin nodes).flatMap scope.changesOf
  | [] => rfl
  | node :: rest => by
      rw [changes, nodesWithin, List.flatMap_append, changesIn_eq node, changes_eq rest]

end

theorem lists_changesOf (node : Node) : Lists (· < ·)
    (fun (number : Nat) r => ∃ element a, node.tag? = some element ∧
      node.attributes[number]? = some a ∧ scope.change? element a = some r)
    (scope.changesOf node) := by
  rw [changesOf]
  cases named : node.tag? with
  | none => exact ⟨[], .nil, by simp, rfl⟩
  | some element =>
      exact ((lists_numbered node.attributes).filterMap (scope.change? element)).congr
        fun number r => by simp

/-- The changes are listed by their places, each once. -/
theorem lists_changes (nodes : List Node) : Lists AttributePlace.Before
    (ChangeAt nodes (scope.inNodes nodes)) (scope.changes nodes) := by
  rw [changes_eq]
  refine ((lists_nodesWithin nodes).flatMap fun node _ => lists_changesOf node).congr
    fun place r => ?_
  rw [changeAt_inNodes_iff]
  constructor
  · rintro ⟨node, found, element, a, named, held, changed⟩
    obtain ⟨new, -, rfl⟩ := Option.map_eq_some_iff.mp changed
    exact ⟨a, ⟨node, found, named, held⟩, changed⟩
  · rintro ⟨a, ⟨node, found, named, held⟩, changed⟩
    exact ⟨node, found, r.element, a, named, held, changed⟩

end Scope

end ComponentStyles
