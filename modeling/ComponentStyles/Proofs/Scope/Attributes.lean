import ComponentStyles.Proofs.Scope.Names
import ComponentStyles.Proofs.Template.NodePath
import ComponentStyles.Proofs.Text.Words

/-!
What renaming does to the classes and ids of elements.

The names of an attribute are renamed one by one, although a list of classes is taken apart and
joined again. Nothing else in a template changes.
-/

namespace ComponentStyles

theorem Text.sameLetters_id_of_class {name : Text} (isClass : sameLetters name "class".toList) :
    sameLetters name "id".toList = false := by
  rw [sameLetters, beq_iff_eq] at isClass
  rw [sameLetters, isClass]
  decide

namespace Scope

variable {scope : Scope}

theorem rename_of_rename?_eq_none {kind : NameKind} {name : Text}
    (kept : scope.rename? kind name = none) : scope.rename kind name = name := by
  rw [rename, kept, Option.getD_none]

/-- A tag without blanks makes words of words. -/
theorem isWord_rename (noBlank : ∀ tag ∈ scope.tag, ∀ c ∈ tag, Text.isBlank c = false)
    (kind : NameKind) {word : Text} (isWord : word.IsWord) : (scope.rename kind word).IsWord := by
  cases renamed : scope.rename? kind word with
  | none => rwa [rename_of_rename?_eq_none renamed]
  | some new =>
      rw [rename, renamed, Option.getD_some]
      obtain ⟨tag, given, changed⟩ := Option.bind_eq_some_iff.mp renamed
      obtain ⟨-, same⟩ := Option.ite_none_right_eq_some.mp changed
      rw [← Option.some.inj same]
      refine ⟨by simp [scopedForm], fun c membership => ?_⟩
      rcases List.mem_append.mp membership with inTag | behind
      · exact noBlank tag given c inTag
      · rcases List.mem_cons.mp behind with rfl | inWord
        · rfl
        · exact isWord.2 c inWord

@[simp] theorem name_inAttribute (a : Attribute) : (scope.inAttribute a).name = a.name := by
  rw [inAttribute]
  split <;> rfl

theorem value_inAttribute (a : Attribute) :
    (scope.inAttribute a).value = (scope.newValue? a).or a.value := by
  rw [inAttribute]
  cases scope.newValue? a <;> rfl

theorem newValue?_of_class {a : Attribute} (isClass : Text.sameLetters a.name "class".toList) :
    scope.newValue? a = a.value.bind fun value =>
      if (Text.words value).any fun name => (scope.rename? .ofClass name).isSome then
        some (Text.join [' '] ((Text.words value).map (scope.rename .ofClass)))
      else none := by
  rw [newValue?]
  simp only [isClass, if_true]

theorem newValue?_of_id {a : Attribute} (isId : Text.sameLetters a.name "id".toList) :
    scope.newValue? a = a.value.bind (scope.rename? .ofId) := by
  have notClass : ¬ Text.sameLetters a.name "class".toList := by
    intro isClass
    rw [Text.sameLetters_id_of_class isClass] at isId
    cases isId
  rw [newValue?]
  simp only [notClass, isId, if_true]
  rfl

theorem newValue?_of_not_givesNames {a : Attribute} (other : a.givesNames = false) :
    scope.newValue? a = none := by
  rw [Attribute.givesNames, Bool.or_eq_false_iff] at other
  rw [newValue?]
  simp only [other, Bool.false_eq_true, if_false, Option.bind_fun_none]

/-- A changed attribute gives the renamed classes in the order of the old ones. -/
theorem words_newValue (noBlank : ∀ tag ∈ scope.tag, ∀ c ∈ tag, Text.isBlank c = false)
    {a : Attribute} (isClass : Text.sameLetters a.name "class".toList) :
    (scope.inAttribute a).value.elim [] Text.words =
      (a.value.elim [] Text.words).map (scope.rename .ofClass) := by
  rw [value_inAttribute, newValue?_of_class isClass]
  cases a.value with
  | none => rfl
  | some value =>
      rw [Option.bind_some, Option.elim_some]
      split
      case isTrue some =>
        rw [Option.some_or, Option.elim_some]
        refine Text.words_join fun word membership => ?_
        obtain ⟨old, listed, rfl⟩ := List.mem_map.mp membership
        exact isWord_rename noBlank .ofClass (Text.isWord_of_mem_words listed)
      case isFalse none =>
        rw [Option.none_or, Option.elim_some]
        have kept : ∀ word ∈ value.words, scope.rename .ofClass word = word := by
          intro word listed
          refine rename_of_rename?_eq_none (Option.not_isSome_iff_eq_none.mp fun renamed => ?_)
          exact none (List.any_eq_true.mpr ⟨word, listed, renamed⟩)
        rw [List.map_congr_left kept, List.map_id']

/-- The names of an attribute are renamed one by one. -/
theorem namesOf_inAttribute (noBlank : ∀ tag ∈ scope.tag, ∀ c ∈ tag, Text.isBlank c = false)
    (kind : NameKind) (a : Attribute) :
    (scope.inAttribute a).namesOf kind = (a.namesOf kind).map (scope.rename kind) := by
  cases kind with
  | ofClass =>
      rw [Attribute.namesOf, Attribute.namesOf, name_inAttribute]
      split
      case isTrue isClass => exact words_newValue noBlank isClass
      case isFalse => rfl
  | ofId =>
      rw [Attribute.namesOf, Attribute.namesOf, name_inAttribute]
      split
      case isTrue isId =>
        rw [value_inAttribute, newValue?_of_id isId]
        cases a.value with
        | none => rfl
        | some value =>
            rw [Option.bind_some, Option.toList_some, List.map_singleton, Scope.rename]
            cases scope.rename? .ofId value <;> rfl
      case isFalse => rfl

/-- Only the values of class and id attributes change. -/
theorem withoutNames_inAttribute (a : Attribute) :
    (scope.inAttribute a).withoutNames = a.withoutNames := by
  rw [inAttribute]
  cases changed : scope.newValue? a with
  | none => rfl
  | some new =>
      cases names : a.givesNames with
      | false =>
          rw [newValue?_of_not_givesNames names] at changed
          cases changed
      | true =>
          obtain ⟨old, value, -⟩ := Option.bind_eq_some_iff.mp changed
          have stillNames : Attribute.givesNames ⟨a.name, some new, a.span⟩ = true := names
          rw [Attribute.withoutNames, Attribute.withoutNames, if_pos stillNames, if_pos names,
            value, Option.map_some, Option.map_some]

mutual

theorem inNode_eq : ∀ node : Node, scope.inNode node = node.mapAttributes scope.inAttribute
  | .element tag attributes children selfClosing span => by
      rw [inNode, Node.mapAttributes, inNodes_eq children]
  | .text _ _ => rfl
  | .comment _ _ => rfl

theorem inNodes_eq :
    ∀ nodes : List Node, scope.inNodes nodes = mapAttributesOf scope.inAttribute nodes
  | [] => rfl
  | node :: rest => by rw [inNodes, mapAttributesOf, inNode_eq node, inNodes_eq rest]

end

/-- Up to the values of class and id attributes, the template stays as it is. -/
theorem withoutNames_inNodes (nodes : List Node) :
    mapAttributesOf Attribute.withoutNames (scope.inNodes nodes) =
      mapAttributesOf Attribute.withoutNames nodes := by
  rw [inNodes_eq, mapAttributesOf_mapAttributesOf]
  exact congrArg (mapAttributesOf · nodes) (funext withoutNames_inAttribute)

/-- An element has the new names of its old ones. -/
theorem hasName_inNodes (noBlank : ∀ tag ∈ scope.tag, ∀ c ∈ tag, Text.isBlank c = false)
    {nodes : List Node} {path : NodePath} {kind : NameKind} {name : Text} :
    HasName (scope.inNodes nodes) path kind name ↔
      ∃ old, HasName nodes path kind old ∧ scope.rename kind old = name := by
  rw [inNodes_eq, hasName_mapAttributesOf]
  constructor
  · rintro ⟨node, found, a, given, membership⟩
    rw [namesOf_inAttribute noBlank] at membership
    obtain ⟨old, listed, renamed⟩ := List.mem_map.mp membership
    exact ⟨old, ⟨node, found, a, given, listed⟩, renamed⟩
  · rintro ⟨old, ⟨node, found, a, given, listed⟩, renamed⟩
    refine ⟨node, found, a, given, ?_⟩
    rw [namesOf_inAttribute noBlank]
    exact List.mem_map.mpr ⟨old, listed, renamed⟩

end Scope

end ComponentStyles
