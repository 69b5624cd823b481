import ComponentStyles.Scope.Names
import ComponentStyles.Template.Basic
import Mathlib.Logic.Basic

/-!
Paths to the elements of a template, and what is found there.

A path says where to turn among the nodes, then among the children of the node reached, and so
on. The empty path leads to no node. A change of attributes leaves every path as it is.
-/

namespace ComponentStyles

/-- A way to a node, outermost turn first. -/
abbrev NodePath := List Nat

def Node.children : Node → List Node
  | element _ _ children _ _ => children
  | _ => []

/-- The attributes of a node, of which only elements have any. -/
def Node.attributes : Node → List Attribute
  | element _ attributes _ _ _ => attributes
  | _ => []

def Node.tag? : Node → Option Text
  | element tag _ _ _ _ => some tag
  | _ => none

/-- The node at the end of a path. -/
def nodeAt? (nodes : List Node) : NodePath → Option Node
  | [] => none
  | [index] => nodes[index]?
  | index :: next :: rest =>
      nodes[index]?.bind fun node => nodeAt? node.children (next :: rest)

def tagAt? (nodes : List Node) (path : NodePath) : Option Text :=
  (nodeAt? nodes path).bind Node.tag?

def IsElementAt (nodes : List Node) (path : NodePath) : Prop :=
  (tagAt? nodes path).isSome

/-- The names of a kind that an attribute gives to its element: the words of a class attribute,
the whole value of an id attribute. -/
def Attribute.namesOf (kind : NameKind) (a : Attribute) : List Text :=
  match kind with
  | .ofClass =>
      if Text.sameLetters a.name "class".toList then a.value.elim [] Text.words else []
  | .ofId => if Text.sameLetters a.name "id".toList then a.value.toList else []

def Attribute.givesNames (a : Attribute) : Bool :=
  Text.sameLetters a.name "class".toList || Text.sameLetters a.name "id".toList

/-- Empties the value of an attribute that gives names. -/
def Attribute.withoutNames (a : Attribute) : Attribute :=
  if a.givesNames then { a with value := a.value.map fun _ => [] } else a

theorem Attribute.name_withoutNames (a : Attribute) : a.withoutNames.name = a.name := by
  rw [withoutNames]
  split <;> rfl

def HasName (nodes : List Node) (path : NodePath) (kind : NameKind) (name : Text) : Prop :=
  ∃ node ∈ nodeAt? nodes path, ∃ a ∈ node.attributes, name ∈ a.namesOf kind

mutual

/-- The names of a kind in a node and in those inside it. -/
def Node.namesOf (kind : NameKind) : Node → List Text
  | .element _ attributes children _ _ =>
      attributes.flatMap (·.namesOf kind) ++ namesOfNodes kind children
  | _ => []

def namesOfNodes (kind : NameKind) : List Node → List Text
  | [] => []
  | node :: rest => node.namesOf kind ++ namesOfNodes kind rest

end

theorem mem_namesOfNodes {kind : NameKind} {name : Text} {nodes : List Node} :
    name ∈ namesOfNodes kind nodes ↔ ∃ node ∈ nodes, name ∈ node.namesOf kind := by
  induction nodes with
  | nil => simp [namesOfNodes]
  | cons node rest inductionHypothesis => simp [namesOfNodes, inductionHypothesis]

theorem mem_namesOfNodes_of_nodeAt? {kind : NameKind} {name : Text} {nodes : List Node}
    {path : NodePath} {node : Node} (found : nodeAt? nodes path = some node)
    (membership : name ∈ node.namesOf kind) : name ∈ namesOfNodes kind nodes := by
  induction path generalizing nodes with
  | nil => cases found
  | cons index rest inductionHypothesis =>
      cases rest with
      | nil => exact mem_namesOfNodes.mpr ⟨node, List.mem_of_getElem? found, membership⟩
      | cons next others =>
          rw [nodeAt?, Option.bind_eq_some_iff] at found
          obtain ⟨parent, reached, onward⟩ := found
          refine mem_namesOfNodes.mpr ⟨parent, List.mem_of_getElem? reached, ?_⟩
          have inside := inductionHypothesis onward
          cases parent with
          | element tag attributes children selfClosing span =>
              exact List.mem_append_right _ inside
          | text | comment => cases inside

/-- Every name that an element has is a name in the template. -/
theorem mem_namesOfNodes_of_hasName {nodes : List Node} {path : NodePath} {kind : NameKind}
    {name : Text} (has : HasName nodes path kind name) : name ∈ namesOfNodes kind nodes := by
  obtain ⟨node, found, a, given, membership⟩ := has
  refine mem_namesOfNodes_of_nodeAt? found ?_
  cases node with
  | element tag attributes children selfClosing span =>
      exact List.mem_append_left _ (List.mem_flatMap.mpr ⟨a, given, membership⟩)
  | text | comment => cases given

mutual

/-- Changes the attributes of a node and of those inside it. -/
def Node.mapAttributes (change : Attribute → Attribute) : Node → Node
  | .element tag attributes children selfClosing span =>
      .element tag (attributes.map change) (mapAttributesOf change children) selfClosing span
  | other => other

def mapAttributesOf (change : Attribute → Attribute) : List Node → List Node
  | [] => []
  | node :: rest => node.mapAttributes change :: mapAttributesOf change rest

end

section MapAttributes

variable (change : Attribute → Attribute)

@[simp] theorem Node.attributes_mapAttributes (node : Node) :
    (node.mapAttributes change).attributes = node.attributes.map change := by
  cases node <;> rfl

@[simp] theorem Node.tag?_mapAttributes (node : Node) :
    (node.mapAttributes change).tag? = node.tag? := by
  cases node <;> rfl

@[simp] theorem Node.children_mapAttributes (node : Node) :
    (node.mapAttributes change).children = mapAttributesOf change node.children := by
  cases node <;> rfl

theorem mapAttributesOf_eq_map (nodes : List Node) :
    mapAttributesOf change nodes = nodes.map (Node.mapAttributes change) := by
  induction nodes with
  | nil => rfl
  | cons node rest inductionHypothesis =>
      rw [mapAttributesOf, inductionHypothesis, List.map_cons]

mutual

theorem Node.mapAttributes_mapAttributes (later : Attribute → Attribute) : ∀ node : Node,
    (node.mapAttributes change).mapAttributes later = node.mapAttributes (later ∘ change)
  | .element tag attributes children selfClosing span => by
      rw [Node.mapAttributes, Node.mapAttributes, Node.mapAttributes, List.map_map,
        mapAttributesOf_mapAttributesOf later children]
  | .text _ _ => rfl
  | .comment _ _ => rfl

theorem mapAttributesOf_mapAttributesOf (later : Attribute → Attribute) : ∀ nodes : List Node,
    mapAttributesOf later (mapAttributesOf change nodes) =
      mapAttributesOf (later ∘ change) nodes
  | [] => rfl
  | node :: rest => by
      rw [mapAttributesOf, mapAttributesOf, mapAttributesOf,
        node.mapAttributes_mapAttributes later, mapAttributesOf_mapAttributesOf later rest]

end

mutual

theorem Node.mapAttributes_id : ∀ node : Node, node.mapAttributes id = node
  | .element _ _ children _ _ => by
      rw [Node.mapAttributes, List.map_id, mapAttributesOf_id children]
  | .text _ _ => rfl
  | .comment _ _ => rfl

theorem mapAttributesOf_id : ∀ nodes : List Node, mapAttributesOf id nodes = nodes
  | [] => rfl
  | node :: rest => by rw [mapAttributesOf, node.mapAttributes_id, mapAttributesOf_id rest]

end

/-- The same path leads to the changed node. -/
theorem nodeAt?_mapAttributesOf (nodes : List Node) (path : NodePath) :
    nodeAt? (mapAttributesOf change nodes) path =
      (nodeAt? nodes path).map (Node.mapAttributes change) := by
  induction path generalizing nodes with
  | nil => rfl
  | cons index rest inductionHypothesis =>
      cases rest with
      | nil => rw [nodeAt?, nodeAt?, mapAttributesOf_eq_map, List.getElem?_map]
      | cons next others =>
          rw [nodeAt?, nodeAt?, mapAttributesOf_eq_map, List.getElem?_map, Option.bind_map,
            Option.map_bind]
          refine congrArg _ (funext fun node => ?_)
          rw [Function.comp_apply, Function.comp_apply, Node.children_mapAttributes,
            inductionHypothesis]

@[simp] theorem tagAt?_mapAttributesOf (nodes : List Node) (path : NodePath) :
    tagAt? (mapAttributesOf change nodes) path = tagAt? nodes path := by
  rw [tagAt?, nodeAt?_mapAttributesOf, Option.bind_map]
  exact congrArg _ (funext fun node => node.tag?_mapAttributes change)

@[simp] theorem isElementAt_mapAttributesOf (nodes : List Node) (path : NodePath) :
    IsElementAt (mapAttributesOf change nodes) path ↔ IsElementAt nodes path := by
  rw [IsElementAt, tagAt?_mapAttributesOf, IsElementAt]

/-- The names of a changed element come from its changed attributes. -/
theorem hasName_mapAttributesOf {nodes : List Node} {path : NodePath} {kind : NameKind}
    {name : Text} : HasName (mapAttributesOf change nodes) path kind name ↔
      ∃ node ∈ nodeAt? nodes path, ∃ a ∈ node.attributes, name ∈ (change a).namesOf kind := by
  rw [HasName, nodeAt?_mapAttributesOf]
  cases nodeAt? nodes path with
  | none => simp
  | some node => simp

end MapAttributes

end ComponentStyles
