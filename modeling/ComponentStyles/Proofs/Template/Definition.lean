import ComponentStyles.Component.Basic
import ComponentStyles.Proofs.Template.NodePath

/-!
# The definitions of a template

A definition is an element that names a component, and all that stands inside it belongs to it. So
the definitions of a template are the outermost ones, and a node stands outside of them when no node
around it is a definition.
-/

namespace ComponentStyles

/-- The tag of the component that a node defines, if it defines one. -/
def Node.definedTag? : Node → Option Text
  | .element name attributes _ _ _ => ComponentStyles.definedTag? name attributes
  | _ => none

/-- A node without what is inside it. -/
def Node.shell : Node → Node
  | .element tag attributes _ selfClosing span => .element tag attributes [] selfClosing span
  | other => other

mutual

/-- The outermost definitions in a node, in document order. -/
def Node.definitions : Node → List Node
  | .element name attributes children selfClosing span =>
      if (ComponentStyles.definedTag? name attributes).isSome then
        [.element name attributes children selfClosing span]
      else
        definitionsIn children
  | _ => []

def definitionsIn : List Node → List Node
  | [] => []
  | node :: rest => node.definitions ++ definitionsIn rest

end

/-- The node at the end of a path that passes through no definition. -/
def outsideAt? (nodes : List Node) : NodePath → Option Node
  | [] => none
  | [index] => nodes[index]?
  | index :: next :: rest =>
      nodes[index]?.bind fun node =>
        if node.definedTag?.isSome then none else outsideAt? node.children (next :: rest)

variable {node definition : Node} {nodes : List Node}

theorem Node.definitions_of_definedTag? {tag : Text} (defines : node.definedTag? = some tag) :
    node.definitions = [node] := by
  cases node with
  | element name attributes children selfClosing span =>
      rw [Node.definedTag?] at defines
      simp [Node.definitions, defines]
  | text | comment => cases defines

theorem Node.definitions_of_not_definedTag? (plain : node.definedTag? = none) :
    node.definitions = definitionsIn node.children := by
  cases node with
  | element name attributes children selfClosing span =>
      rw [Node.definedTag?] at plain
      simp [Node.definitions, plain, Node.children]
  | text | comment => rfl

theorem mem_definitionsIn : definition ∈ definitionsIn nodes ↔
    ∃ node ∈ nodes, definition ∈ node.definitions := by
  induction nodes with
  | nil => simp [definitionsIn]
  | cons node rest inductionHypothesis => simp [definitionsIn, inductionHypothesis]

theorem outsideAt?_cons {index next : Nat} {rest : NodePath} (reached : nodes[index]? = some node)
    (plain : node.definedTag? = none) :
    outsideAt? nodes (index :: next :: rest) = outsideAt? node.children (next :: rest) := by
  simp [outsideAt?, reached, plain]

/-- A node outside of all definitions is found where it stands. -/
theorem nodeAt?_of_outsideAt? {path : NodePath} (outside : outsideAt? nodes path = some node) :
    nodeAt? nodes path = some node := by
  induction path generalizing nodes with
  | nil => cases outside
  | cons index rest inductionHypothesis =>
      cases rest with
      | nil => exact outside
      | cons next others =>
          obtain ⟨parent, reached, onward⟩ := Option.bind_eq_some_iff.mp outside
          split at onward
          · cases onward
          · rw [nodeAt?, reached, Option.bind_some]
            exact inductionHypothesis onward

theorem outsideAt?_of_child {path : NodePath} (plain : node.definedTag? = none)
    (inside : outsideAt? node.children path = some definition) :
    outsideAt? (node :: nodes) (0 :: path) = some definition := by
  cases path with
  | nil => cases inside
  | cons next rest => rwa [outsideAt?_cons List.getElem?_cons_zero plain]

theorem outsideAt?_succ (index : Nat) (rest : NodePath) :
    outsideAt? (node :: nodes) ((index + 1) :: rest) = outsideAt? nodes (index :: rest) := by
  cases rest <;> simp [outsideAt?]

mutual

theorem Node.exists_path_of_mem_definitions : ∀ {node : Node}, definition ∈ node.definitions →
    definition.definedTag?.isSome ∧ (node = definition ∨
      node.definedTag? = none ∧ ∃ path, outsideAt? node.children path = some definition)
  | .element name attributes children selfClosing span, listed => by
      cases defines : (Node.element name attributes children selfClosing span).definedTag? with
      | some tag =>
          rw [Node.definitions_of_definedTag? defines, List.mem_singleton] at listed
          subst listed
          exact ⟨Option.isSome_of_eq_some defines, .inl rfl⟩
      | none =>
          rw [Node.definitions_of_not_definedTag? defines] at listed
          obtain ⟨isDefinition, found⟩ := exists_path_of_mem_definitionsIn listed
          exact ⟨isDefinition, .inr ⟨rfl, found⟩⟩
  | .text _ _, listed => nomatch listed
  | .comment _ _, listed => nomatch listed

theorem exists_path_of_mem_definitionsIn : ∀ {nodes : List Node},
    definition ∈ definitionsIn nodes →
      definition.definedTag?.isSome ∧ ∃ path, outsideAt? nodes path = some definition
  | node :: rest, listed => by
      rcases List.mem_append.mp listed with inside | later
      · obtain ⟨isDefinition, same | ⟨plain, path, found⟩⟩ :=
          Node.exists_path_of_mem_definitions inside
        · exact ⟨isDefinition, [0], by simp [outsideAt?, same]⟩
        · exact ⟨isDefinition, 0 :: path, outsideAt?_of_child plain found⟩
      · obtain ⟨isDefinition, path, found⟩ := exists_path_of_mem_definitionsIn later
        cases path with
        | nil => cases found
        | cons index more =>
            exact ⟨isDefinition, (index + 1) :: more, by rwa [outsideAt?_succ]⟩

end

/-- The listed definitions are those that stand outside of all others. -/
theorem mem_definitionsIn_iff : definition ∈ definitionsIn nodes ↔
    definition.definedTag?.isSome ∧ ∃ path, outsideAt? nodes path = some definition := by
  refine ⟨exists_path_of_mem_definitionsIn, ?_⟩
  rintro ⟨isDefinition, path, outside⟩
  induction path generalizing nodes with
  | nil => cases outside
  | cons index rest inductionHypothesis =>
      cases rest with
      | nil =>
          obtain ⟨tag, defines⟩ := Option.isSome_iff_exists.mp isDefinition
          have member : definition ∈ nodes := List.mem_of_getElem? outside
          refine mem_definitionsIn.mpr ⟨definition, member, ?_⟩
          simp [Node.definitions_of_definedTag? defines]
      | cons next others =>
          obtain ⟨parent, reached, onward⟩ := Option.bind_eq_some_iff.mp outside
          split at onward
          case isTrue => cases onward
          case isFalse plain =>
            have plain : parent.definedTag? = none := by simpa using plain
            refine mem_definitionsIn.mpr ⟨parent, List.mem_of_getElem? reached, ?_⟩
            rw [Node.definitions_of_not_definedTag? plain]
            exact inductionHypothesis onward

end ComponentStyles
