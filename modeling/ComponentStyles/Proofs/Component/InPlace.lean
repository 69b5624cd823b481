import ComponentStyles.Component.Compilation
import ComponentStyles.Proofs.Scope.Attributes
import ComponentStyles.Proofs.Template.Definition
import Mathlib.Data.List.Forall2

/-!
# Compiling the components of a template in place

A template can be compiled in place, or its components can be taken out first and compiled one by
one. Both ways compile the same components in the same order; only the warnings about stylesheets
come earlier in the second way. In place, nothing but the children of the definitions changes.
-/

namespace ComponentStyles

section Messages

variable {file : File} {tag : Text} {children : List Node} {span : Span} {message : Message}

/-- What comes up when a component is taken out is about reading its stylesheets. -/
theorem Component.code_of_mem_ofChildren
    (raised : message ∈ (Component.ofChildren file tag children span).2) :
    message.code = .parseWarning := by
  obtain ⟨parsed, -, listed⟩ := List.mem_flatMap.mp raised
  obtain ⟨error, -, rfl⟩ := List.mem_map.mp listed
  rfl

/-- A message about variables is about a definition on a cycle or about a usage of nothing. -/
theorem Stylesheet.mem_variableMessages_cases {sheet : Stylesheet} {definitions : Definitions}
    {reportUnresolved : Bool}
    (raised : message ∈ sheet.variableMessages definitions reportUnresolved) :
    (∃ d ∈ definitions.cyclic, message =
      .warning .varCycle ("var cycle detected var-".toList ++ d.name) sheet.file d.span) ∨
    ∃ d ∈ sheet.declarations, ∃ usage ∈ unresolvedOf definitions d.value.terms, message =
      .warning .unresolvedVar ("unresolved variable var-".toList ++ usage.1) sheet.file usage.2 := by
  rcases List.mem_append.mp raised with cyclic | unresolved
  · obtain ⟨d, listed, rfl⟩ := List.mem_map.mp cyclic
    exact .inl ⟨d, listed, rfl⟩
  · cases reportUnresolved with
    | false => cases unresolved
    | true =>
        obtain ⟨usage, found, rfl⟩ := List.mem_map.mp unresolved
        obtain ⟨d, declared, listed⟩ := List.mem_flatMap.mp found
        exact .inr ⟨d, declared, usage, listed, rfl⟩

/-- A message of compiling a component is about a stylesheet that is not used, or about the variables
of the one that is. -/
theorem Component.mem_messages_compile_cases {component : Component} {options : CompileOptions}
    {places : Places} (raised : message ∈ (component.compile options places).messages) :
    (∃ surplus ∈ component.stylesheets, message = .warning .duplicateStylesheet
      ("component <".toList ++ component.tag ++
        "> has more than one stylesheet; only the first is used".toList)
      surplus.file surplus.span) ∨
    ∃ sheet ∈ component.stylesheets,
      message ∈ sheet.variableMessages (.ofStylesheet sheet) options.reportUnresolved := by
  obtain ⟨tag, stylesheets, template, span⟩ := component
  cases stylesheets with
  | nil => cases raised
  | cons sheet rest =>
      rcases List.mem_append.mp raised with surplus | unfit
      · obtain ⟨other, later, rfl⟩ := List.mem_map.mp surplus
        exact .inl ⟨other, List.mem_of_mem_drop later, rfl⟩
      · exact .inr ⟨sheet, List.mem_cons_self, unfit⟩

/-- What comes up when a component is compiled is not. -/
theorem Component.code_of_mem_compile {component : Component} {options : CompileOptions}
    {places : Places} (raised : message ∈ (component.compile options places).messages) :
    message.code ≠ .parseWarning := by
  rcases Component.mem_messages_compile_cases raised with ⟨_, _, rfl⟩ | ⟨_, _, unfit⟩
  · nofun
  · rcases Stylesheet.mem_variableMessages_cases unfit with ⟨_, _, rfl⟩ | ⟨_, _, _, _, rfl⟩ <;> nofun

end Messages

section Templates

variable {file : File} {options : CompileOptions} {places : Places}

/-- The stylesheet of a definition with these children: that of the first style element. -/
def firstSheet? (file : File) (children : List Node) : Option Stylesheet :=
  (children.find? Node.isStyle).bind fun style => (style.stylesheet? file).map (·.tree)

/-- What a definition keeps of its children: all but the style elements, with the names that its
stylesheet selects on scoped. -/
def keptChildren (options : CompileOptions) (file : File) (tag : Text) (children : List Node) :
    List Node :=
  let template := children.filter fun node => !node.isStyle
  match firstSheet? file children with
  | some sheet =>
      if options.scoping then Scope.inNodes ⟨.ofStylesheet sheet, some tag⟩ template else template
  | none => template

theorem Node.isSome_stylesheet?_of_isStyle {node : Node} (isStyle : node.isStyle = true) :
    (node.stylesheet? file).isSome := by
  cases node with
  | element name attributes children selfClosing span =>
      rcases children with _ | ⟨_ | _ | _, _⟩ <;> rfl
  | text | comment => cases isStyle

theorem head?_stylesheets_ofChildren (file : File) (tag : Text) (children : List Node)
    (span : Span) :
    (Component.ofChildren file tag children span).1.stylesheets.head? =
      firstSheet? file children := by
  simp only [Component.ofChildren, firstSheet?]
  induction children with
  | nil => rfl
  | cons child rest inductionHypothesis =>
      by_cases isStyle : child.isStyle = true
      · have hasSheet : (child.stylesheet? file).isSome := Node.isSome_stylesheet?_of_isStyle isStyle
        obtain ⟨parsed, found⟩ := Option.isSome_iff_exists.mp hasSheet
        simp [isStyle, found]
      · simpa [isStyle] using inductionHypothesis

theorem Scope.inNodes_of_untagged {names : SelectorNames} (nodes : List Node) :
    Scope.inNodes ⟨names, none⟩ nodes = nodes := by
  have same : Scope.inAttribute ⟨names, none⟩ = id := by
    funext a
    have unchanged : Scope.newValue? ⟨names, none⟩ a = none := by
      simp [Scope.newValue?, Scope.rename?]
    simp [Scope.inAttribute, unchanged]
  rw [Scope.inNodes_eq, same, mapAttributesOf_id]

theorem Component.template_compile (component : Component) :
    (component.compile options places).result.template =
      match component.stylesheets.head? with
      | some sheet =>
          if options.scoping then
            Scope.inNodes ⟨.ofStylesheet sheet, some component.tag⟩ component.template
          else component.template
      | none => component.template := by
  obtain ⟨tag, stylesheets, template, span⟩ := component
  cases stylesheets with
  | nil => rfl
  | cons sheet rest =>
      cases scoping : options.scoping with
      | true => simp [Component.compile, scoping]
      | false => simp [Component.compile, scoping, Scope.inNodes_of_untagged]

@[simp] theorem keptChildren_of_not_scoping (plain : options.scoping = false) (tag : Text)
    (children : List Node) :
    keptChildren options file tag children = children.filter fun node => !node.isStyle := by
  rw [keptChildren, plain]
  cases firstSheet? file children <;> rfl

/-- The template that a definition is left with, seen from the component taken out. -/
theorem template_compile_ofChildren (tag : Text) (children : List Node) (span : Span) :
    ((Component.ofChildren file tag children span).1.compile options places).result.template =
      keptChildren options file tag children := by
  rw [Component.template_compile, head?_stylesheets_ofChildren]
  rfl

end Templates

section Nodes

/-- The component that a node defines, with the warnings about its stylesheets. -/
def Node.component? (file : File) (node : Node) : Option (Component × List Message) :=
  node.definedTag?.map fun tag => Component.ofChildren file tag node.children node.span

variable {file : File} {options : CompileOptions} {places : Places} {node : Node}

theorem Node.components_of_definedTag? {tag : Text} (defines : node.definedTag? = some tag) :
    node.components file = [Component.ofChildren file tag node.children node.span] := by
  cases node with
  | element name attributes children selfClosing span =>
      rw [Node.definedTag?] at defines
      simp [Node.components, defines, Node.children, Node.span]
  | text | comment => cases defines

theorem Node.components_of_not_definedTag? (plain : node.definedTag? = none) :
    node.components file = componentsOf file node.children := by
  cases node with
  | element name attributes children selfClosing span =>
      rw [Node.definedTag?] at plain
      simp [Node.components, plain, Node.children]
  | text | comment => rfl

theorem Node.shell_compile (node : Node) :
    (node.compile file options places).1.shell = node.shell := by
  cases node with
  | element name attributes children selfClosing span =>
      rw [Node.compile]
      split <;> rfl
  | text | comment => rfl

theorem Node.definedTag?_compile (node : Node) :
    (node.compile file options places).1.definedTag? = node.definedTag? := by
  have ofShell : ∀ other : Node, other.definedTag? = other.shell.definedTag? := by
    intro other
    cases other <;> rfl
  rw [ofShell, Node.shell_compile, ← ofShell]

theorem Node.children_compile_of_definedTag? {tag : Text} (defines : node.definedTag? = some tag) :
    (node.compile file options places).1.children =
      keptChildren options file tag node.children := by
  cases node with
  | element name attributes children selfClosing span =>
      rw [Node.definedTag?] at defines
      rw [Node.compile, defines]
      exact template_compile_ofChildren tag children span
  | text | comment => cases defines

theorem Node.children_compile_of_not_definedTag? (plain : node.definedTag? = none) :
    (node.compile file options places).1.children =
      (compileNodes file options places node.children).1 := by
  cases node with
  | element name attributes children selfClosing span =>
      rw [Node.definedTag?] at plain
      rw [Node.compile, plain]
      rfl
  | text | comment => rfl

theorem Node.outcome_compile_of_definedTag? {tag : Text} (defines : node.definedTag? = some tag) :
    (node.compile file options places).2 =
      let found := Component.ofChildren file tag node.children node.span
      let outcome := found.1.compile options places
      ⟨[{ outcome.result with template := [] }], found.2 ++ outcome.messages, outcome.log⟩ := by
  cases node with
  | element name attributes children selfClosing span =>
      rw [Node.definedTag?] at defines
      rw [Node.compile, defines]
      rfl
  | text | comment => cases defines

theorem Node.outcome_compile_of_not_definedTag? (plain : node.definedTag? = none) :
    (node.compile file options places).2 = (compileNodes file options places node.children).2 := by
  cases node with
  | element name attributes children selfClosing span =>
      rw [Node.definedTag?] at plain
      rw [Node.compile, plain]
      rfl
  | text | comment => rfl

theorem compileNodes_eq_map (nodes : List Node) :
    (compileNodes file options places nodes).1 =
      nodes.map fun node => (node.compile file options places).1 := by
  induction nodes with
  | nil => rfl
  | cons node rest inductionHypothesis =>
      rw [compileNodes, List.map_cons, ← inductionHypothesis]

/-- The same path leads to the compiled node. -/
theorem outsideAt?_compileNodes (nodes : List Node) (path : NodePath) :
    outsideAt? (compileNodes file options places nodes).1 path =
      (outsideAt? nodes path).map fun node => (node.compile file options places).1 := by
  induction path generalizing nodes with
  | nil => rfl
  | cons index rest inductionHypothesis =>
      rw [compileNodes_eq_map]
      cases rest with
      | nil => exact List.getElem?_map ..
      | cons next others =>
          rw [outsideAt?, outsideAt?, List.getElem?_map]
          cases nodes[index]? with
          | none => rfl
          | some node =>
              simp only [Option.map_some, Option.bind_some, Node.definedTag?_compile]
              cases defines : node.definedTag? with
              | some tag => rfl
              | none =>
                  rw [Node.children_compile_of_not_definedTag? defines, inductionHypothesis]
                  rfl

mutual

theorem Node.compile_of_no_definitions : ∀ {node : Node}, node.definitions = [] →
    (node.compile file options places).1 = node
  | .element name attributes children selfClosing span, without => by
      cases defines : definedTag? name attributes with
      | some tag => simp [Node.definitions, defines] at without
      | none =>
          simp only [Node.definitions, defines, Option.isSome_none] at without
          simp only [Node.compile, defines]
          rw [compileNodes_of_no_definitions without]
  | .text _ _, _ => rfl
  | .comment _ _, _ => rfl

/-- Nodes without definitions stay as they are. -/
theorem compileNodes_of_no_definitions : ∀ {nodes : List Node}, definitionsIn nodes = [] →
    (compileNodes file options places nodes).1 = nodes
  | [], _ => rfl
  | node :: rest, without => by
      obtain ⟨inNode, inRest⟩ := List.append_eq_nil_iff.mp without
      rw [compileNodes_eq_map, List.map_cons, Node.compile_of_no_definitions inNode,
        ← compileNodes_eq_map, compileNodes_of_no_definitions inRest]

end

end Nodes

section Extraction

variable {file : File} {options : CompileOptions} {places : Places}

/-- What compiling in place returns, and the children that it leaves the definitions with, fit the
components that are found there. -/
structure Fits (options : CompileOptions) (places : Places)
    (found : List (Component × List Message)) (kept : List (List Node))
    (outcome : Outcome (List Compiled)) : Prop where
  result : outcome.result =
    found.map fun entry => { (entry.1.compile options places).result with template := [] }
  kept : kept = found.map fun entry => (entry.1.compile options places).result.template
  messages : outcome.messages =
    found.flatMap fun entry => entry.2 ++ (entry.1.compile options places).messages

theorem Fits.append {found others : List (Component × List Message)}
    {kept more : List (List Node)} {first second : Outcome (List Compiled)}
    (fits : Fits options places found kept first) (rest : Fits options places others more second) :
    Fits options places (found ++ others) (kept ++ more)
      ⟨first.result ++ second.result, first.messages ++ second.messages,
        first.log ++ second.log⟩ where
  result := by rw [fits.result, rest.result, List.map_append]
  kept := by rw [fits.kept, rest.kept, List.map_append]
  messages := by rw [fits.messages, rest.messages, List.flatMap_append]

theorem Node.fits_compile_of_definedTag? {node : Node} {tag : Text}
    (defines : node.definedTag? = some tag) :
    Fits options places (node.components file)
      ((node.compile file options places).1.definitions.map Node.children)
      (node.compile file options places).2 := by
  have stays : (node.compile file options places).1.definedTag? = some tag := by
    rw [Node.definedTag?_compile, defines]
  rw [Node.components_of_definedTag? defines, Node.outcome_compile_of_definedTag? defines,
    Node.definitions_of_definedTag? stays]
  refine ⟨rfl, ?_, (List.append_nil _).symm⟩
  rw [List.map_singleton, List.map_singleton, Node.children_compile_of_definedTag? defines,
    template_compile_ofChildren]

mutual

theorem Node.fits_compile : ∀ node : Node,
    Fits options places (node.components file)
      ((node.compile file options places).1.definitions.map Node.children)
      (node.compile file options places).2
  | .element name attributes children selfClosing span => by
      cases defines : (Node.element name attributes children selfClosing span).definedTag? with
      | some tag => exact Node.fits_compile_of_definedTag? defines
      | none =>
          rw [Node.components_of_not_definedTag? defines,
            Node.outcome_compile_of_not_definedTag? defines,
            Node.definitions_of_not_definedTag? ((Node.definedTag?_compile _).trans defines),
            Node.children_compile_of_not_definedTag? defines]
          exact fits_compileNodes children
  | .text _ _ => ⟨rfl, rfl, rfl⟩
  | .comment _ _ => ⟨rfl, rfl, rfl⟩

theorem fits_compileNodes : ∀ nodes : List Node,
    Fits options places (componentsOf file nodes)
      ((definitionsIn (compileNodes file options places nodes).1).map Node.children)
      (compileNodes file options places nodes).2
  | [] => ⟨rfl, rfl, rfl⟩
  | node :: rest => by
      rw [componentsOf, compileNodes, definitionsIn, List.map_append]
      exact (Node.fits_compile node).append (fits_compileNodes rest)

end

mutual

theorem Node.components_eq : ∀ node : Node,
    node.components file = node.definitions.filterMap (Node.component? file)
  | .element name attributes children selfClosing span => by
      cases defines : (Node.element name attributes children selfClosing span).definedTag? with
      | some tag =>
          simp [Node.components_of_definedTag? defines, Node.definitions_of_definedTag? defines,
            Node.component?, defines]
      | none =>
          rw [Node.components_of_not_definedTag? defines,
            Node.definitions_of_not_definedTag? defines]
          exact componentsOf_eq children
  | .text _ _ => rfl
  | .comment _ _ => rfl

/-- Every definition gives one component. -/
theorem componentsOf_eq : ∀ nodes : List Node,
    componentsOf file nodes = (definitionsIn nodes).filterMap (Node.component? file)
  | [] => rfl
  | node :: rest => by
      rw [componentsOf, definitionsIn, List.filterMap_append, node.components_eq,
        componentsOf_eq rest]

end

theorem code_of_mem_componentsOf {nodes : List Node} {entry : Component × List Message}
    (found : entry ∈ componentsOf file nodes) {message : Message} (raised : message ∈ entry.2) :
    message.code = .parseWarning := by
  rw [componentsOf_eq] at found
  obtain ⟨definition, -, taken⟩ := List.mem_filterMap.mp found
  obtain ⟨tag, -, rfl⟩ := Option.map_eq_some_iff.mp taken
  exact Component.code_of_mem_ofChildren raised

theorem forall₂_componentsOf (nodes : List Node) :
    List.Forall₂ (fun definition entry => Node.component? file definition = some entry)
      (definitionsIn nodes) (componentsOf file nodes) := by
  rw [componentsOf_eq]
  have all : ∀ definition ∈ definitionsIn nodes, (definition.component? file).isSome := by
    intro definition listed
    rw [Node.component?, Option.isSome_map]
    exact (mem_definitionsIn_iff.mp listed).1
  generalize definitionsIn nodes = listed at all ⊢
  induction listed with
  | nil => exact .nil
  | cons definition rest inductionHypothesis =>
      obtain ⟨entry, taken⟩ := Option.isSome_iff_exists.mp (all definition List.mem_cons_self)
      rw [List.filterMap_cons_some taken]
      refine .cons taken (inductionHypothesis ?_)
      exact fun other later => all other (List.mem_cons_of_mem _ later)

theorem filter_flatMap_of_dropped {Entry : Type} {entries : List Entry}
    {part : Entry → List Message} {keep : Message → Bool}
    (dropped : ∀ entry ∈ entries, ∀ message ∈ part entry, keep message = false) :
    (entries.flatMap part).filter keep = [] := by
  refine List.filter_eq_nil_iff.mpr fun message raised => ?_
  obtain ⟨entry, listed, own⟩ := List.mem_flatMap.mp raised
  simp [dropped entry listed message own]

/-- Of two kinds of messages that come up in turns, each keeps its order when all of one kind are
put first. -/
theorem filter_flatMap_append {Entry : Type} (entries : List Entry)
    (first second : Entry → List Message) {keep : Message → Bool}
    (apart : (∀ entry ∈ entries, ∀ message ∈ first entry, keep message = false) ∨
      ∀ entry ∈ entries, ∀ message ∈ second entry, keep message = false) :
    (entries.flatMap fun entry => first entry ++ second entry).filter keep =
      (entries.flatMap first ++ entries.flatMap second).filter keep := by
  rw [List.filter_append]
  rcases apart with dropped | dropped
  · rw [filter_flatMap_of_dropped dropped, List.nil_append, List.filter_flatMap,
      List.filter_flatMap]
    refine List.flatMap_congr fun entry listed => ?_
    rw [List.filter_append, List.filter_eq_nil_iff.mpr (by simpa using dropped entry listed),
      List.nil_append]
  · rw [filter_flatMap_of_dropped dropped, List.append_nil, List.filter_flatMap,
      List.filter_flatMap]
    refine List.flatMap_congr fun entry listed => ?_
    rw [List.filter_append, List.append_right_eq_self]
    exact List.filter_eq_nil_iff.mpr (by simpa using dropped entry listed)

end Extraction

/-- Compiling a template in place and compiling the components that are taken out of it come to the
same: the compiled components, the children that the definitions are left with, and the warnings
about stylesheets and all other messages, each in its order. -/
theorem Template.compile_agrees_with_extraction (options : CompileOptions) (places : Places)
    (template : Template) :
    let (after, inPlace) := template.compile options places
    let (components, warnings) := template.components
    let outcomes := components.map (Component.compile options places)
    let messages := warnings ++ outcomes.flatMap (·.messages)
    inPlace.result = outcomes.map (fun outcome => { outcome.result with template := [] }) ∧
      (definitionsIn after.nodes).map Node.children = outcomes.map (·.result.template) ∧
      inPlace.messages.filter (·.code = .parseWarning) =
        messages.filter (·.code = .parseWarning) ∧
      inPlace.messages.filter (·.code ≠ .parseWarning) =
        messages.filter (·.code ≠ .parseWarning) := by
  obtain ⟨result, kept, messages⟩ : Fits options places (componentsOf template.file template.nodes)
      _ (compileNodes template.file options places template.nodes).2 :=
    fits_compileNodes template.nodes
  have warned : ∀ entry ∈ componentsOf template.file template.nodes, ∀ message ∈ entry.2,
      message.code = .parseWarning :=
    fun entry found message raised => code_of_mem_componentsOf found raised
  have compiling : ∀ entry ∈ componentsOf template.file template.nodes,
      ∀ message ∈ (entry.1.compile options places).messages, message.code ≠ .parseWarning :=
    fun entry found message raised => Component.code_of_mem_compile raised
  refine ⟨?_, ?_, ?_, ?_⟩
  · simpa [Template.compile, Template.components, Function.comp_def] using result
  · simpa [Template.compile, Template.components, Function.comp_def] using kept
  · rw [messages, filter_flatMap_append]
    · simp [List.flatMap_map]
    · exact .inr fun entry found message raised => by simp [compiling entry found message raised]
  · rw [messages, filter_flatMap_append]
    · simp [List.flatMap_map]
    · exact .inl fun entry found message raised => by simp [warned entry found message raised]

/-- Compiling a template in place changes nothing but the children of the outermost definitions.
All nodes outside of them stay what and where they are, as do the definitions themselves; a
definition keeps those of its children that are not style elements, scoped if they are to be; and
for each definition one component is returned, in document order. -/
theorem Template.compile_changes_only_definitions (options : CompileOptions) (places : Places)
    (template : Template) :
    let (after, outcome) := template.compile options places
    after.file = template.file ∧
      (∀ path, (outsideAt? after.nodes path).map Node.shell =
        (outsideAt? template.nodes path).map Node.shell) ∧
      (∀ path node, outsideAt? template.nodes path = some node → node.definitions = [] →
        outsideAt? after.nodes path = some node) ∧
      (∀ path definition tag, outsideAt? template.nodes path = some definition →
        definition.definedTag? = some tag → ∃ changed, outsideAt? after.nodes path = some changed ∧
          changed.children = keptChildren options template.file tag definition.children ∧
          (options.scoping = false →
            changed.children = definition.children.filter fun child => !child.isStyle)) ∧
      List.Forall₂ (fun definition compiled => ∃ component warnings,
          definition.component? template.file = some (component, warnings) ∧
            compiled = { (component.compile options places).result with template := [] })
        (definitionsIn template.nodes) outcome.result := by
  refine ⟨rfl, ?_, ?_, ?_, ?_⟩
  · intro path
    rw [outsideAt?_compileNodes, Option.map_map]
    exact congrArg (Option.map · _) (funext Node.shell_compile)
  · intro path node reached without
    rw [outsideAt?_compileNodes, reached, Option.map_some,
      Node.compile_of_no_definitions without]
  · intro path definition tag reached defines
    have children : (definition.compile template.file options places).1.children = _ :=
      Node.children_compile_of_definedTag? defines
    refine ⟨_, ?_, children, fun plain => ?_⟩
    · rw [outsideAt?_compileNodes, reached, Option.map_some]
    · rw [children, keptChildren_of_not_scoping plain]
  · have fits : Fits options places (componentsOf template.file template.nodes)
        _ (compileNodes template.file options places template.nodes).2 :=
      fits_compileNodes template.nodes
    change List.Forall₂ _ _ (compileNodes template.file options places template.nodes).2.result
    rw [fits.result, List.forall₂_map_right_iff]
    refine (forall₂_componentsOf template.nodes).imp fun definition entry taken => ?_
    exact ⟨entry.1, entry.2, taken, rfl⟩

/-- `<element name="x-card"><style>.a{}</style><p class="a b"></p></element>` -/
def cardDefinition : Node :=
  .element "element".toList [⟨"name".toList, some "x-card".toList, .detached⟩]
    [.element "style".toList [] [.text ".a{}".toList .detached] false .detached,
      .element "p".toList [⟨"class".toList, some "a b".toList, .detached⟩] [] false .detached]
    false .detached

/-- The definition inside a `<div>`. -/
def cardTemplate : Template where
  file := ⟨"card.html".toList, ⟨[0], 80⟩⟩
  nodes := [.element "div".toList [] [cardDefinition] false .detached]

theorem Template.compile_changes_only_definitions_card :
    let places : Places := ⟨⟨"src/card.html".toList⟩, ⟨"build/card.css".toList⟩⟩
    let after := (cardTemplate.compile {} places).1
    ∃ changed, outsideAt? after.nodes [0, 0] = some changed ∧
      changed.shell = cardDefinition.shell ∧
      namesOfNodes .ofClass changed.children = ["x-card_a".toList, "b".toList] := by
  intro places after
  obtain ⟨-, shells, -, definitions, -⟩ :=
    Template.compile_changes_only_definitions {} places cardTemplate
  obtain ⟨changed, reached, children, -⟩ :=
    definitions [0, 0] cardDefinition "x-card".toList rfl (by decide +kernel)
  refine ⟨changed, reached, ?_, ?_⟩
  · have same := shells [0, 0]
    rw [reached] at same
    exact Option.some.inj same
  · rw [children]
    decide +kernel

end ComponentStyles
