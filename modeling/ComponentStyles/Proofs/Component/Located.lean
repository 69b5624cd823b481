import ComponentStyles.Proofs.Component.InPlace
import ComponentStyles.Proofs.Component.WellFormed
import ComponentStyles.Proofs.Source.Lines
import ComponentStyles.Proofs.Stylesheet.Located.Statement
import ComponentStyles.Proofs.Template.Located
import ComponentStyles.Proofs.Variable.Cycle

/-!
# Where messages point

The stylesheet of a component is read from a text node of its template, so its offsets are offsets
into the template. Every message that comes up when a template is read and compiled points at a part
of the template.
-/

namespace ComponentStyles

variable {text : Text} {file : File} {message : Message} {sheet : Stylesheet} {node : Node}

section Messages

/-- A message points at a part of a text. If it is about a variable on a cycle, that part starts
with the name of the variable behind one of the marks of a definition. -/
def Message.PointsInto (text : Text) (message : Message) : Prop :=
  ∃ part, message.location.PointsAt text part ∧
    (message.code = .varCycle → ∃ name,
      message.text = "var cycle detected var-".toList ++ name ∧
        ('@' :: name <+: part ∨ "var-".toList ++ name <+: part))

theorem Message.pointsInto_warning {code : MessageCode} {name words : Text} {span : Span}
    (other : code ≠ .varCycle) (within : span.IsWithin text) :
    (warning code words (.ofText name text) span).PointsInto text := by
  obtain ⟨part, covers⟩ := within.exists_covers
  exact ⟨part, File.pointsAt_locate name covers, fun same => absurd same other⟩

theorem Message.pointsInto_cycle {name : Text} {d : Definition} (standsIn : d.StandsIn text) :
    (warning .varCycle ("var cycle detected var-".toList ++ d.name) (.ofText name text)
      d.span).PointsInto text := by
  obtain ⟨part, covers, starts⟩ := standsIn
  refine ⟨part, File.pointsAt_locate name covers, fun _ => ⟨d.name, rfl, ?_⟩⟩
  cases form : d.form with
  | directive =>
      rw [form] at starts
      exact .inl starts
  | property =>
      rw [form] at starts
      exact .inr starts

theorem Message.pointsInto_ofParseError {name : Text} {e : ParseError}
    (within : e.span.IsWithin text) : (ofParseError (.ofText name text) e).PointsInto text :=
  pointsInto_warning nofun within

end Messages

section Stylesheets

theorem Stylesheet.pointsInto_of_mem_variableMessages {name : Text} {reportUnresolved : Bool}
    (ofFile : sheet.file = .ofText name text) (standsIn : sheet.StandsIn text)
    (raised : message ∈ sheet.variableMessages (.ofStylesheet sheet) reportUnresolved) :
    message.PointsInto text := by
  rcases Stylesheet.mem_variableMessages_cases raised with
    ⟨d, cyclic, rfl⟩ | ⟨d, declared, usage, listed, rfl⟩
  · obtain ⟨item, entry, isDefinition⟩ := List.mem_filterMap.mp
      (Definitions.mem_definitions_of_mem_ofStylesheet (List.mem_filter.mp cyclic).1)
    cases item with
    | declaration => cases isDefinition
    | definition =>
        cases isDefinition
        rw [ofFile]
        exact Message.pointsInto_cycle (standsIn.items _ entry)
  · obtain ⟨item, entry, isDeclaration⟩ := List.mem_filterMap.mp declared
    cases item with
    | definition => cases isDeclaration
    | declaration =>
        cases isDeclaration
        rw [ofFile]
        exact Message.pointsInto_warning nofun (standsIn.items _ entry _ usage listed)

/-- The messages of compiling a component point to where its stylesheets stand. -/
theorem Component.pointsInto_of_mem_compile (name : Text) {component : Component}
    {options : CompileOptions} {places : Places}
    (sheets : ∀ sheet ∈ component.stylesheets, sheet.file = .ofText name text ∧ sheet.StandsIn text)
    (raised : message ∈ (component.compile options places).messages) :
    message.PointsInto text := by
  rcases Component.mem_messages_compile_cases raised with
    ⟨surplus, listed, rfl⟩ | ⟨sheet, listed, unfit⟩
  · obtain ⟨ofFile, standsIn⟩ := sheets surplus listed
    rw [ofFile]
    exact Message.pointsInto_warning nofun standsIn.span
  · obtain ⟨ofFile, standsIn⟩ := sheets sheet listed
    exact sheet.pointsInto_of_mem_variableMessages ofFile standsIn unfit

end Stylesheets

section Templates

/-- The stylesheet of a style element stands in the text where its text node does. -/
theorem Node.standsIn_stylesheet? {parsed : Parsed Stylesheet} (standsIn : node.StandsIn text)
    (found : node.stylesheet? file = some parsed) :
    parsed.tree.file = file ∧ parsed.tree.StandsIn text ∧
      ∀ e ∈ parsed.errors, e.span.IsWithin text := by
  unfold Node.stylesheet? at found
  split at found
  · -- The text node covers its content, so the stylesheet starts where the content does.
    cases found
    obtain ⟨_, ⟨before, starts, rfl⟩, _⟩ := standsIn
    exact ⟨rfl, Stylesheet.standsIn_parseAt file starts⟩
  · cases found
    obtain ⟨⟨before, starts, size⟩, _⟩ := standsIn
    rw [← size]
    exact ⟨rfl, Stylesheet.standsIn_parseAt file (by rwa [List.append_nil])⟩
  · cases found

mutual

theorem Node.standsIn_of_mem_definitions {definition : Node} : ∀ {node : Node},
    node.StandsIn text → definition ∈ node.definitions → definition.StandsIn text
  | .element name attributes children selfClosing span, standsIn, listed => by
      rw [Node.definitions] at listed
      split at listed
      · rw [List.mem_singleton.mp listed]
        exact standsIn
      · exact standsIn_of_mem_definitionsIn standsIn.2 listed
  | .text _ _, _, listed => by cases listed
  | .comment _ _, _, listed => by cases listed

theorem standsIn_of_mem_definitionsIn {definition : Node} : ∀ {nodes : List Node},
    NodesStandIn text nodes → definition ∈ definitionsIn nodes → definition.StandsIn text
  | [], _, listed => by cases listed
  | node :: rest, standIn, listed => by
      rcases List.mem_append.mp listed with listed | listed
      · exact Node.standsIn_of_mem_definitions standIn.1 listed
      · exact standsIn_of_mem_definitionsIn standIn.2 listed

end

/-- All that is said about the components in nodes points to where the nodes stand. -/
theorem pointsInto_of_mem_componentsOf {name : Text} {nodes : List Node}
    {entry : Component × List Message} {options : CompileOptions} {places : Places}
    (standIn : NodesStandIn text nodes) (found : entry ∈ componentsOf (.ofText name text) nodes)
    (raised : message ∈ entry.2 ++ (entry.1.compile options places).messages) :
    message.PointsInto text := by
  rw [componentsOf_eq] at found
  obtain ⟨definition, listed, taken⟩ := List.mem_filterMap.mp found
  obtain ⟨tag, -, rfl⟩ := Option.map_eq_some_iff.mp taken
  have children : NodesStandIn text definition.children := by
    have standsIn := standsIn_of_mem_definitionsIn standIn listed
    cases definition with
    | element => exact standsIn.2
    | text | comment => trivial
  have parsed : ∀ parsed ∈ (definition.children.filter Node.isStyle).filterMap
      (Node.stylesheet? (.ofText name text)), parsed.tree.file = .ofText name text ∧
        parsed.tree.StandsIn text ∧ ∀ e ∈ parsed.errors, e.span.IsWithin text := by
    intro parsed read
    obtain ⟨style, child, ofStyle⟩ := List.mem_filterMap.mp read
    exact Node.standsIn_stylesheet?
      (nodesStandIn_iff.mp children style (List.mem_filter.mp child).1) ofStyle
  rcases List.mem_append.mp raised with warned | compiled
  · obtain ⟨source, read, listed⟩ := List.mem_flatMap.mp warned
    obtain ⟨e, failed, rfl⟩ := List.mem_map.mp listed
    exact Message.pointsInto_ofParseError ((parsed source read).2.2 e failed)
  · refine Component.pointsInto_of_mem_compile name (fun sheet used => ?_) compiled
    obtain ⟨source, read, rfl⟩ := List.mem_map.mp used
    exact ⟨(parsed source read).1, (parsed source read).2.1⟩

/-- The messages of compiling a template are those of its components. -/
theorem Template.messages_compile (options : CompileOptions) (places : Places)
    (template : Template) : (template.compile options places).2.messages =
      (componentsOf template.file template.nodes).flatMap fun entry =>
        entry.2 ++ (entry.1.compile options places).messages :=
  (fits_compileNodes template.nodes).messages

end Templates

/-- Every message points at real text. Whatever a template reads, each message about reading and
compiling it covers a part of the text and knows the line and the column at which the part starts. A
message about a variable on a cycle points at a definition of that variable. -/
theorem Template.messages_point_into_text (name text : Text) (options : CompileOptions)
    (places : Places) :
    let parsed := Template.parse name text
    ∀ message ∈ parsed.errors.map (Message.ofParseError parsed.tree.file) ++
        (parsed.tree.compile options places).2.messages, message.PointsInto text := by
  intro parsed message raised
  obtain ⟨nodes, errors⟩ := Template.standsIn_parse name text
  rcases List.mem_append.mp raised with warned | compiled
  · obtain ⟨e, failed, rfl⟩ := List.mem_map.mp warned
    exact Message.pointsInto_ofParseError (errors e failed)
  · rw [Template.messages_compile] at compiled
    obtain ⟨entry, found, raised⟩ := List.mem_flatMap.mp compiled
    exact pointsInto_of_mem_componentsOf nodes found raised

/-- A variable that refers to itself, on the second line. -/
def loopSource : Text :=
  "<element name=\"x-loop\"><style>\n@size: var(size);</style></element>".toList

theorem Template.messages_point_into_text_loop :
    let parsed := Template.parse "loop.html".toList loopSource
    let places : Places := ⟨⟨"src/loop.html".toList⟩, ⟨"build/loop.css".toList⟩⟩
    ∃ message ∈ parsed.errors.map (Message.ofParseError parsed.tree.file) ++
        (parsed.tree.compile {} places).2.messages,
      message.code = .varCycle ∧ message.PointsInto loopSource := by
  intro parsed places
  obtain ⟨entry, listed, sheet, first, d, defined, refers⟩ :
      ∃ entry ∈ componentsOf parsed.tree.file parsed.tree.nodes,
        ∃ sheet ∈ entry.1.stylesheets.head?, ∃ d ∈ (Definitions.ofStylesheet sheet).toList,
          d.name ∈ (Definitions.ofStylesheet sheet).references d.name := by
    decide +kernel
  have cyclic : d ∈ (Definitions.ofStylesheet sheet).cyclic :=
    List.mem_filter.mpr ⟨defined,
      Definitions.isCyclic_iff.mpr (.single (Definitions.mem_references_iff.mp refers))⟩
  obtain ⟨message, ofCycle, ofComponent⟩ : ∃ message : Message, message.code = .varCycle ∧
      message ∈ (entry.1.compile {} places).messages := by
    obtain ⟨⟨tag, stylesheets, template, span⟩, warnings⟩ := entry
    obtain ⟨rest, rfl⟩ := List.head?_eq_some_iff.mp first
    exact ⟨_, rfl, List.mem_append_right _
      (List.mem_append_left _ (List.mem_map.mpr ⟨d, cyclic, rfl⟩))⟩
  have raised : message ∈ parsed.errors.map (Message.ofParseError parsed.tree.file) ++
      (parsed.tree.compile {} places).2.messages := by
    rw [Template.messages_compile]
    exact List.mem_append_right _
      (List.mem_flatMap.mpr ⟨entry, listed, List.mem_append_right _ ofComponent⟩)
  exact ⟨message, raised, ofCycle,
    Template.messages_point_into_text "loop.html".toList loopSource {} places message raised⟩

end ComponentStyles
