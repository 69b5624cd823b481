import ComponentStyles.Component.Basic
import ComponentStyles.Reference.Import
import ComponentStyles.Reference.Relocation
import ComponentStyles.Scope.Map
import ComponentStyles.Stylesheet.Printer
import ComponentStyles.Variable.Substitution

/-!
Compiling components.

The stylesheet of a component loses its variables, has its references moved to where it will be
written, and has its names scoped together with those of the template.
-/

namespace ComponentStyles

structure CompileOptions where
  /-- Whether names are scoped with the tag of the component. -/
  scoping : Bool := true
  reportUnresolved : Bool := false
  /-- Whether every change of an attribute is logged. -/
  trace : Bool := false
  layout : Layout := .lines
deriving DecidableEq, Repr

/-- Where a component file is read and where its stylesheet is written. -/
structure Places where
  source : Path
  target : Path
deriving DecidableEq, Repr

structure Compiled where
  tag : Text
  /-- The written stylesheet; empty for a component without one. -/
  css : Text
  imports : List Import
  selectors : SelectorMap
  template : List Node
deriving Repr

/-- A result with the messages and log lines that came up on the way. -/
structure Outcome (Result : Type) where
  result : Result
  messages : List Message := []
  log : List Text := []
deriving Repr

namespace Component

/-- The warnings about stylesheets behind the first one. -/
def surplusMessages (component : Component) : List Message :=
  (component.stylesheets.drop 1).map fun sheet =>
    .warning .duplicateStylesheet
      ("component <".toList ++ component.tag ++
        "> has more than one stylesheet; only the first is used".toList)
      sheet.file sheet.span

/-- The log line that sums a compilation up. -/
def summary (tag : Text) (defined stripped moved imports selectors : Nat) : Text :=
  "compiled <".toList ++ tag ++ ">: ".toList ++ Text.numeral defined ++
    " variables (".toList ++ Text.numeral stripped ++ " definitions stripped), ".toList ++
    Text.numeral moved ++ " urls rewritten, ".toList ++ Text.numeral imports ++
    " imports, ".toList ++ Text.numeral selectors ++ " selectors".toList

def compile (options : CompileOptions) (places : Places) (component : Component) :
    Outcome Compiled :=
  let tag := if options.scoping then some component.tag else none
  match component.stylesheets with
  | [] =>
      { result := ⟨component.tag, [], [], .ofScope ⟨⟨[], []⟩, tag⟩, component.template⟩ }
  | sheet :: _ =>
      let scope : Scope := ⟨.ofStylesheet sheet, tag⟩
      let definitions := Definitions.ofStylesheet sheet
      let move := Relocation.ofFiles places.source places.target
      let plain := (sheet.resolve definitions).withoutDefinitions
      let moved := plain.relocate move
      let imports := moved.imports places.source
      let selectors := SelectorMap.ofScope scope
      { result :=
          ⟨component.tag, (scope.inStylesheet moved).render options.layout, imports, selectors,
            scope.inNodes component.template⟩
        messages :=
          component.surplusMessages ++
            sheet.variableMessages definitions options.reportUnresolved
        log :=
          (if options.trace then (scope.changes component.template).map Renaming.render else []) ++
            [summary component.tag definitions.size sheet.definitions.length
              (plain.relocatedCount move) imports.length selectors.size] }

end Component

mutual

/-- Compiles the components defined in a node. Each keeps its scoped template as its only
children. -/
def Node.compile (file : File) (options : CompileOptions) (places : Places) :
    Node → Node × Outcome (List Compiled)
  | .element element attributes children selfClosing span =>
      match definedTag? element attributes with
      | some tag =>
          let (component, warnings) := Component.ofChildren file tag children span
          let outcome := component.compile options places
          (.element element attributes outcome.result.template selfClosing span,
            ⟨[{ outcome.result with template := [] }], warnings ++ outcome.messages, outcome.log⟩)
      | none =>
          let (children, outcome) := compileNodes file options places children
          (.element element attributes children selfClosing span, outcome)
  | node => (node, ⟨[], [], []⟩)

def compileNodes (file : File) (options : CompileOptions) (places : Places) :
    List Node → List Node × Outcome (List Compiled)
  | [] => ([], ⟨[], [], []⟩)
  | node :: rest =>
      let (node, first) := node.compile file options places
      let (rest, others) := compileNodes file options places rest
      (node :: rest,
        ⟨first.result ++ others.result, first.messages ++ others.messages,
          first.log ++ others.log⟩)

end

/-- Compiles every component defined in a template, in place and in document order. -/
def Template.compile (options : CompileOptions) (places : Places) (template : Template) :
    Template × Outcome (List Compiled) :=
  let (nodes, outcome) := compileNodes template.file options places template.nodes
  ({ template with nodes := nodes }, outcome)

end ComponentStyles
