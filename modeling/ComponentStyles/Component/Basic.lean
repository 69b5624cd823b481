import ComponentStyles.Message
import ComponentStyles.Stylesheet.Parser.Statement
import ComponentStyles.Template.Basic

/-!
Components and where they are defined.

A component is an element `<element name="tag">`. Its direct `<style>` children hold its
stylesheets, and all its other children are its template.
-/

namespace ComponentStyles

structure Component where
  tag : Text
  /-- The stylesheets in document order; only the first one is used. -/
  stylesheets : List Stylesheet
  template : List Node
  span : Span
deriving Repr

/-- The tag that an element with these attributes defines, if it defines a component. -/
def definedTag? (element : Text) (attributes : List Attribute) : Option Text :=
  if Text.sameLetters element "element".toList then valueOf? attributes "name".toList else none

def Node.isStyle : Node → Bool
  | element tag _ _ _ _ => Text.sameLetters tag "style".toList
  | _ => false

/-- Reads the stylesheet of a style element. An element without content has an empty stylesheet
at its end. -/
def Node.stylesheet? (file : File) : Node → Option (Parsed Stylesheet)
  | element _ _ (text content span :: _) _ _ =>
      some (Stylesheet.parseAt file span.start content)
  | element _ _ _ _ span => some (Stylesheet.parseAt file span.stop [])
  | _ => none

/-- The component with the given tag and children, and the warnings about its stylesheets. -/
def Component.ofChildren (file : File) (tag : Text) (children : List Node) (span : Span) :
    Component × List Message :=
  let parsed := (children.filter Node.isStyle).filterMap (Node.stylesheet? file)
  (⟨tag, parsed.map (·.tree), children.filter fun node => !node.isStyle, span⟩,
    parsed.flatMap fun p => p.errors.map (Message.ofParseError file))

mutual

/-- The components defined in a node. A definition inside another one belongs to the template of
that one. -/
def Node.components (file : File) : Node → List (Component × List Message)
  | .element element attributes children _ span =>
      match definedTag? element attributes with
      | some tag => [Component.ofChildren file tag children span]
      | none => componentsOf file children
  | _ => []

def componentsOf (file : File) : List Node → List (Component × List Message)
  | [] => []
  | node :: rest => node.components file ++ componentsOf file rest

end

/-- The components defined in a template, in document order, and the warnings about their
stylesheets. -/
def Template.components (template : Template) : List Component × List Message :=
  let found := componentsOf template.file template.nodes
  (found.map (·.1), found.flatMap (·.2))

end ComponentStyles
