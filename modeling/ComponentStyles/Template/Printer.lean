import ComponentStyles.Template.Basic

/-!
Writing templates.

A value is written between double quotes, or between single quotes if it contains a double
quote.
-/

namespace ComponentStyles

/-- The quotes that an attribute value is written between. -/
def quoteFor (value : Text) : Char :=
  if value.contains '"' then '\'' else '"'

/-- The written form of an attribute, with the blank in front of it. -/
def Attribute.render (a : Attribute) : Text :=
  ' ' :: a.name ++
    a.value.elim [] fun value => '=' :: quoteFor value :: value ++ [quoteFor value]

mutual

/-- The written form of a node. -/
def Node.render : Node → Text
  | .element tag attributes children selfClosing _ =>
      '<' :: tag ++ attributes.flatMap Attribute.render ++
        if selfClosing then
          if isVoid tag then ['>'] else " />".toList
        else
          '>' :: renderNodes children ++ "</".toList ++ tag ++ ['>']
  | .text content _ => content
  | .comment content _ => "<!--".toList ++ content ++ "-->".toList

/-- The written form of a row of nodes. -/
def renderNodes : List Node → Text
  | [] => []
  | node :: rest => node.render ++ renderNodes rest

end

end ComponentStyles
