import ComponentStyles.Token.Basic

/-!
What can be wrong with a stylesheet or a template.

Parsing always goes on after an error, so errors are collected beside the tree. An error is a
cause; the wording is `Problem.message`.
-/

namespace ComponentStyles

/-- What a parser was looking for. -/
inductive Expectation where
  | token (kind : Token.Kind)
  | statement
  | importTarget
  | declaration
  | value
  | important
  | selector
  | tagEnd
  | commentEnd
deriving DecidableEq, Repr

def Expectation.name : Expectation → Text
  | token kind => kind.name
  | statement => "statement".toList
  | importTarget => "import url".toList
  | declaration => "declaration".toList
  | value => "value".toList
  | important => "'important'".toList
  | selector => "selector".toList
  | tagEnd => "'>'".toList
  | commentEnd => "'-->'".toList

inductive SelectorFault where
  | blank
  | danglingCombinator
  | missingClassName
  | unclosedAttribute
  | missingPseudoName
  | unclosedArgument
deriving DecidableEq, Repr

def SelectorFault.message : SelectorFault → Text
  | blank => "empty selector".toList
  | danglingCombinator => "selector ends with a combinator".toList
  | missingClassName => "expected a class name after '.'".toList
  | unclosedAttribute => "unclosed attribute selector".toList
  | missingPseudoName => "expected a pseudo-class name".toList
  | unclosedArgument => "unclosed pseudo-class argument".toList

inductive UsageFault where
  | missingName
  | missingFallback
  | longFallback
deriving DecidableEq, Repr

def UsageFault.message : UsageFault → Text
  | missingName => "expected a variable name".toList
  | missingFallback => "missing fallback value".toList
  | longFallback => "fallback must be a single term".toList

inductive AttributeFault where
  | unexpectedCharacter (c : Char)
  | unterminatedValue
deriving DecidableEq, Repr

def AttributeFault.message : AttributeFault → Text
  | unexpectedCharacter c => "unexpected character in tag: '".toList ++ [c, '\'']
  | unterminatedValue => "unterminated attribute value".toList

inductive Problem where
  | unexpectedToken (expected : Expectation) (found : Token.Kind)
  | unexpectedEnd (expected : Expectation)
  | selector (fault : SelectorFault)
  | usage (fault : UsageFault)
  | unclosedTag (name : Text)
  | mismatchedTag (expected found : Text)
  | attribute (fault : AttributeFault)
deriving DecidableEq, Repr

def Problem.message : Problem → Text
  | unexpectedToken expected found =>
      "unexpected token: expected ".toList ++ expected.name ++ ", found ".toList ++ found.name
  | unexpectedEnd expected => "unexpected end of file: expected ".toList ++ expected.name
  | selector fault => "invalid selector: ".toList ++ fault.message
  | usage fault => "invalid var usage: ".toList ++ fault.message
  | unclosedTag name => "unclosed tag: <".toList ++ name ++ ['>']
  | mismatchedTag expected found =>
      "mismatched closing tag: expected </".toList ++ expected ++ ">, found </".toList ++ found ++
        ['>']
  | .attribute fault => "invalid attribute: ".toList ++ fault.message

/-- A problem and where it was noticed. -/
structure ParseError where
  problem : Problem
  span : Span
deriving DecidableEq, Repr

/-- A tree and what was wrong with the text it was read from. -/
structure Parsed (Tree : Type) where
  tree : Tree
  errors : List ParseError
deriving Repr

end ComponentStyles
