import ComponentStyles.Stylesheet.Basic

/-!
Writing stylesheets.

The layout in lines puts every declaration on a line of its own, two blanks further in than its
block. The compact layout puts every statement at the top on one line. A declaration without
terms has no written form and is left out.
-/

namespace ComponentStyles

/-- How a stylesheet is laid out. -/
inductive Layout where
  | lines
  | compact
deriving DecidableEq, Repr

def Layout.separator : Layout → Nat → Text
  | .lines, depth => '\n' :: List.replicate (2 * depth) ' '
  | .compact, _ => [' ']

def Operator.char : Operator → Char
  | comma => ','
  | slash => '/'

/-- Whether a target can only be written between quotes. -/
def needsQuotes (target : Text) : Bool :=
  target.any fun c => Text.isBlank c || ['(', ')', '\'', '"'].contains c

/-- A target between double quotes, a backslash in front of each double quote inside. -/
def quoteTarget (target : Text) : Text :=
  '"' :: target.flatMap (fun c => if c = '"' then ['\\', '"'] else [c]) ++ ['"']

mutual

def Term.render : Term → Text
  | .literal text _ => text
  | .usage name none _ => "var(".toList ++ name ++ [')']
  | .usage name (some fallback) _ =>
      "var(".toList ++ name ++ ", ".toList ++ fallback.render ++ [')']
  | .url target _ =>
      "url(".toList ++ (if needsQuotes target then quoteTarget target else target) ++ [')']
  | .call name arguments _ _ => name ++ '(' :: renderTerms false arguments ++ [')']
  | .operator op _ => [op.char]

/-- The written form of a row of terms. A blank stands between two terms, but not in front of a
separator nor behind a slash; `due` says whether one is due in front of the first term. -/
def renderTerms (due : Bool) : List Term → Text
  | [] => []
  | .operator op _ :: rest => op.char :: renderTerms (op != .slash) rest
  | term :: rest => (if due then [' '] else []) ++ term.render ++ renderTerms true rest

end

def Value.render (value : Value) : Text :=
  renderTerms false value.terms

/-- The written form of a combinator. In front of the first part of a selector `first` holds. -/
def Combinator.render (first : Bool) : Combinator → Text
  | same => []
  | descendant => if first then [] else [' ']
  | child => if first then "> ".toList else " > ".toList
  | next => if first then "+ ".toList else " + ".toList
  | subsequent => if first then "~ ".toList else " ~ ".toList

def PseudoForm.render : PseudoForm → Text
  | ofClass => [':']
  | ofElement => [':', ':']

mutual

def SimpleSelector.render : SimpleSelector → Text
  | .universal _ => ['*']
  | .element name _ => name
  | .byClass name _ => '.' :: name
  | .byId name _ => '#' :: name
  | .attribute raw _ => '[' :: raw ++ [']']
  | .pseudo form name .absent _ => form.render ++ name
  | .pseudo form name (.raw text) _ => form.render ++ name ++ '(' :: text ++ [')']
  | .pseudo form name (.selectors list _) _ =>
      form.render ++ name ++ '(' :: renderSelectors true list ++ [')']

def renderSelectors (first : Bool) : List Selector → Text
  | [] => []
  | .mk parts _ :: rest =>
      (if first then [] else ", ".toList) ++ renderParts true parts ++ renderSelectors false rest

def renderParts (first : Bool) : List SelectorPart → Text
  | [] => []
  | .mk combinator simple :: rest =>
      combinator.render first ++ simple.render ++ renderParts false rest

end

def SelectorList.render (list : SelectorList) : Text :=
  renderSelectors true list.selectors

def DefinitionForm.mark : DefinitionForm → Text
  | directive => ['@']
  | property => "var-".toList

def Definition.render (d : Definition) : Text :=
  d.form.mark ++ d.name ++ ": ".toList ++ d.value.render ++ [';']

def Declaration.render (d : Declaration) : Text :=
  d.property ++ ": ".toList ++ d.value.render ++
    (if d.important then " !important;".toList else [';'])

/-- The written form of an entry of a block, unless it has none. -/
def Item.render? : Item → Option Text
  | declaration d => if d.value.terms.isEmpty then none else some d.render
  | definition d => some d.render

def Block.render (layout : Layout) (depth : Nat) (block : Block) : Text :=
  " \x7b".toList ++
    (block.items.filterMap Item.render?).flatMap (layout.separator (depth + 1) ++ ·) ++
    layout.separator depth ++ ['\x7d']

/-- An at-keyword and what stands between it and the block or the semicolon. -/
def renderAtHead (name prelude : Text) : Text :=
  '@' :: name ++ (if prelude.isEmpty then [] else ' ' :: prelude)

mutual

def Statement.render (layout : Layout) (depth : Nat) : Statement → Text
  | .rule selectors block _ => selectors.render ++ block.render layout depth
  | .definition d => d.render
  | .importing target media _ =>
      "@import \"".toList ++ target ++ '"' :: (media.elim [] (' ' :: ·)) ++ [';']
  | .conditional name condition statements _ =>
      renderAtHead name condition ++ " \x7b".toList ++
        renderStatements layout (depth + 1) statements ++ layout.separator depth ++ ['\x7d']
  | .atRule name prelude none _ => renderAtHead name prelude ++ [';']
  | .atRule name prelude (some (.declarations block)) _ =>
      renderAtHead name prelude ++ block.render layout depth
  | .atRule name prelude (some (.raw text)) _ =>
      renderAtHead name prelude ++ " \x7b ".toList ++ text ++ " \x7d".toList
  | .comment text _ => "/*".toList ++ text ++ "*/".toList

/-- The written form of nested statements, each behind a separator. -/
def renderStatements (layout : Layout) (depth : Nat) : List Statement → Text
  | [] => []
  | statement :: rest =>
      layout.separator depth ++ statement.render layout depth ++ renderStatements layout depth rest

end

/-- The written form of a stylesheet: its statements, each starting on a new line. -/
def Stylesheet.render (layout : Layout) (sheet : Stylesheet) : Text :=
  Text.join ['\n'] (sheet.statements.map (Statement.render layout 0))

end ComponentStyles
