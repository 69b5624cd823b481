import ComponentStyles.Stylesheet.Basic

/-!
Walking over the parts of a stylesheet in document order, and changing them in place.

Conditional groups are walked through; blocks kept as written are not looked into.
-/

namespace ComponentStyles

/-- Changes the terms of an entry: those of a declaration one way, those of a definition
another. -/
def Item.mapTerms (onDeclaration onDefinition : List Term → List Term) : Item → Item
  | declaration d => .declaration { d with value.terms := onDeclaration d.value.terms }
  | definition d => .definition { d with value.terms := onDefinition d.value.terms }

def Block.mapTerms (onDeclaration onDefinition : List Term → List Term) (block : Block) : Block :=
  { block with items := block.items.map (Item.mapTerms onDeclaration onDefinition) }

def Item.definition? : Item → Option Definition
  | declaration _ => none
  | definition d => some d

def Item.declaration? : Item → Option Declaration
  | declaration d => some d
  | definition _ => none

def Item.terms : Item → List Term
  | declaration d => d.value.terms
  | definition d => d.value.terms

mutual

/-- The entries of a statement in document order. A definition outside any block is one. -/
def Statement.items : Statement → List Item
  | .rule _ block _ => block.items
  | .definition d => [.definition d]
  | .conditional _ _ statements _ => itemsOf statements
  | .atRule _ _ (some (.declarations block)) _ => block.items
  | _ => []

def itemsOf : List Statement → List Item
  | [] => []
  | statement :: rest => statement.items ++ itemsOf rest

end

mutual

/-- The selectors of the rules of a statement in document order. -/
def Statement.selectorLists : Statement → List SelectorList
  | .rule selectors _ _ => [selectors]
  | .conditional _ _ statements _ => selectorListsOf statements
  | _ => []

def selectorListsOf : List Statement → List SelectorList
  | [] => []
  | statement :: rest => statement.selectorLists ++ selectorListsOf rest

end

mutual

/-- Changes the terms of every entry of a statement. -/
def Statement.mapTerms (onDeclaration onDefinition : List Term → List Term) :
    Statement → Statement
  | .rule selectors block span =>
      .rule selectors (block.mapTerms onDeclaration onDefinition) span
  | .definition d => .definition { d with value.terms := onDefinition d.value.terms }
  | .conditional name condition statements span =>
      .conditional name condition (mapTermsOf onDeclaration onDefinition statements) span
  | .atRule name prelude (some (.declarations block)) span =>
      .atRule name prelude (some (.declarations (block.mapTerms onDeclaration onDefinition))) span
  | statement => statement

def mapTermsOf (onDeclaration onDefinition : List Term → List Term) :
    List Statement → List Statement
  | [] => []
  | statement :: rest =>
      statement.mapTerms onDeclaration onDefinition :: mapTermsOf onDeclaration onDefinition rest

end

mutual

/-- Changes the selectors of every rule of a statement. -/
def Statement.mapSelectors (change : SelectorList → SelectorList) : Statement → Statement
  | .rule selectors block span => .rule (change selectors) block span
  | .conditional name condition statements span =>
      .conditional name condition (mapSelectorsOf change statements) span
  | statement => statement

def mapSelectorsOf (change : SelectorList → SelectorList) : List Statement → List Statement
  | [] => []
  | statement :: rest => statement.mapSelectors change :: mapSelectorsOf change rest

end

/-- Drops the definitions of a block. -/
def Block.withoutDefinitions (block : Block) : Block :=
  { block with items := block.items.filter fun item => item.definition?.isNone }

mutual

/-- Drops the definitions of a statement, or the statement itself if it is one. -/
def Statement.withoutDefinitions? : Statement → Option Statement
  | .rule selectors block span => some (.rule selectors block.withoutDefinitions span)
  | .definition _ => none
  | .conditional name condition statements span =>
      some (.conditional name condition (withoutDefinitionsOf statements) span)
  | .atRule name prelude (some (.declarations block)) span =>
      some (.atRule name prelude (some (.declarations block.withoutDefinitions)) span)
  | statement => some statement

def withoutDefinitionsOf : List Statement → List Statement
  | [] => []
  | statement :: rest =>
      statement.withoutDefinitions?.toList ++ withoutDefinitionsOf rest

end

namespace Stylesheet

def items (sheet : Stylesheet) : List Item :=
  itemsOf sheet.statements

def definitions (sheet : Stylesheet) : List Definition :=
  sheet.items.filterMap Item.definition?

def declarations (sheet : Stylesheet) : List Declaration :=
  sheet.items.filterMap Item.declaration?

def selectorLists (sheet : Stylesheet) : List SelectorList :=
  selectorListsOf sheet.statements

def mapTerms (onDeclaration onDefinition : List Term → List Term) (sheet : Stylesheet) :
    Stylesheet :=
  { sheet with statements := mapTermsOf onDeclaration onDefinition sheet.statements }

def mapSelectors (change : SelectorList → SelectorList) (sheet : Stylesheet) : Stylesheet :=
  { sheet with statements := mapSelectorsOf change sheet.statements }

def withoutDefinitions (sheet : Stylesheet) : Stylesheet :=
  { sheet with statements := withoutDefinitionsOf sheet.statements }

end Stylesheet

end ComponentStyles
