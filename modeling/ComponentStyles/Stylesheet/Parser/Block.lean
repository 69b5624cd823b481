import ComponentStyles.Stylesheet.Basic
import ComponentStyles.Stylesheet.Parser.Value

/-!
Reading declarations, variable definitions and the blocks that hold them.
-/

namespace ComponentStyles.Cursor

/-- Reads `!important`, the next token being the exclamation mark. -/
def parseImportant (c : Cursor) : Bool × Cursor :=
  let c := c.advance.skipTrivia
  if c.kind = .identifier && Text.sameLetters c.current.text "important".toList then
    (true, c.advance.skipTrivia)
  else
    (false, c.unexpected .important)

/-- Reads the semicolon that ends a declaration; the end of the block may stand for it. -/
def finishDeclaration (c : Cursor) : Cursor :=
  match c.kind with
  | .semicolon => c.advance
  | .closeBrace | .endOfInput => c
  | _ => (c.unexpected (.token .semicolon)).skipDeclaration

/-- Reads the colon behind a name, the value, the mark and the end of a declaration. Without a
colon the declaration is skipped. -/
def parseAssignment (c : Cursor) : Option (Value × Bool) × Cursor :=
  let c := c.advance.skipTrivia
  if c.kind = .colon then
    let (value, next) := parseValue c.advance
    let (important, next) :=
      if next.kind = .bang then next.parseImportant else (false, next)
    (some (value, important), next.finishDeclaration)
  else
    (none, (c.expect .colon).skipDeclaration)

/-- Reads a variable definition, the next token being its name with its mark. -/
def parseDefinition (form : DefinitionForm) (c : Cursor) : Option Definition × Cursor :=
  let name := match form with
    | .directive => c.current.text.drop 1
    | .property => c.current.text.drop 4
  let (assigned, last) := c.parseAssignment
  (assigned.map fun (value, _) => ⟨name, value, form, ⟨c.current.span.start, last.lastEnd⟩⟩, last)

/-- Reads a declaration or a definition, the next token being its name. -/
def parseItem (c : Cursor) : Option Item × Cursor :=
  let text := c.current.text
  if Text.startsWith text "var-".toList && 4 < text.length then
    let (definition, last) := c.parseDefinition .property
    (definition.map .definition, last)
  else
    let (assigned, last) := c.parseAssignment
    (assigned.map fun (value, important) =>
      .declaration ⟨text, value, important, ⟨c.current.span.start, last.lastEnd⟩⟩, last)

/-- Whether a colon follows the next token. -/
def colonFollows (c : Cursor) : Bool :=
  c.advance.significant.kind = .colon

/-- One step through the inside of a block, up to its end. -/
def blockStep (c : Cursor) : Option (List Item × Cursor) :=
  match c.kind with
  | .whitespace | .comment | .semicolon => some ([], c.advance)
  | .closeBrace | .endOfInput => none
  | .identifier =>
      let (item, last) := c.parseItem
      some (item.toList, last)
  | .atKeyword =>
      if c.colonFollows then
        let (definition, last) := c.parseDefinition .directive
        some (definition.toList.map .definition, last)
      else
        some ([], (c.unexpected .declaration).advance.skipDeclaration)
  | _ => some ([], (c.unexpected .declaration).advance.skipDeclaration)

/-- Reads a block, the next token being its opening brace. -/
def parseBlock (c : Cursor) : Block × Cursor :=
  let (items, last) := c.advance.repeatedly blockStep
  let last := last.expect .closeBrace
  (⟨items, ⟨c.current.span.start, last.lastEnd⟩⟩, last)

end ComponentStyles.Cursor
