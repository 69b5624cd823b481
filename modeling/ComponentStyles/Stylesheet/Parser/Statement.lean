import ComponentStyles.Stylesheet.Parser.Block
import ComponentStyles.Stylesheet.Parser.Selector
import ComponentStyles.Token.Lexer

/-!
Reading statements and whole stylesheets.

`parseStatements` goes on only after a statement that read at least one token, which every
statement does.
-/

namespace ComponentStyles

/-- The at-rules whose blocks hold statements. -/
def conditionalNames : List Text :=
  ["media".toList, "supports".toList, "document".toList, "layer".toList]

/-- The at-rules whose blocks hold declarations. -/
def declarationNames : List Text :=
  ["font-face".toList, "page".toList, "viewport".toList, "counter-style".toList]

/-- Whether an at-rule of this name, in lower case, never defines a variable. -/
def isReserved (name : Text) : Bool :=
  conditionalNames.contains name || declarationNames.contains name ||
    ["import".toList, "charset".toList, "namespace".toList].contains name ||
    Text.endsWith name "keyframes".toList

namespace Cursor

def parseComment (c : Cursor) : Statement × Cursor :=
  let token := c.current
  (.comment (token.text.drop 2).dropLast.dropLast token.span, c.advance)

/-- Reads a rule. Where its selectors cannot be read or no block follows, the rule is
skipped. -/
def parseRule (c : Cursor) : Option Statement × Cursor :=
  match parseSelectorList .openBrace c with
  | (.error error, last) =>
      (none, { last with errors := last.errors ++ [error] }.skipStatement)
  | (.ok selectors, last) =>
      if last.kind = .openBrace then
        let (block, last) := last.parseBlock
        (some (.rule selectors block ⟨c.current.span.start, last.lastEnd⟩), last)
      else
        (none, (last.expect .openBrace).skipStatement)

/-- Reads an import that starts at `start`, from behind its keyword. -/
def parseImport (start : Nat) (c : Cursor) : Option Statement × Cursor :=
  let c := c.skipTrivia
  let importing (target : Text) : Option Statement × Cursor :=
    let (media, last) := c.advance.skipTrivia.readRaw [.semicolon, .openBrace, .closeBrace]
    let last := last.expect .semicolon
    let media := if media.isEmpty then none else some media
    (some (.importing target media ⟨start, last.lastEnd⟩), last)
  match c.kind with
  | .string => importing (unquote c.current.text)
  | .url => importing (urlTarget c.current.text)
  | _ => (none, (c.unexpected .importTarget).skipStatement)

mutual

/-- Reads statements up to the end of the input or, when `nested`, up to the brace that closes
the block around them. -/
def parseStatements (nested : Bool) (c : Cursor) : List Statement × Cursor :=
  match c.kind with
  | .endOfInput =>
      ([], if nested then c.report (.unexpectedEnd (.token .closeBrace)) else c)
  | kind =>
      if nested && kind = .closeBrace then ([], c)
      else
        let (statement, next) : Option Statement × Cursor :=
          match kind with
          | .whitespace | .semicolon => (none, c.advance)
          | .comment =>
              let (comment, next) := c.parseComment
              (some comment, next)
          | .closeBrace => (none, (c.unexpected .statement).advance)
          | .atKeyword => parseAtRule c
          | _ => c.parseRule
        if _shorter : next.rest.length < c.rest.length then
          let (statements, last) := parseStatements nested next
          (statement.toList ++ statements, last)
        else
          (statement.toList, next)
termination_by 2 * c.rest.length + 1
decreasing_by
  · omega
  · exact (by omega : ∀ {a b : Nat}, a < b → 2 * a + 1 < 2 * b + 1) _shorter

/-- Reads an at-rule or a definition, the next token being its keyword. -/
def parseAtRule (c : Cursor) : Option Statement × Cursor :=
  let start := c.current.span.start
  let name := c.current.text.drop 1
  let known := Text.lower name
  if !isReserved known && c.colonFollows then
    let (definition, last) := c.parseDefinition .directive
    (definition.map .definition, last)
  else if known = "import".toList then
    c.advance.parseImport start
  else
    let (prelude, next) :=
      c.advance.skipTrivia.readRaw [.openBrace, .semicolon, .closeBrace]
    match next.kind with
    | .semicolon =>
        let last := next.advance
        (some (.atRule name prelude none ⟨start, last.lastEnd⟩), last)
    | .openBrace =>
        if conditionalNames.contains known then
          let body := next.advance
          if _shorter : body.rest.length < c.rest.length then
            let (statements, last) := parseStatements true body
            let last := last.expect .closeBrace
            (some (.conditional name prelude statements ⟨start, last.lastEnd⟩), last)
          else
            (none, body)
        else if declarationNames.contains known then
          let (block, last) := next.parseBlock
          (some (.atRule name prelude (some (.declarations block)) ⟨start, last.lastEnd⟩), last)
        else
          let (raw, last) := next.readBlock
          (some (.atRule name prelude (some (.raw raw)) ⟨start, last.lastEnd⟩), last)
    | _ => (none, next.expect .semicolon)
termination_by 2 * c.rest.length
decreasing_by
  exact (by omega : ∀ {a b : Nat}, a < b → 2 * a + 1 < 2 * b) _shorter

end

end Cursor

namespace Stylesheet

/-- Reads a stylesheet that starts `offset` bytes into a file. -/
def parseAt (file : File) (offset : Nat) (text : Text) : Parsed Stylesheet :=
  let start := Cursor.start offset text (Token.ofText offset text)
  let (statements, last) := start.parseStatements false
  ⟨⟨file, statements, ⟨offset, start.stop⟩⟩, last.errors⟩

/-- Reads a stylesheet that is a file of its own. -/
def parse (name text : Text) : Parsed Stylesheet :=
  parseAt (.ofText name text) 0 text

end Stylesheet

end ComponentStyles
