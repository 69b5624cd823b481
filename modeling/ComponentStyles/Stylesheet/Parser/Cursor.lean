import ComponentStyles.ParseError

/-!
The state of the stylesheet parser: the tokens still to be read, the end of the last token read
that was not trivia, and the errors so far.

Parts of a stylesheet that are kept as written are runs of tokens; `Cursor.raw` joins their
texts.
-/

namespace ComponentStyles

/-- A place in a row of tokens. -/
structure Cursor where
  rest : List Token
  /-- The end of the last token read that was not trivia. -/
  lastEnd : Nat
  /-- The end of the text. -/
  stop : Nat
  errors : List ParseError
deriving Repr

namespace Cursor

/-- The start of a text that begins `offset` bytes into its file. -/
def start (offset : Nat) (text : Text) (tokens : List Token) : Cursor :=
  ⟨tokens, offset, offset + Text.size text, []⟩

/-- The token to be read next; behind the last one stands an empty end token. -/
def current (c : Cursor) : Token :=
  c.rest.headD ⟨.endOfInput, [], .emptyAt c.stop⟩

def kind (c : Cursor) : Token.Kind :=
  c.current.kind

/-- Goes on behind `taken`, where `rest` is what follows it. -/
def goTo (c : Cursor) (taken rest : List Token) : Cursor :=
  { c with
    rest := rest
    lastEnd := ((taken.filter fun t => !t.isTrivia).getLast?.map fun t => t.span.stop).getD
      c.lastEnd }

def advance (c : Cursor) : Cursor :=
  c.goTo (c.rest.take 1) (c.rest.drop 1)

def skipTrivia (c : Cursor) : Cursor :=
  { c with rest := c.rest.dropWhile Token.isTrivia }

def significant (c : Cursor) : Token :=
  c.skipTrivia.current

theorem length_advance (c : Cursor) : c.advance.rest.length = c.rest.length - 1 := by
  simp [advance, goTo]

theorem length_skipTrivia (c : Cursor) : c.skipTrivia.rest.length ≤ c.rest.length :=
  (List.dropWhile_suffix _).length_le

/-- Records a problem at the next token. -/
def report (c : Cursor) (problem : Problem) : Cursor :=
  { c with errors := c.errors ++ [⟨problem, c.current.span⟩] }

def unexpected (c : Cursor) (expected : Expectation) : Cursor :=
  c.report (.unexpectedToken expected c.kind)

/-- Reads a token of the given kind, or records its absence. -/
def expect (c : Cursor) (kind : Token.Kind) : Cursor :=
  if c.kind = kind then c.advance
  else if c.kind = .endOfInput then c.report (.unexpectedEnd (.token kind))
  else c.unexpected (.token kind)

/-- Repeats a step that reads tokens, until it declines. A step that read nothing would be the
last one. -/
def repeatedly {α : Type} (step : Cursor → Option (List α × Cursor)) (c : Cursor) :
    List α × Cursor :=
  match step c with
  | none => ([], c)
  | some (found, next) =>
      if next.rest.length < c.rest.length then
        let (more, last) := repeatedly step next
        (found ++ more, last)
      else
        (found, next)
termination_by c.rest.length

/-- The tokens in front of the first one of a kind in `stops` that stands outside parentheses,
and the tokens from there on. -/
def splitRaw (stops : List Token.Kind) : Nat → List Token → List Token × List Token
  | _, [] => ([], [])
  | depth, token :: rest =>
      if depth = 0 && stops.contains token.kind then
        ([], token :: rest)
      else
        let depth := match token.kind with
          | .openParen | .function => depth + 1
          | .closeParen => depth - 1
          | _ => depth
        let (taken, left) := splitRaw stops depth rest
        (token :: taken, left)

/-- The tokens in front of the brace that closes the block, and the tokens from there on. The
text stands inside `depth` further blocks. -/
def splitBlock : Nat → List Token → List Token × List Token
  | _, [] => ([], [])
  | depth, token :: rest =>
      let inner (depth : Nat) : List Token × List Token :=
        let (taken, left) := splitBlock depth rest
        (token :: taken, left)
      match token.kind, depth with
      | .openBrace, depth => inner (depth + 1)
      | .closeBrace, 0 => ([], token :: rest)
      | .closeBrace, depth + 1 => inner depth
      | _, depth => inner depth

/-- The tokens in front of the semicolon or the closing brace that ends a declaration, and the
tokens from there on. -/
def splitDeclaration : Nat → List Token → List Token × List Token
  | _, [] => ([], [])
  | depth, token :: rest =>
      let inner (depth : Nat) : List Token × List Token :=
        let (taken, left) := splitDeclaration depth rest
        (token :: taken, left)
      match token.kind, depth with
      | .openBrace, depth => inner (depth + 1)
      | .closeBrace, 0 => ([], token :: rest)
      | .semicolon, 0 => ([], token :: rest)
      | .closeBrace, depth + 1 => inner depth
      | _, depth => inner depth

/-- A run of tokens as written, without the blanks around it. -/
def raw (tokens : List Token) : Text :=
  Text.trim (tokens.flatMap Token.text)

/-- Reads up to a token of a kind in `stops` and gives the text read. -/
def readRaw (c : Cursor) (stops : List Token.Kind) : Text × Cursor :=
  let (taken, rest) := splitRaw stops 0 c.rest
  (raw taken, c.goTo taken rest)

/-- Reads a whole block, the next token being its opening brace, and gives the text inside. -/
def readBlock (c : Cursor) : Text × Cursor :=
  let c := c.advance
  let (taken, rest) := splitBlock 0 c.rest
  let c := c.goTo taken rest
  (raw taken,
    if c.kind = .endOfInput then c.report (.unexpectedEnd (.token .closeBrace)) else c.advance)

/-- Skips a broken statement: through its block if it has one, else through the semicolon. -/
def skipStatement (c : Cursor) : Cursor :=
  let within (token : Token) : Bool :=
    !([.closeBrace, .semicolon, .openBrace] : List Token.Kind).contains token.kind
  let c := c.goTo (c.rest.takeWhile within) (c.rest.dropWhile within)
  match c.kind with
  | .semicolon => c.advance
  | .openBrace => c.readBlock.2
  | _ => c

/-- Skips a broken declaration through its semicolon, or up to the brace that closes its
block. -/
def skipDeclaration (c : Cursor) : Cursor :=
  let (taken, rest) := splitDeclaration 0 c.rest
  let c := c.goTo taken rest
  if c.kind = .semicolon then c.advance else c

end Cursor

end ComponentStyles
