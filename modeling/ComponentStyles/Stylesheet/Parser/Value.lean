import ComponentStyles.Stylesheet.Parser.Cursor
import ComponentStyles.Stylesheet.Value

/-!
Reading values.

`parseTerms` and `skipFallback` go on only after a term that read at least one token. Every
term does, unless the input has ended.
-/

namespace ComponentStyles

/-- The text between two equal quotes, or the text itself where it is not quoted. -/
def unquote : Text → Text
  | [] => []
  | [c] => [c]
  | c :: d :: rest =>
      if (c = '"' || c = '\'') && (d :: rest).getLast? = some c then (d :: rest).dropLast
      else c :: d :: rest

/-- The target of a whole `url(...)`. -/
def urlTarget (text : Text) : Text :=
  unquote (Text.trim (text.drop 4).dropLast)

namespace Cursor

/-- Whether a name that starts with two hyphens comes next: a native custom property, which
the variables of stylesheets have nothing to do with. -/
def atCustomProperty (c : Cursor) : Bool :=
  c.significant.kind = .identifier && Text.startsWith c.significant.text ['-', '-']

def atValueEnd (c : Cursor) : Bool :=
  match c.kind with
  | .semicolon | .closeBrace | .bang | .closeParen | .endOfInput => true
  | _ => false

def atFallbackEnd (c : Cursor) : Bool :=
  match c.kind with
  | .semicolon | .closeBrace | .closeParen | .endOfInput => true
  | _ => false

private theorem length_step (c : Cursor) : c.advance.skipTrivia.rest.length ≤ c.rest.length := by
  have := c.advance.length_skipTrivia
  have := c.length_advance
  omega

private theorem termBelow {a b : Nat} (h : a ≤ b) : 4 * a < 4 * b + 2 := by omega

private theorem skipBelow {a b : Nat} (h : a ≤ b) : 4 * a + 1 < 4 * b + 2 := by omega

private theorem againBelow {a b : Nat} (h : a < b) : 4 * a + 1 < 4 * b + 1 := by omega

mutual

/-- Reads one term. A brace or a square bracket is reported and gives no term. -/
def parseTerm (c : Cursor) : Option Term × Cursor :=
  match _h : c.rest with
  | [] => (some (.literal [] c.current.span), c)
  | token :: _ =>
      match token.kind with
      | .comma => (some (.operator .comma token.span), c.advance)
      | .slash => (some (.operator .slash token.span), c.advance)
      | .url => (some (.url (urlTarget token.text) token.span), c.advance)
      | .function =>
          let name := token.text.dropLast
          if Text.sameLetters name "var".toList && !c.advance.atCustomProperty then
            parseUsage token.span.start c.advance
          else
            let (arguments, last) := parseValue c.advance
            let last := last.expect .closeParen
            (some (.call name arguments.terms arguments.span ⟨token.span.start, last.lastEnd⟩),
              last)
      | .openParen =>
          let (arguments, last) := parseValue c.advance
          let last := last.expect .closeParen
          (some (.call [] arguments.terms arguments.span ⟨token.span.start, last.lastEnd⟩), last)
      | .openBrace | .openBracket | .closeBracket => (none, (c.unexpected .value).advance)
      | _ => (some (.literal token.text token.span), c.advance)
termination_by 4 * c.rest.length
decreasing_by all_goals simp [_h, length_advance]; omega

/-- Reads a usage that starts at `start`, from behind its opening parenthesis. The fallback is
a single term; what follows it is reported and skipped. -/
def parseUsage (start : Nat) (c : Cursor) : Option Term × Cursor :=
  let named := c.skipTrivia
  if named.kind ≠ .identifier then
    let failed := named.report (.usage .missingName)
    let (_, last) := failed.readRaw [.closeParen, .semicolon, .closeBrace]
    (none, if last.kind = .closeParen then last.advance else last)
  else
    let behind := named.advance.skipTrivia
    let (fallback, last) : Option Term × Cursor :=
      if behind.kind ≠ .comma then
        (none, behind)
      else
        let body := behind.advance.skipTrivia
        if body.kind = .closeParen then
          (none, body.report (.usage .missingFallback))
        else
          let (term, next) := parseTerm body
          let next := next.skipTrivia
          if next.kind = .closeParen then
            (term, next)
          else
            let failed := next.report (.usage .longFallback)
            (term, if _h : failed.rest.length ≤ c.rest.length then skipFallback failed else failed)
    let last := last.expect .closeParen
    (some (.usage named.current.text fallback ⟨start, last.lastEnd⟩), last)
termination_by 4 * c.rest.length + 2
decreasing_by
  · exact termBelow (Nat.le_trans (length_step _) (Nat.le_trans (length_step _)
      (length_skipTrivia _)))
  · exact skipBelow _h

/-- Reads terms and drops them, up to the end of the fallback. -/
def skipFallback (c : Cursor) : Cursor :=
  if c.atFallbackEnd then c
  else
    let next := (parseTerm c).2.skipTrivia
    if _h : next.rest.length < c.rest.length then skipFallback next else next
termination_by 4 * c.rest.length + 1
decreasing_by
  · omega
  · exact againBelow _h

def parseTerms (c : Cursor) : List Term × Cursor :=
  let c' := c.skipTrivia
  if c'.atValueEnd then ([], c')
  else
    let (term, next) := parseTerm c'
    if _h : next.rest.length < c'.rest.length then
      let (terms, last) := parseTerms next
      (term.toList ++ terms, last)
    else
      (term.toList, next)
termination_by 4 * c.rest.length + 1
decreasing_by
  · have := c.length_skipTrivia
    omega
  · exact againBelow (Nat.lt_of_lt_of_le _h (length_skipTrivia _))

/-- Reads a value. It starts at its first term and ends at its last one. -/
def parseValue (c : Cursor) : Value × Cursor :=
  let c' := c.skipTrivia
  let (terms, last) := parseTerms c'
  let start := c'.current.span.start
  (⟨terms, if terms.isEmpty then .emptyAt start else ⟨start, last.lastEnd⟩⟩, last)
termination_by 4 * c.rest.length + 2
decreasing_by
  have := c.length_skipTrivia
  omega

end

end Cursor

end ComponentStyles
