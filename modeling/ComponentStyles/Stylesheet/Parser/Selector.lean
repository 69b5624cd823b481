import ComponentStyles.Stylesheet.Parser.Cursor
import ComponentStyles.Stylesheet.Selector

/-!
Reading selectors.

A selector that cannot be read is an error of its rule as a whole, so these functions stop at
the first problem and leave the cursor there. `parseParts` and `parseSelectors` go on only after
they read at least one token, which they always do when they succeed.
-/

namespace ComponentStyles

/-- The pseudo-classes whose argument is a list of selectors. -/
def selectorListPseudos : List Text :=
  ["not".toList, "is".toList, "where".toList, "has".toList, "matches".toList, "host".toList,
    "host-context".toList]

namespace Cursor

def selectorError {α : Type} (c : Cursor) (fault : SelectorFault) : Except ParseError α × Cursor :=
  (.error ⟨.selector fault, c.current.span⟩, c)

/-- Reads the closing parenthesis of a pseudo selector. -/
def closePseudo (c : Cursor) (start : Nat) (form : PseudoForm) (name : Text)
    (argument : PseudoArgument) : Except ParseError SimpleSelector × Cursor :=
  if c.kind = .closeParen then
    (.ok (.pseudo form name argument ⟨start, c.advance.lastEnd⟩), c.advance)
  else
    c.selectorError .unclosedArgument

private theorem advanceBelow {c : Cursor} {token : Token} {rest : List Token}
    (h : c.rest = token :: rest) (k : Nat) (small : k < 6) :
    6 * c.advance.rest.length + k < 6 * c.rest.length := by
  rw [length_advance, h]
  simp
  omega

private theorem step_le (c : Cursor) : c.advance.rest.length ≤ c.rest.length := by
  have := c.length_advance
  omega

mutual

def parseSimple (c : Cursor) : Except ParseError SimpleSelector × Cursor :=
  match _h : c.rest with
  | [] => (.error ⟨.unexpectedToken .selector .endOfInput, c.current.span⟩, c)
  | token :: _ =>
      let next := c.advance
      match token.kind with
      | .star => (.ok (.universal token.span), next)
      | .identifier => (.ok (.element token.text token.span), next)
      | .hash => (.ok (.byId (token.text.drop 1) token.span), next)
      | .dot =>
          if next.kind = .identifier then
            (.ok (.byClass next.current.text ⟨token.span.start, next.advance.lastEnd⟩),
              next.advance)
          else
            next.selectorError .missingClassName
      | .openBracket =>
          let (raw, last) := next.readRaw [.closeBracket, .openBrace]
          if last.kind = .closeBracket then
            (.ok (.attribute raw ⟨token.span.start, last.advance.lastEnd⟩), last.advance)
          else
            last.selectorError .unclosedAttribute
      | .colon =>
          if next.kind = .colon then
            parsePseudo token.span.start .ofElement next.advance
          else
            parsePseudo token.span.start .ofClass next
      | kind => (.error ⟨.unexpectedToken .selector kind, token.span⟩, c)
termination_by 6 * c.rest.length
decreasing_by
  · have := step_le c.advance
    have := advanceBelow _h 1 (by omega)
    omega
  · exact advanceBelow _h 1 (by omega)

/-- Reads a pseudo selector that starts at `start`, from behind its colons. -/
def parsePseudo (start : Nat) (form : PseudoForm) (c : Cursor) :
    Except ParseError SimpleSelector × Cursor :=
  match _h : c.rest with
  | [] => c.selectorError .missingPseudoName
  | token :: _ =>
      let next := c.advance
      match token.kind with
      | .identifier =>
          (.ok (.pseudo form token.text .absent ⟨start, next.lastEnd⟩), next)
      | .function =>
          let name := token.text.dropLast
          if selectorListPseudos.contains (Text.lower name) then
            match parseSelectorList .closeParen next with
            | (.ok list, last) =>
                last.skipTrivia.closePseudo start form name
                  (.selectors list.selectors list.span)
            | (.error error, last) => (.error error, last)
          else
            let (raw, last) := next.readRaw [.closeParen, .openBrace]
            last.closePseudo start form name (.raw raw)
      | _ => c.selectorError .missingPseudoName
termination_by 6 * c.rest.length + 1
decreasing_by
  have := advanceBelow _h 5 (by omega)
  omega

/-- Reads the parts of a selector up to `close` or a comma, where `combinator` has been read and
`started` says whether some part has. Gives the parts and the combinator left over. -/
def parseParts (close : Token.Kind) (combinator : Combinator) (started : Bool) (c : Cursor) :
    Except ParseError (List SelectorPart × Combinator) × Cursor :=
  match _h : c.rest with
  | [] => (.ok ([], combinator), c)
  | token :: _ =>
      match token.kind with
      | .whitespace | .comment =>
          let combinator :=
            if started && combinator = .same then .descendant else combinator
          parseParts close combinator started c.advance
      | .greater => parseParts close .child started c.advance
      | .plus => parseParts close .next started c.advance
      | .tilde => parseParts close .subsequent started c.advance
      | kind =>
          if kind = close || kind = .comma then
            (.ok ([], combinator), c)
          else
            match parseSimple c with
            | (.error error, last) => (.error error, last)
            | (.ok simple, next) =>
                if _shorter : next.rest.length < c.rest.length then
                  match parseParts close .same true next with
                  | (.error error, last) => (.error error, last)
                  | (.ok (parts, dangling), last) =>
                      (.ok (.mk combinator simple :: parts, dangling), last)
                else
                  (.ok ([.mk combinator simple], .same), next)
termination_by 6 * c.rest.length + 2
decreasing_by
  all_goals try exact Nat.lt_add_right 2 (advanceBelow _h 2 (by omega))
  all_goals omega

/-- Reads one selector up to `close` or a comma. -/
def parseSelector (close : Token.Kind) (c : Cursor) : Except ParseError Selector × Cursor :=
  match parseParts close .same false c with
  | (.error error, last) => (.error error, last)
  | (.ok (parts, dangling), last) =>
      if parts.isEmpty then
        last.selectorError .blank
      else if dangling = .same || dangling = .descendant then
        (.ok (.mk parts ⟨c.current.span.start, last.lastEnd⟩), last)
      else
        last.selectorError .danglingCombinator
termination_by 6 * c.rest.length + 3
decreasing_by omega

/-- Reads selectors separated by commas, up to `close`. -/
def parseSelectors (close : Token.Kind) (c : Cursor) :
    Except ParseError (List Selector) × Cursor :=
  match parseSelector close c with
  | (.error error, last) => (.error error, last)
  | (.ok selector, last) =>
      if last.kind = .comma then
        let next := last.advance.skipTrivia
        if _shorter : next.rest.length < c.rest.length then
          match parseSelectors close next with
          | (.error error, last) => (.error error, last)
          | (.ok selectors, last) => (.ok (selector :: selectors), last)
        else
          (.ok [selector], next)
      else
        (.ok [selector], last)
termination_by 6 * c.rest.length + 4
decreasing_by
  · omega
  · exact (by omega : ∀ {a b : Nat}, a < b → 6 * a + 4 < 6 * b + 4) _shorter

/-- Reads a list of selectors up to `close`. -/
def parseSelectorList (close : Token.Kind) (c : Cursor) :
    Except ParseError SelectorList × Cursor :=
  let c' := c.skipTrivia
  match parseSelectors close c' with
  | (.error error, last) => (.error error, last)
  | (.ok selectors, last) => (.ok ⟨selectors, ⟨c'.current.span.start, last.lastEnd⟩⟩, last)
termination_by 6 * c.rest.length + 5
decreasing_by
  have := c.length_skipTrivia
  omega

end

end Cursor

end ComponentStyles
