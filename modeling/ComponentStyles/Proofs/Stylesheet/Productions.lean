import ComponentStyles.Proofs.Routines
import ComponentStyles.Proofs.Stylesheet.Parser.Statement

/-!
# The productions of the stylesheet parser

The parser looks whether tokens were read before it goes on with a loop. Here each production and
each loop has a body that calls the others as it needs them and does not look. That the parser does
what the bodies say is a matter of progress; what a body calls is not.
-/

namespace ComponentStyles

open Token

/-- The productions and the loops of the parser. Each is listed behind those that it enters at the
token that it starts at. -/
inductive Cursor.Production
  | blockRest (depth : Nat)
  | rawBlock
  | raw (stops : List Kind) (depth : Nat)
  | declarationRest (depth : Nat)
  | statementRest
  | term
  | fallbackRest
  | usage (start : Nat)
  | terms
  | value
  | pseudo (start : Nat) (form : PseudoForm)
  | simple
  | parts (close : Kind) (combinator : Combinator) (started : Bool)
  | selector (close : Kind)
  | selectors (close : Kind)
  | selectorList (close : Kind)
  | assignment
  | definition (form : DefinitionForm)
  | item
  | items
  | block
  | importing (start : Nat)
  | rule
  | atRule
  | statements (nested : Bool)

namespace Cursor.Production

abbrev Result : Production → Type
  | blockRest _ => List Token
  | rawBlock => Text
  | raw _ _ => List Token
  | declarationRest _ => Unit
  | statementRest => Unit
  | term => Option Term
  | fallbackRest => Unit
  | usage _ => Option Term
  | terms => List Term
  | value => Value
  | pseudo _ _ => Except ParseError SimpleSelector
  | simple => Except ParseError SimpleSelector
  | parts _ _ _ => Except ParseError (List SelectorPart × Combinator)
  | selector _ => Except ParseError Selector
  | selectors _ => Except ParseError (List Selector)
  | selectorList _ => Except ParseError SelectorList
  | assignment => Option (Value × Bool)
  | definition _ => Option Definition
  | item => Option Item
  | items => List Item
  | block => Block
  | importing _ => Option Statement
  | rule => Option Statement
  | atRule => Option Statement
  | statements _ => List Statement

/-- What the parser reads for a production. -/
def run : (production : Production) → Cursor → production.Result × Cursor
  | blockRest depth, c =>
      let (taken, rest) := Cursor.splitBlock depth c.rest
      (taken, c.goTo taken rest)
  | rawBlock, c => c.readBlock
  | raw stops depth, c =>
      let (taken, rest) := Cursor.splitRaw stops depth c.rest
      (taken, c.goTo taken rest)
  | declarationRest depth, c =>
      let (taken, rest) := Cursor.splitDeclaration depth c.rest
      let c := c.goTo taken rest
      ((), if c.kind = .semicolon then c.advance else c)
  | statementRest, c => ((), c.skipStatement)
  | term, c => c.parseTerm
  | fallbackRest, c => ((), c.skipFallback)
  | usage start, c => c.parseUsage start
  | terms, c => c.parseTerms
  | value, c => c.parseValue
  | pseudo start form, c => c.parsePseudo start form
  | simple, c => c.parseSimple
  | parts close combinator started, c => c.parseParts close combinator started
  | selector close, c => c.parseSelector close
  | selectors close, c => c.parseSelectors close
  | selectorList close, c => c.parseSelectorList close
  | assignment, c => c.parseAssignment
  | definition form, c => c.parseDefinition form
  | item, c => c.parseItem
  | items, c => c.repeatedly Cursor.blockStep
  | block, c => c.parseBlock
  | importing start, c => c.parseImport start
  | rule, c => c.parseRule
  | atRule, c => c.parseAtRule
  | statements nested, c => c.parseStatements nested

abbrev Steps (Value : Type) : Type :=
  Calling Result Cursor (Value × Cursor)

section Skipping

def blockRestBody (depth : Nat) (c : Cursor) : Steps (List Token) :=
  match c.rest with
  | [] => .done ([], c)
  | token :: _ =>
      let again (depth : Nat) : Steps (List Token) :=
        .call (.blockRest depth) c.advance fun taken last => .done (token :: taken, last)
      match token.kind, depth with
      | .openBrace, depth => again (depth + 1)
      | .closeBrace, 0 => .done ([], c)
      | .closeBrace, depth + 1 => again depth
      | _, depth => again depth

def rawBlockBody (c : Cursor) : Steps Text :=
  .call (.blockRest 0) c.advance fun taken last =>
    .done (Cursor.raw taken,
      if last.kind = .endOfInput then last.report (.unexpectedEnd (.token .closeBrace))
      else last.advance)

def rawBody (stops : List Kind) (depth : Nat) (c : Cursor) : Steps (List Token) :=
  match c.rest with
  | [] => .done ([], c)
  | token :: _ =>
      if depth = 0 && stops.contains token.kind then .done ([], c)
      else
        let depth := match token.kind with
          | .openParen | .function => depth + 1
          | .closeParen => depth - 1
          | _ => depth
        .call (.raw stops depth) c.advance fun taken last => .done (token :: taken, last)

def declarationRestBody (depth : Nat) (c : Cursor) : Steps Unit :=
  match c.rest with
  | [] => .done ((), c)
  | token :: _ =>
      let again (depth : Nat) : Steps Unit :=
        .call (.declarationRest depth) c.advance fun _ last => .done ((), last)
      match token.kind, depth with
      | .openBrace, depth => again (depth + 1)
      | .closeBrace, 0 => .done ((), c)
      | .semicolon, 0 => .done ((), c.advance)
      | .closeBrace, depth + 1 => again depth
      | _, depth => again depth

def statementRestBody (c : Cursor) : Steps Unit :=
  match c.rest with
  | [] => .done ((), c)
  | token :: _ =>
      match token.kind with
      | .closeBrace => .done ((), c)
      | .semicolon => .done ((), c.advance)
      | .openBrace => .call .rawBlock c fun _ last => .done ((), last)
      | _ => .call .statementRest c.advance fun _ last => .done ((), last)

end Skipping

section Values

def callBody (name : Text) (start : Nat) (c : Cursor) : Steps (Option Term) :=
  .call .value c fun arguments last =>
    let last := last.expect .closeParen
    .done (some (.call name arguments.terms arguments.span ⟨start, last.lastEnd⟩), last)

def termBody (c : Cursor) : Steps (Option Term) :=
  match c.rest with
  | [] => .done (some (.literal [] c.current.span), c)
  | token :: _ =>
      match token.kind with
      | .comma => .done (some (.operator .comma token.span), c.advance)
      | .slash => .done (some (.operator .slash token.span), c.advance)
      | .url => .done (some (.url (urlTarget token.text) token.span), c.advance)
      | .function =>
          if Text.sameLetters token.text.dropLast "var".toList && !c.advance.atCustomProperty then
            .call (.usage token.span.start) c.advance fun term last => .done (term, last)
          else callBody token.text.dropLast token.span.start c.advance
      | .openParen => callBody [] token.span.start c.advance
      | .openBrace | .openBracket | .closeBracket => .done (none, (c.unexpected .value).advance)
      | _ => .done (some (.literal token.text token.span), c.advance)

def usageBody (start : Nat) (c : Cursor) : Steps (Option Term) :=
  let named := c.skipTrivia
  let finish (fallback : Option Term) (last : Cursor) : Steps (Option Term) :=
    let last := last.expect .closeParen
    .done (some (.usage named.current.text fallback ⟨start, last.lastEnd⟩), last)
  if named.kind ≠ .identifier then
    .call (.raw [.closeParen, .semicolon, .closeBrace] 0) (named.report (.usage .missingName))
      fun _ last => .done (none, if last.kind = .closeParen then last.advance else last)
  else
    let behind := named.advance.skipTrivia
    if behind.kind ≠ .comma then finish none behind
    else
      let body := behind.advance.skipTrivia
      if body.kind = .closeParen then finish none (body.report (.usage .missingFallback))
      else
        .call .term body fun term next =>
          let next := next.skipTrivia
          if next.kind = .closeParen then finish term next
          else
            .call .fallbackRest (next.report (.usage .longFallback)) fun _ last => finish term last

def fallbackRestBody (c : Cursor) : Steps Unit :=
  if c.atFallbackEnd then .done ((), c)
  else
    .call .term c fun _ next =>
      .call .fallbackRest next.skipTrivia fun _ last => .done ((), last)

def termsBody (c : Cursor) : Steps (List Term) :=
  let c := c.skipTrivia
  if c.atValueEnd then .done ([], c)
  else
    .call .term c fun term next =>
      .call .terms next fun terms last => .done (term.toList ++ terms, last)

def valueBody (c : Cursor) : Steps Value :=
  let c := c.skipTrivia
  let start := c.current.span.start
  .call .terms c fun terms last =>
    .done (⟨terms, if terms.isEmpty then .emptyAt start else ⟨start, last.lastEnd⟩⟩, last)

end Values

section Selectors

def pseudoBody (start : Nat) (form : PseudoForm) (c : Cursor) :
    Steps (Except ParseError SimpleSelector) :=
  match c.rest with
  | [] => .done (c.selectorError .missingPseudoName)
  | token :: _ =>
      let next := c.advance
      match token.kind with
      | .identifier => .done (.ok (.pseudo form token.text .absent ⟨start, next.lastEnd⟩), next)
      | .function =>
          let name := token.text.dropLast
          if selectorListPseudos.contains (Text.lower name) then
            .call (.selectorList .closeParen) next fun list last =>
              match list with
              | .ok list =>
                  .done (last.skipTrivia.closePseudo start form name
                    (.selectors list.selectors list.span))
              | .error error => .done (.error error, last)
          else
            .call (.raw [.closeParen, .openBrace] 0) next fun taken last =>
              .done (last.closePseudo start form name (.raw (Cursor.raw taken)))
      | _ => .done (c.selectorError .missingPseudoName)

def simpleBody (c : Cursor) : Steps (Except ParseError SimpleSelector) :=
  match c.rest with
  | [] => .done (.error ⟨.unexpectedToken .selector .endOfInput, c.current.span⟩, c)
  | token :: _ =>
      let next := c.advance
      match token.kind with
      | .star => .done (.ok (.universal token.span), next)
      | .identifier => .done (.ok (.element token.text token.span), next)
      | .hash => .done (.ok (.byId (token.text.drop 1) token.span), next)
      | .dot =>
          if next.kind = .identifier then
            .done (.ok (.byClass next.current.text ⟨token.span.start, next.advance.lastEnd⟩),
              next.advance)
          else .done (next.selectorError .missingClassName)
      | .openBracket =>
          .call (.raw [.closeBracket, .openBrace] 0) next fun taken last =>
            if last.kind = .closeBracket then
              .done (.ok (.attribute (Cursor.raw taken) ⟨token.span.start, last.advance.lastEnd⟩),
                last.advance)
            else .done (last.selectorError .unclosedAttribute)
      | .colon =>
          if next.kind = .colon then
            .call (.pseudo token.span.start .ofElement) next.advance fun simple last =>
              .done (simple, last)
          else
            .call (.pseudo token.span.start .ofClass) next fun simple last => .done (simple, last)
      | kind => .done (.error ⟨.unexpectedToken .selector kind, token.span⟩, c)

def partBody (close : Kind) (combinator : Combinator) (c : Cursor) :
    Steps (Except ParseError (List SelectorPart × Combinator)) :=
  .call .simple c fun simple next =>
    match simple with
    | .error error => .done (.error error, next)
    | .ok simple =>
        .call (.parts close .same true) next fun parts last =>
          match parts with
          | .error error => .done (.error error, last)
          | .ok (parts, dangling) => .done (.ok (.mk combinator simple :: parts, dangling), last)

def partsBody (close : Kind) (combinator : Combinator) (started : Bool) (c : Cursor) :
    Steps (Except ParseError (List SelectorPart × Combinator)) :=
  let again (combinator : Combinator) :
      Steps (Except ParseError (List SelectorPart × Combinator)) :=
    .call (.parts close combinator started) c.advance fun parts last => .done (parts, last)
  match c.rest with
  | [] => .done (.ok ([], combinator), c)
  | token :: _ =>
      match token.kind with
      | .whitespace | .comment =>
          again (if started && combinator = .same then .descendant else combinator)
      | .greater => again .child
      | .plus => again .next
      | .tilde => again .subsequent
      | kind =>
          if kind = close || kind = .comma then .done (.ok ([], combinator), c)
          else partBody close combinator c

def selectorBody (close : Kind) (c : Cursor) : Steps (Except ParseError Selector) :=
  .call (.parts close .same false) c fun parts last =>
    match parts with
    | .error error => .done (.error error, last)
    | .ok (parts, dangling) =>
        if parts.isEmpty then .done (last.selectorError .blank)
        else if dangling = .same || dangling = .descendant then
          .done (.ok (.mk parts ⟨c.current.span.start, last.lastEnd⟩), last)
        else .done (last.selectorError .danglingCombinator)

def selectorsBody (close : Kind) (c : Cursor) : Steps (Except ParseError (List Selector)) :=
  .call (.selector close) c fun selector last =>
    match selector with
    | .error error => .done (.error error, last)
    | .ok selector =>
        if last.kind = .comma then
          .call (.selectors close) last.advance.skipTrivia fun selectors last =>
            match selectors with
            | .error error => .done (.error error, last)
            | .ok selectors => .done (.ok (selector :: selectors), last)
        else .done (.ok [selector], last)

def selectorListBody (close : Kind) (c : Cursor) : Steps (Except ParseError SelectorList) :=
  let c := c.skipTrivia
  .call (.selectors close) c fun selectors last =>
    match selectors with
    | .error error => .done (.error error, last)
    | .ok selectors => .done (.ok ⟨selectors, ⟨c.current.span.start, last.lastEnd⟩⟩, last)

end Selectors

section Blocks

def assignmentBody (c : Cursor) : Steps (Option (Value × Bool)) :=
  let c := c.advance.skipTrivia
  if c.kind = .colon then
    .call .value c.advance fun value next =>
      let (important, next) := if next.kind = .bang then next.parseImportant else (false, next)
      match next.kind with
      | .semicolon => .done (some (value, important), next.advance)
      | .closeBrace | .endOfInput => .done (some (value, important), next)
      | _ =>
          .call (.declarationRest 0) (next.unexpected (.token .semicolon)) fun _ last =>
            .done (some (value, important), last)
  else
    .call (.declarationRest 0) (c.expect .colon) fun _ last => .done (none, last)

def definitionBody (form : DefinitionForm) (c : Cursor) : Steps (Option Definition) :=
  let name := match form with
    | .directive => c.current.text.drop 1
    | .property => c.current.text.drop 4
  .call .assignment c fun assigned last =>
    .done (assigned.map fun read => ⟨name, read.1, form, ⟨c.current.span.start, last.lastEnd⟩⟩,
      last)

def itemBody (c : Cursor) : Steps (Option Item) :=
  let text := c.current.text
  if Text.startsWith text "var-".toList && 4 < text.length then
    .call (.definition .property) c fun definition last =>
      .done (definition.map .definition, last)
  else
    .call .assignment c fun assigned last =>
      .done (assigned.map fun read =>
        .declaration ⟨text, read.1, read.2, ⟨c.current.span.start, last.lastEnd⟩⟩, last)

def itemsBody (c : Cursor) : Steps (List Item) :=
  let again (items : List Item) (next : Cursor) : Steps (List Item) :=
    .call .items next fun more last => .done (items ++ more, last)
  let skip : Steps (List Item) :=
    .call (.declarationRest 0) (c.unexpected .declaration).advance fun _ next => again [] next
  match c.kind with
  | .whitespace | .comment | .semicolon => again [] c.advance
  | .closeBrace | .endOfInput => .done ([], c)
  | .identifier => .call .item c fun item next => again item.toList next
  | .atKeyword =>
      if c.colonFollows then
        .call (.definition .directive) c fun definition next =>
          again (definition.toList.map .definition) next
      else skip
  | _ => skip

def blockBody (c : Cursor) : Steps Block :=
  .call .items c.advance fun items last =>
    let last := last.expect .closeBrace
    .done (⟨items, ⟨c.current.span.start, last.lastEnd⟩⟩, last)

end Blocks

section Statements

def importingBody (start : Nat) (c : Cursor) : Steps (Option Statement) :=
  let c := c.skipTrivia
  let importing (target : Text) : Steps (Option Statement) :=
    .call (.raw [.semicolon, .openBrace, .closeBrace] 0) c.advance.skipTrivia fun taken last =>
      let media := Cursor.raw taken
      let last := last.expect .semicolon
      .done (some (.importing target (if media.isEmpty then none else some media)
        ⟨start, last.lastEnd⟩), last)
  match c.kind with
  | .string => importing (unquote c.current.text)
  | .url => importing (urlTarget c.current.text)
  | _ => .call .statementRest (c.unexpected .importTarget) fun _ last => .done (none, last)

def ruleBody (c : Cursor) : Steps (Option Statement) :=
  .call (.selectorList .openBrace) c fun selectors last =>
    match selectors with
    | .error error =>
        .call .statementRest { last with errors := last.errors ++ [error] } fun _ last =>
          .done (none, last)
    | .ok selectors =>
        if last.kind = .openBrace then
          .call .block last fun block last =>
            .done (some (.rule selectors block ⟨c.current.span.start, last.lastEnd⟩), last)
        else
          .call .statementRest (last.expect .openBrace) fun _ last => .done (none, last)

def atRuleBody (c : Cursor) : Steps (Option Statement) :=
  let start := c.current.span.start
  let name := c.current.text.drop 1
  let known := Text.lower name
  if !isReserved known && c.colonFollows then
    .call (.definition .directive) c fun definition last =>
      .done (definition.map .definition, last)
  else if known = "import".toList then
    .call (.importing start) c.advance fun statement last => .done (statement, last)
  else
    .call (.raw [.openBrace, .semicolon, .closeBrace] 0) c.advance.skipTrivia fun taken next =>
      let prelude := Cursor.raw taken
      match next.kind with
      | .semicolon =>
          let last := next.advance
          .done (some (.atRule name prelude none ⟨start, last.lastEnd⟩), last)
      | .openBrace =>
          if conditionalNames.contains known then
            .call (.statements true) next.advance fun statements last =>
              let last := last.expect .closeBrace
              .done (some (.conditional name prelude statements ⟨start, last.lastEnd⟩), last)
          else if declarationNames.contains known then
            .call .block next fun block last =>
              .done (some (.atRule name prelude (some (.declarations block))
                ⟨start, last.lastEnd⟩), last)
          else
            .call .rawBlock next fun raw last =>
              .done (some (.atRule name prelude (some (.raw raw)) ⟨start, last.lastEnd⟩), last)
      | _ => .done (none, next.expect .semicolon)

def statementsBody (nested : Bool) (c : Cursor) : Steps (List Statement) :=
  let again (statement : Option Statement) (next : Cursor) : Steps (List Statement) :=
    .call (.statements nested) next fun statements last =>
      .done (statement.toList ++ statements, last)
  match c.kind with
  | .whitespace | .semicolon => again none c.advance
  | .comment => again (some c.parseComment.1) c.parseComment.2
  | .endOfInput =>
      .done ([], if nested then c.report (.unexpectedEnd (.token .closeBrace)) else c)
  | .closeBrace =>
      if nested then .done ([], c) else again none (c.unexpected .statement).advance
  | .atKeyword => .call .atRule c again
  | _ => .call .rule c again

end Statements

/-- What a production does, with the productions that it calls. -/
def body : (production : Production) → Cursor → Steps production.Result
  | blockRest depth, c => blockRestBody depth c
  | rawBlock, c => rawBlockBody c
  | raw stops depth, c => rawBody stops depth c
  | declarationRest depth, c => declarationRestBody depth c
  | statementRest, c => statementRestBody c
  | term, c => termBody c
  | fallbackRest, c => fallbackRestBody c
  | usage start, c => usageBody start c
  | terms, c => termsBody c
  | value, c => valueBody c
  | pseudo start form, c => pseudoBody start form c
  | simple, c => simpleBody c
  | parts close combinator started, c => partsBody close combinator started c
  | selector close, c => selectorBody close c
  | selectors close, c => selectorsBody close c
  | selectorList close, c => selectorListBody close c
  | assignment, c => assignmentBody c
  | definition form, c => definitionBody form c
  | item, c => itemBody c
  | items, c => itemsBody c
  | block, c => blockBody c
  | importing start, c => importingBody start c
  | rule, c => ruleBody c
  | atRule, c => atRuleBody c
  | statements nested, c => statementsBody nested c

end Cursor.Production

end ComponentStyles
