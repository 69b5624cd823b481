import ComponentStyles.ParseError
import ComponentStyles.Template.Basic

/-!
Reading templates.

The reader forgives: whatever does not form a tag is text, void elements close themselves, and
a wrong closing tag closes its element all the same. `parseNodes` goes on only after a node
that read at least one character, which every node does; so does `repeatedly`.
-/

namespace ComponentStyles

/-- A place in the text of a template and the errors so far. -/
structure Reader where
  rest : Text
  pos : Nat
  errors : List ParseError
deriving Repr

namespace Reader

def start (text : Text) : Reader := ⟨text, 0, []⟩

/-- Goes on behind `taken`, where `rest` is what follows it. -/
def goTo (r : Reader) (taken rest : Text) : Reader :=
  { r with rest := rest, pos := r.pos + Text.size taken }

def skip (r : Reader) (count : Nat) : Reader :=
  r.goTo (r.rest.take count) (r.rest.drop count)

def readWhile (r : Reader) (test : Char → Bool) : Text × Reader :=
  let taken := r.rest.takeWhile test
  (taken, r.goTo taken (r.rest.dropWhile test))

/-- Reads the blanks in front. -/
def skipBlanks (r : Reader) : Reader :=
  (r.readWhile Text.isBlank).2

def finish (r : Reader) : Reader :=
  r.goTo r.rest []

def isAt (r : Reader) (text : String) : Bool :=
  Text.startsWith r.rest text.toList

/-- Records a problem of what was read since `start`. -/
def report (r : Reader) (problem : Problem) (start : Nat) : Reader :=
  { r with errors := r.errors ++ [⟨problem, ⟨start, r.pos⟩⟩] }

/-- Reads up to and including the next `>`, or everything. -/
def readThroughTagEnd (r : Reader) : Text × Reader :=
  let (before, r') := r.readWhile (· != '>')
  (before ++ r'.rest.take 1, r'.skip 1)

/-- Repeats a step that reads characters, until it declines. A step that read nothing would be
the last one. -/
def repeatedly {α : Type} (step : Reader → Option (List α × Reader)) (r : Reader) :
    List α × Reader :=
  match step r with
  | none => ([], r)
  | some (found, next) =>
      if next.rest.length < r.rest.length then
        let (more, last) := repeatedly step next
        (found ++ more, last)
      else
        (found, next)
termination_by r.rest.length

def readName (r : Reader) : Text × Reader :=
  r.readWhile fun c => !(Text.isBlank c || c = '>' || c = '/' || c = '=')

def readClosingTag (r : Reader) : Text × Reader :=
  let (name, r) := (r.skip 2).readName
  (name, r.readThroughTagEnd.2)

/-- Reads the value of an attribute that starts at `start`. -/
def readAttributeValue (r : Reader) (start : Nat) : Text × Reader :=
  match r.rest with
  | [] => ([], r)
  | quote :: _ =>
      if quote = '"' || quote = '\'' then
        let (value, last) := (r.skip 1).readWhile (· != quote)
        if last.rest.isEmpty then
          (value, last.report (.attribute .unterminatedValue) start)
        else
          (value, last.skip 1)
      else
        r.readWhile fun c => !(Text.isBlank c || c = '>')

/-- One step through the attributes of a tag, up to its end. A character that starts no name is
reported. -/
def attributeStep (r : Reader) : Option (List Attribute × Reader) :=
  let r := r.skipBlanks
  if r.rest.isEmpty || r.isAt ">" || r.isAt "/>" then
    none
  else
    let (name, named) := r.readName
    match name, r.rest with
    | [], c :: _ =>
        some ([], (r.skip 1).report (.attribute (.unexpectedCharacter c)) r.pos)
    | _, _ =>
        let behind := named.skipBlanks
        let (value, last) :=
          if behind.isAt "=" then
            let (value, last) := (behind.skip 1).skipBlanks.readAttributeValue r.pos
            (some value, last)
          else
            (none, named)
        some ([⟨name, value, ⟨r.pos, last.pos⟩⟩], last)

def parseAttributes (r : Reader) : List Attribute × Reader :=
  let (attributes, last) := r.repeatedly attributeStep
  (attributes, last.skipBlanks)

def parseComment (r : Reader) : Node × Reader :=
  let body := r.skip 4
  match Text.splitBefore? "-->".toList body.rest with
  | some (content, behind) =>
      let last := (body.goTo content behind).skip 3
      (.comment content ⟨r.pos, last.pos⟩, last)
  | none =>
      let last := body.finish.report (.unexpectedEnd .commentEnd) r.pos
      (.comment body.rest ⟨r.pos, last.pos⟩, last)

/-- Reads a text. Its first character belongs to it even if it is `<`. -/
def parseText (r : Reader) : Node × Reader :=
  let (content, last) := (r.skip 1).readWhile (· != '<')
  (.text (r.rest.take 1 ++ content) ⟨r.pos, last.pos⟩, last)

/-- Reads a document type or a processing instruction, which is kept as text. -/
def parseMarkup (r : Reader) : Node × Reader :=
  let (content, last) := r.readThroughTagEnd
  (.text content ⟨r.pos, last.pos⟩, last)

/-- Splits a text in front of the closing tag of the given name, in lower case, or behind all
of it. -/
def splitRawText (tag : Text) : Text → Text × Text
  | [] => ([], [])
  | c :: rest =>
      if Text.lower ((c :: rest).take (tag.length + 2)) = '<' :: '/' :: tag then ([], c :: rest)
      else
        let (before, found) := splitRawText tag rest
        (c :: before, found)

/-- Reads the content of an element whose content is a single text. -/
def parseRawText (r : Reader) (tag : Text) : List Node × Reader :=
  let (content, behind) := splitRawText (Text.lower tag) r.rest
  let last := r.goTo content behind
  (if content.isEmpty then [] else [.text content ⟨r.pos, last.pos⟩], last)

/-- Whether a tag opens here. -/
def atTag (r : Reader) : Bool :=
  match r.rest with
  | '<' :: c :: _ => c.isAlpha
  | _ => false

/-- Reads the closing tag of an element that starts at `start`. -/
def closeElement (r : Reader) (tag : Text) (start : Nat) : Reader :=
  if r.rest.isEmpty then
    r.report (.unclosedTag tag) start
  else
    let (closing, last) := r.readClosingTag
    if Text.sameLetters closing tag then last
    else last.report (.mismatchedTag tag closing) r.pos

mutual

/-- Reads nodes up to the end of the text or, inside an element, up to a closing tag. -/
def parseNodes (inElement : Bool) (r : Reader) : List Node × Reader :=
  if r.rest.isEmpty || (inElement && r.isAt "</") then
    ([], r)
  else
    let (node, next) : Option Node × Reader :=
      if r.isAt "<!--" then
        let (comment, next) := r.parseComment
        (some comment, next)
      else if r.isAt "</" then
        let (name, next) := r.readClosingTag
        (none, next.report (.mismatchedTag [] name) r.pos)
      else if r.isAt "<!" || r.isAt "<?" then
        let (text, next) := r.parseMarkup
        (some text, next)
      else if r.atTag then
        let (element, next) := parseElement r
        (some element, next)
      else
        let (text, next) := r.parseText
        (some text, next)
    if _shorter : next.rest.length < r.rest.length then
      let (nodes, last) := parseNodes inElement next
      (node.toList ++ nodes, last)
    else
      (node.toList, next)
termination_by 2 * r.rest.length + 1
decreasing_by
  · omega
  · exact (by omega : ∀ {a b : Nat}, a < b → 2 * a + 1 < 2 * b + 1) _shorter

def parseElement (r : Reader) : Node × Reader :=
  let (tag, named) := (r.skip 1).readName
  let (attributes, next) := named.parseAttributes
  if next.isAt "/>" then
    let last := next.skip 2
    (.element tag attributes [] true ⟨r.pos, last.pos⟩, last)
  else if next.isAt ">" then
    let body := next.skip 1
    if isVoid tag then
      (.element tag attributes [] true ⟨r.pos, body.pos⟩, body)
    else
      let (children, behind) : List Node × Reader :=
        if isRawText tag then body.parseRawText tag
        else if _shorter : body.rest.length < r.rest.length then parseNodes true body
        else ([], body)
      let last := behind.closeElement tag r.pos
      (.element tag attributes children false ⟨r.pos, last.pos⟩, last)
  else
    let last := next.report (.unexpectedEnd .tagEnd) r.pos
    (.element tag attributes [] true ⟨r.pos, last.pos⟩, last)
termination_by 2 * r.rest.length
decreasing_by
  exact (by omega : ∀ {a b : Nat}, a < b → 2 * a + 1 < 2 * b) _shorter

end

end Reader

def Template.parse (name text : Text) : Parsed Template :=
  let (nodes, last) := (Reader.start text).parseNodes false
  ⟨⟨.ofText name text, nodes⟩, last.errors⟩

end ComponentStyles
