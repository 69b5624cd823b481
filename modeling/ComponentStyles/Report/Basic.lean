import ComponentStyles.Json.Basic
import ComponentStyles.Message

/-!
Writing messages for people and for programs.
-/

namespace ComponentStyles

inductive ReportFormat where
  | human
  /-- For people, with the line that a message points at. -/
  | humanVerbose
  | json
  /-- One line a message. -/
  | machine
deriving DecidableEq, Repr

inductive Threshold where
  | error
  | warning
deriving DecidableEq, Repr

def Threshold.shows : Threshold → Severity → Bool
  | error, severity => severity = .error
  | warning, _ => true

def Threshold.visible (threshold : Threshold) (messages : List Message) : List Message :=
  messages.filter fun message => threshold.shows message.severity

namespace Text

/-- The lines of a text without their line ends. A line feed at the end starts no further line,
and a carriage return in front of a line feed belongs to the line end. -/
def lines (text : Text) : List Text :=
  let parts := splitOn '\n' text
  let ended := parts.dropLast.map fun line =>
    if line.getLast? = some '\r' then line.dropLast else line
  let last := parts.getLastD []
  if last.isEmpty then ended else ended ++ [last]

end Text

namespace Message

/-- The location of a message, its severity, its text and its code. -/
def head (message : Message) : Text :=
  message.location.render ++ '\n' :: message.severity.name ++ ": ".toList ++ message.text ++
    " (".toList ++ message.code.name ++ ")\n".toList

/-- A line of the source and a mark under the column that a message points at. -/
def snippet (location : Location) (line : Text) : Text :=
  let number := Text.numeral location.line
  "  ".toList ++ number ++ " | ".toList ++ line ++ "\n  ".toList ++
    List.replicate number.length ' ' ++ " | ".toList ++
    List.replicate (location.column - 1) ' ' ++ "^\n".toList

def human (message : Message) : Text :=
  message.head ++ ['\n']

/-- The message for people with a snippet, if its line exists. -/
def humanVerbose (lines : List Text) (message : Message) : Text :=
  message.head ++
    ((lines[message.location.line - 1]?).map (snippet message.location)).getD [] ++ ['\n']

/-- Where the span of a message ends, counted from one. -/
def endPosition (table : LineTable) (message : Message) : Position :=
  let stop := table.positionOrStart message.location.span.stop
  ⟨stop.line + 1, stop.column + 1⟩

/-- A position as a JSON object. -/
def positionToJson (position : Position) (offset : Nat) : Json :=
  .object [("line".toList, .number position.line), ("column".toList, .number position.column),
    ("offset".toList, .number offset)]

def toJson (table : LineTable) (message : Message) : Json :=
  let location := message.location
  .object [("type".toList, .string message.severity.name),
    ("filename".toList, .string location.source),
    ("start".toList, positionToJson ⟨location.line, location.column⟩ location.span.start),
    ("end".toList, positionToJson (message.endPosition table) location.span.stop),
    ("message".toList, .string message.text),
    ("code".toList, .string message.code.name)]

def machineSeverity : Severity → Text
  | .error => "ERROR".toList
  | .warning => "WARNING".toList

def machine (table : LineTable) (message : Message) : Text :=
  let stop := message.endPosition table
  machineSeverity message.severity ++ ' ' :: message.location.render ++
    ':' :: Text.numeral stop.line ++ ':' :: Text.numeral stop.column ++
    ' ' :: message.text ++ " (".toList ++ message.code.name ++ ")\n".toList

/-- The messages about one file, whose text is `source`. -/
def renderAll (format : ReportFormat) (source : Text) (messages : List Message) : Text :=
  match format with
  | .human => messages.flatMap human
  | .humanVerbose => messages.flatMap (humanVerbose (Text.lines source))
  | .json => (Json.list (messages.map (toJson (.ofText source)))).render
  | .machine => messages.flatMap (machine (.ofText source))

end Message

end ComponentStyles
