import ComponentStyles.ParseError
import ComponentStyles.Source.File

/-!
Messages about the files of a build.

Messages are kept in the order in which they are found. Nothing the compiler finds is fatal by
itself: every message starts as a warning, and only a caller makes errors of them.
-/

namespace ComponentStyles

inductive Severity where
  | warning
  | error
deriving DecidableEq, Repr

def Severity.name : Severity → Text
  | warning => "Warning".toList
  | error => "Error".toList

inductive MessageCode where
  /-- A text could not be read in full. -/
  | parseWarning
  /-- A variable takes part in a cycle of references. -/
  | varCycle
  /-- A usage has neither a definition nor a fallback. -/
  | unresolvedVar
  /-- An imported stylesheet does not exist. -/
  | importUnresolved
  /-- A component has more than one stylesheet. -/
  | duplicateStylesheet
deriving DecidableEq, Repr

def MessageCode.name : MessageCode → Text
  | parseWarning => "parse-warning".toList
  | varCycle => "var-cycle".toList
  | unresolvedVar => "unresolved-var".toList
  | importUnresolved => "import-unresolved".toList
  | duplicateStylesheet => "duplicate-stylesheet".toList

/-- A message and where it points. -/
structure Message where
  code : MessageCode
  severity : Severity
  text : Text
  location : Location
deriving DecidableEq, Repr

namespace Message

def warning (code : MessageCode) (text : Text) (file : File) (span : Span) : Message :=
  ⟨code, .warning, text, file.locate span⟩

/-- The warning that passes a parse error on. -/
def ofParseError (file : File) (e : ParseError) : Message :=
  warning .parseWarning e.problem.message file e.span

/-- The message as an error. -/
def promote (message : Message) : Message :=
  { message with severity := .error }

def count (severity : Severity) (messages : List Message) : Nat :=
  messages.countP fun message => message.severity = severity

end Message

end ComponentStyles
