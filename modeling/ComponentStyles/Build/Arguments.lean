import ComponentStyles.Path
import ComponentStyles.Report.Basic

/-!
The command line.

An option takes its value behind an equals sign or from the next argument, which must not look
like an option itself. A value behind an equals sign is recorded at once. One from the next
argument is recorded when the next option starts or the command line ends, so an argument that
nothing takes is found before such a value that does not fit.
-/

namespace ComponentStyles

inductive Switch where
  /-- Names are not scoped. -/
  | noScope
  /-- Warnings are errors. -/
  | failOnWarnings
  /-- Usages without definition and fallback are reported. -/
  | reportUnresolved
  /-- Every change of an attribute is logged. -/
  | trace
  /-- Stylesheets are written on one line. -/
  | compact
deriving DecidableEq, Repr

structure Arguments where
  workspace : Option Path := none
  outDir : Option Path := none
  format : Option ReportFormat := none
  threshold : Option Threshold := none
  config : Option Path := none
  /-- The patterns of files to ignore. -/
  ignore : List Text := []
  /-- The extensions of component files. -/
  extensions : List Text := []
  switches : List Switch := []
deriving DecidableEq, Repr

inductive ArgumentFault where
  /-- An argument that nothing takes. -/
  | unknown
  /-- A value is missing or does not fit. -/
  | invalidValue
  /-- Something is given twice. -/
  | repeated
  /-- A switch with a value. -/
  | surplusValue
  /-- Help is asked for. -/
  | help
  /-- The version is asked for. -/
  | version
deriving DecidableEq, Repr

namespace Arguments

/-- The workspace; it is the working directory unless another one is given. -/
def workspaceOrHere (arguments : Arguments) : Path :=
  arguments.workspace.getD ⟨['.']⟩

def reportFormat (arguments : Arguments) : ReportFormat :=
  arguments.format.getD .human

def leastSeverity (arguments : Arguments) : Threshold :=
  arguments.threshold.getD .warning

def has (arguments : Arguments) (switch : Switch) : Bool :=
  arguments.switches.contains switch

inductive Setting where
  | workspace
  | outDir
  | output
  | threshold
  | ignore
  | extensions
  | config
deriving DecidableEq, Repr

inductive Choice where
  | setting (setting : Setting)
  | switch (switch : Switch)
  | help
  | version
deriving DecidableEq, Repr

def choices : List (Text × Choice) :=
  [("workspace".toList, .setting .workspace), ("out-dir".toList, .setting .outDir),
    ("output".toList, .setting .output), ("threshold".toList, .setting .threshold),
    ("ignore".toList, .setting .ignore), ("extensions".toList, .setting .extensions),
    ("config".toList, .setting .config), ("no-scope".toList, .switch .noScope),
    ("fail-on-warnings".toList, .switch .failOnWarnings),
    ("report-unresolved".toList, .switch .reportUnresolved), ("trace".toList, .switch .trace),
    ("compact".toList, .switch .compact), ("help".toList, .help), ("version".toList, .version)]

def choiceOfLetter? : Char → Option Choice
  | 'h' => some .help
  | 'V' => some .version
  | _ => none

def formats : List (Text × ReportFormat) :=
  [("human".toList, .human), ("human-verbose".toList, .humanVerbose), ("json".toList, .json),
    ("machine".toList, .machine)]

def thresholds : List (Text × Threshold) :=
  [("error".toList, .error), ("warning".toList, .warning)]

/-- Sets what is set at most once. A second value is refused whatever it is. -/
def once {Value : Type} (old new : Option Value) : Except ArgumentFault (Option Value) :=
  match old, new with
  | some _, _ => .error .repeated
  | none, none => .error .invalidValue
  | none, some value => .ok (some value)

def record (arguments : Arguments) (setting : Setting) (value : Text) :
    Except ArgumentFault Arguments := do
  match setting with
  | .workspace => return { arguments with workspace := ← once arguments.workspace (some ⟨value⟩) }
  | .outDir => return { arguments with outDir := ← once arguments.outDir (some ⟨value⟩) }
  | .output => return { arguments with format := ← once arguments.format (formats.lookup value) }
  | .threshold =>
      return { arguments with threshold := ← once arguments.threshold (thresholds.lookup value) }
  | .config => return { arguments with config := ← once arguments.config (some ⟨value⟩) }
  | .ignore => return { arguments with ignore := arguments.ignore ++ [value] }
  | .extensions =>
      return { arguments with extensions := arguments.extensions ++ Text.splitOn ',' value }

def recordSwitch (arguments : Arguments) (switch : Switch) : Except ArgumentFault Arguments :=
  if arguments.has switch then .error .repeated
  else .ok { arguments with switches := arguments.switches ++ [switch] }

/-- A setting that is not recorded yet, with its value if that is known. -/
abbrev Pending := Option (Setting × Option Text)

/-- Records what is pending. -/
def settle (arguments : Arguments) : Pending → Except ArgumentFault Arguments
  | none => .ok arguments
  | some (_, none) => .error .invalidValue
  | some (setting, some value) => arguments.record setting value

/-- The name of an option and the value behind its equals sign. -/
def splitValue (option : Text) : Text × Option Text :=
  match option.dropWhile (· != '=') with
  | [] => (option, none)
  | _ :: value => (option.takeWhile (· != '='), some value)

/-- Takes an option with the value that stands in the same argument. -/
def takeChoice (arguments : Arguments) (pending : Pending) (choice : Choice)
    (value : Option Text) : Except ArgumentFault (Arguments × Pending) := do
  match choice, value with
  | .setting setting, none => return (← arguments.settle pending, some (setting, none))
  | .setting setting, some value =>
      return (← (← arguments.settle pending).record setting value, none)
  | _, some _ => .error .surplusValue
  | .switch switch, none => return (← (← arguments.settle pending).recordSwitch switch, none)
  | .help, none =>
      let _ ← arguments.settle pending
      .error .help
  | .version, none =>
      let _ ← arguments.settle pending
      .error .version

/-- Takes one argument that is not two dashes alone. -/
def take (arguments : Arguments) (pending : Pending) (argument : Text) :
    Except ArgumentFault (Arguments × Pending) :=
  match argument with
  | '-' :: '-' :: option =>
      let (name, value) := splitValue option
      match choices.lookup name with
      | some choice => arguments.takeChoice pending choice value
      | none => .error .unknown
  | '-' :: letter :: _ =>
      match choiceOfLetter? letter with
      | some choice => arguments.takeChoice pending choice none
      | none => .error .unknown
  | word =>
      match pending with
      | some (setting, none) => .ok (arguments, some (setting, some word))
      | _ => .error .unknown

/-- Takes all arguments from the given ones on. Nothing follows two dashes alone. -/
def readFrom (arguments : Arguments) (pending : Pending) :
    List Text → Except ArgumentFault Arguments
  | [] => arguments.settle pending
  | ['-', '-'] :: rest => if rest.isEmpty then arguments.settle pending else .error .unknown
  | argument :: rest => do
      let (arguments, pending) ← arguments.take pending argument
      arguments.readFrom pending rest

def read (arguments : List Text) : Except ArgumentFault Arguments :=
  readFrom {} none arguments

end Arguments

end ComponentStyles
