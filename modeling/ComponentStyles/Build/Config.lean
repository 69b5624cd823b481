import ComponentStyles.Json.Comment
import ComponentStyles.Json.Reader
import ComponentStyles.Path

/-!
The config file of a workspace.

A config is a JSON object with comments. Every field may be absent, fields with other names are
skipped, and no field stands twice. A list gives the fields by position instead.
-/

namespace ComponentStyles

structure Config where
  outDir : Option Path := none
  scoping : Option Bool := none
  /-- The patterns of files to ignore. -/
  ignore : List Text := []
  reportUnresolved : Option Bool := none
  failOnWarnings : Option Bool := none
  /-- The extensions of component files. -/
  extensions : List Text := []
deriving DecidableEq, Repr

namespace Config

inductive Field where
  | outDir
  | scoping
  | ignore
  | reportUnresolved
  | failOnWarnings
  | extensions
deriving DecidableEq, Repr

namespace Field

def all : List Field :=
  [outDir, scoping, ignore, reportUnresolved, failOnWarnings, extensions]

def key : Field → Text
  | outDir => "outDir".toList
  | scoping => "scoped".toList
  | ignore => "ignore".toList
  | reportUnresolved => "reportUnresolved".toList
  | failOnWarnings => "failOnWarnings".toList
  | extensions => "extensions".toList

def ofKey? (key : Text) : Option Field :=
  all.find? fun field => field.key = key

/-- Whether a list of fields may end in front of the field. -/
def isList : Field → Bool
  | ignore | extensions => true
  | _ => false

/-- Reads the value of a field into a config. -/
def read (field : Field) (config : Config) : Json.Reader Config := fun text => do
  match field with
  | outDir =>
      let (value, rest) ← Json.Reader.optional .string text
      .ok ({ config with outDir := value.map Path.mk }, rest)
  | scoping =>
      let (value, rest) ← Json.Reader.optional .truth text
      .ok ({ config with scoping := value }, rest)
  | ignore =>
      let (value, rest) ← Json.Reader.strings text
      .ok ({ config with ignore := value }, rest)
  | reportUnresolved =>
      let (value, rest) ← Json.Reader.optional .truth text
      .ok ({ config with reportUnresolved := value }, rest)
  | failOnWarnings =>
      let (value, rest) ← Json.Reader.optional .truth text
      .ok ({ config with failOnWarnings := value }, rest)
  | extensions =>
      let (value, rest) ← Json.Reader.strings text
      .ok ({ config with extensions := value }, rest)

end Field

open Json.Reader in
/-- Reads the entries of an object, `seen` being the fields read so far. -/
def readEntries (seen : List Field) (first : Bool) (config : Config) (text : Text) :
    Except Json.Fault (Config × Text) := do
  match ← nextKey first text with
  | .closed rest => .ok (config, rest)
  | .item key =>
      let (key, rest) ← stringRest key
      match Field.ofKey? key with
      | none =>
          let rest ← skipValue (← colon rest)
          if _shorter : rest.length < text.length then readEntries seen false config rest
          else .error .malformed
      | some field =>
          if seen.contains field then .error .mismatch
          else
            let (config, rest) ← field.read config (← colon rest)
            if _shorter : rest.length < text.length then
              readEntries (field :: seen) false config rest
            else
              .error .malformed
termination_by text.length

/-- Reads the values of the given fields from a list, up to its end. -/
def readPositions (first : Bool) (config : Config) : List Field → Json.Reader Config
  | [], text =>
      match Json.Reader.skipBlanks text with
      | [] => .error .ended
      | ']' :: rest => .ok (config, rest)
      | _ => .error .malformed
  | field :: fields, text => do
      match ← Json.Reader.nextItem ']' first text with
      | .closed rest =>
          if (field :: fields).all Field.isList then .ok (config, rest) else .error .mismatch
      | .item item =>
          let (config, rest) ← field.read config item
          readPositions false config fields rest

/-- Reads a config, as an object or as a list. -/
def read : Json.Reader Config := fun text =>
  match Json.Reader.skipBlanks text with
  | '\x7b' :: rest => readEntries [] true {} rest
  | '[' :: rest => readPositions true {} Field.all rest
  | _ => .error (Json.Reader.unexpected text)

/-- The config that a text with comments holds; nothing else stands beside it. -/
def parse (text : Text) : Except Json.Fault Config := do
  let (config, rest) ← read (Json.withoutComments text)
  if (Json.Reader.skipBlanks rest).isEmpty then .ok config else .error .malformed

end Config

end ComponentStyles
