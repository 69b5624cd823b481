import ComponentStyles.Source.Span

/-!
Named source texts and positions in them.

A `LineTable` holds the offset at which each line starts, so that one table serves every
message about the same file. Lines end at a line feed; columns count bytes.
-/

namespace ComponentStyles

/-- A line and a byte column, both counted from zero. -/
structure Position where
  line : Nat
  column : Nat
deriving DecidableEq, Repr

/-- The offsets at which the lines of a text start, and the size of the text. -/
structure LineTable where
  starts : List Nat
  size : Nat
deriving DecidableEq, Repr

namespace LineTable

/-- The starts of the lines after the first, for a text that begins at `offset`. -/
def startsFrom (offset : Nat) : Text → List Nat
  | [] => []
  | c :: rest =>
      let next := offset + c.utf8Size
      if c = '\n' then next :: startsFrom next rest else startsFrom next rest

/-- The table of a text. The first line starts at offset zero. -/
def ofText (text : Text) : LineTable :=
  ⟨0 :: startsFrom 0 text, Text.size text⟩

def lineCount (table : LineTable) : Nat :=
  table.starts.length

/-- The position of an offset: on the last line that starts at or before it. An offset past
the end of the text has none. -/
def position? (table : LineTable) (offset : Nat) : Option Position :=
  if offset ≤ table.size then
    let before := table.starts.takeWhile (· ≤ offset)
    some ⟨before.length - 1, offset - before.getLastD 0⟩
  else
    none

/-- The position of an offset, or the first position of the file for an offset past the end. -/
def positionOrStart (table : LineTable) (offset : Nat) : Position :=
  (table.position? offset).getD ⟨0, 0⟩

end LineTable

/-- A named text, known by its line table. -/
structure File where
  name : Text
  lines : LineTable
deriving DecidableEq, Repr

/-- A span of a named file together with the position of its start, counted from one. -/
structure Location where
  source : Text
  span : Span
  line : Nat
  column : Nat
deriving DecidableEq, Repr

/-- A location reads `source:line:column`. -/
def Location.render (location : Location) : Text :=
  location.source ++ ':' :: Text.numeral location.line ++ ':' :: Text.numeral location.column

namespace File

/-- The file of the given name and text. -/
def ofText (name text : Text) : File :=
  ⟨name, .ofText text⟩

/-- The file of trees built by hand, which has no text. -/
def anonymous : File :=
  ofText "<anonymous>".toList []

def locate (file : File) (span : Span) : Location :=
  let start := file.lines.positionOrStart span.start
  ⟨file.name, span, start.line + 1, start.column + 1⟩

end File

end ComponentStyles
