import ComponentStyles.Text

/-!
Globs, the patterns for the files to ignore, and how they are read.

A star stands for any bytes and a question mark for one, slashes included. Two stars that fill
the space between two slashes, or between a slash and an end, stand for directories. Classes
stand in brackets and alternatives in braces, which nest. A backslash takes its meaning from the
character behind it, except in a class.
-/

namespace ComponentStyles

inductive GlobPart where
  | character (c : Char)
  /-- One byte. -/
  | anyByte
  /-- Any number of bytes. -/
  | anyBytes
  /-- Any number of directories in front, each with its slash. -/
  | leading
  /-- A slash and everything behind it. -/
  | inside
  /-- A slash, or two with directories in between. -/
  | between
  /-- A byte from one of the ranges or, when negated, from none. -/
  | oneOf (negated : Bool) (ranges : List (Char × Char))
  /-- One of the branches. -/
  | alternatives (branches : List (List GlobPart))
deriving Repr, Inhabited

structure Glob where
  text : Text
  parts : List GlobPart
deriving Repr, Inhabited

namespace Glob

inductive Fault where
  /-- A class without its closing bracket. -/
  | unclosedClass
  /-- A range that ends in front of its start. -/
  | reversedRange (low high : Char)
  /-- A closing brace without its opening one. -/
  | unopenedGroup
  /-- An opening brace without its closing one. -/
  | unclosedGroup
  /-- A backslash with nothing behind it. -/
  | danglingEscape
deriving DecidableEq, Repr

def Fault.reason : Fault → Text
  | unclosedClass => "unclosed character class; missing ']'".toList
  | reversedRange low high =>
      "invalid range; '".toList ++ low :: "' > '".toList ++ high :: ['\'']
  | unopenedGroup =>
      "unopened alternate group; missing '\x7b' (maybe escape '\x7d' with '[\x7d]'?)".toList
  | unclosedGroup =>
      "unclosed alternate group; missing '\x7d' (maybe escape '\x7b' with '[\x7b]'?)".toList
  | danglingEscape => "dangling '\\'".toList

def Fault.message (fault : Fault) (text : Text) : Text :=
  "error parsing glob '".toList ++ text ++ "': ".toList ++ fault.reason

/-! ## Classes -/

/-- Reads the ranges of a class up to its closing bracket. The ranges so far come last one
first, and `dashed` tells that a dash follows the last one. A bracket right at the start is a
member, and so is a dash at the start or at the end. -/
def readRanges (ranges : List (Char × Char)) (dashed : Bool) :
    Text → Except Fault (List (Char × Char) × Text)
  | [] => .error .unclosedClass
  | c :: rest =>
      match ranges with
      | [] => readRanges [(c, c)] false rest
      | (low, high) :: others =>
          if dashed && c != ']' then
            if c < low then .error (.reversedRange low c)
            else readRanges ((low, c) :: others) false rest
          else if c = ']' then
            .ok ((if dashed then ('-', '-') :: ranges else ranges).reverse, rest)
          else if c = '-' then readRanges ranges true rest
          else readRanges ((c, c) :: (low, high) :: others) false rest

def readClass (text : Text) : Except Fault (GlobPart × Text) := do
  match text with
  | '!' :: rest | '^' :: rest =>
      let (ranges, rest) ← readRanges [] false rest
      .ok (.oneOf true ranges, rest)
  | _ =>
      let (ranges, rest) ← readRanges [] false text
      .ok (.oneOf false ranges, rest)

/-! ## Reading -/

/-- A glob that is read in part. -/
structure Draft where
  /-- The parts of the branch being read, the last one first. -/
  parts : List GlobPart := []
  /-- The groups around that branch, the innermost first. Each holds the parts in front of it and
  its finished branches, both the last one first. -/
  groups : List (List GlobPart × List (List GlobPart)) := []
deriving Repr

namespace Draft

def push (draft : Draft) (part : GlobPart) : Draft :=
  { draft with parts := part :: draft.parts }

/-- Replaces the last part, unless it stands for directories at an end already. -/
def replaceLast (draft : Draft) (part : GlobPart) : Draft :=
  match draft.parts with
  | .leading :: _ | .inside :: _ => draft
  | _ => { draft with parts := part :: draft.parts.drop 1 }

def openGroup (draft : Draft) : Draft :=
  ⟨[], (draft.parts, []) :: draft.groups⟩

/-- Goes on to the next branch of the innermost group. Outside groups a comma is a character. -/
def comma (draft : Draft) : Draft :=
  match draft.groups with
  | [] => draft.push (.character ',')
  | (front, branches) :: outer =>
      ⟨[], (front, draft.parts.reverse :: branches) :: outer⟩

def closeGroup (draft : Draft) : Except Fault Draft :=
  match draft.groups with
  | [] => .error .unopenedGroup
  | (front, branches) :: outer =>
      .ok ⟨.alternatives (draft.parts.reverse :: branches).reverse :: front, outer⟩

def finish (draft : Draft) : Except Fault (List GlobPart) :=
  if draft.groups.isEmpty then .ok draft.parts.reverse else .error .unclosedGroup

/-- Whether two stars behind `previous` start where directories start. -/
def startsDirectories (draft : Draft) (previous : Option Char) : Bool :=
  previous = some '/' ||
    (!draft.groups.isEmpty && (previous = some ',' || previous = some '\x7b'))

/-- Takes two stars in front of `rest`. Gives whether they took a slash along. -/
def doubleStar (draft : Draft) (previous : Option Char) (rest : Text) : Draft × Bool :=
  if draft.parts.isEmpty then
    match rest with
    | [] => (draft.push .leading, false)
    | '/' :: _ => (draft.push .leading, true)
    | _ => (draft.push .anyBytes, false)
  else if draft.startsDirectories previous then
    match rest with
    | [] => (draft.replaceLast .inside, false)
    | '/' :: _ => (draft.replaceLast .between, true)
    | c :: _ =>
        if (c = ',' || c = '\x7d') && !draft.groups.isEmpty then
          (draft.replaceLast .inside, false)
        else
          (draft.push .anyBytes, false)
  else
    (draft.push .anyBytes, false)

end Draft

def readFrom (draft : Draft) (previous : Option Char) (text : Text) :
    Except Fault (List GlobPart) :=
  match text with
  | [] => draft.finish
  | '?' :: rest => readFrom (draft.push .anyByte) (some '?') rest
  | '*' :: '*' :: rest =>
      match draft.doubleStar previous rest with
      | (draft, true) => readFrom draft (some '/') (rest.drop 1)
      | (draft, false) => readFrom draft (some '*') rest
  | '*' :: rest => readFrom (draft.push .anyBytes) (some '*') rest
  | '[' :: rest => do
      let (part, next) ← readClass rest
      if _shorter : next.length ≤ rest.length then readFrom (draft.push part) (some ']') next
      else .error .unclosedClass
  | '\x7b' :: rest => readFrom draft.openGroup (some '\x7b') rest
  | '\x7d' :: rest => do
      let draft ← draft.closeGroup
      readFrom draft (some '\x7d') rest
  | ',' :: rest => readFrom draft.comma (some ',') rest
  | ['\\'] => .error .danglingEscape
  | '\\' :: c :: rest => readFrom (draft.push (.character c)) (some c) rest
  | c :: rest => readFrom (draft.push (.character c)) (some c) rest
termination_by text.length

def ofText (text : Text) : Except Fault Glob := do
  let parts ← readFrom {} none text
  .ok ⟨text, parts⟩

end Glob

end ComponentStyles
