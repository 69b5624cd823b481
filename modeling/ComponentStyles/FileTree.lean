import ComponentStyles.Path

/-!
A tree of directories and files.

A place in the tree is given by the names on the way from the root. A path leads to a place one
part after the other, and each part but the last one has to lead to a directory. So a step up
behind a name that does not exist leads nowhere. There are no links.
-/

namespace ComponentStyles

/-- A place in a tree: the names on the way from the root. -/
abbrev Address := List Text

inductive FileContent where
  | text (text : Text)
  /-- Bytes that form no text. -/
  | binary
deriving DecidableEq, Repr

/-- A file, or a directory with what it holds. -/
inductive FileTree where
  | file (content : FileContent)
  | directory (entries : List (Text × FileTree))
deriving Repr

namespace FileTree

def empty : FileTree :=
  directory []

def isDirectory : FileTree → Bool
  | directory _ => true
  | file _ => false

def entry? : FileTree → Text → Option FileTree
  | directory entries, name => entries.lookup name
  | file _, _ => none

def at? (tree : FileTree) : Address → Option FileTree
  | [] => some tree
  | name :: rest => (tree.entry? name).bind fun inner => inner.at? rest

def content? (tree : FileTree) (address : Address) : Option FileContent :=
  match tree.at? address with
  | some (file content) => some content
  | _ => none

/-- Puts an entry under a name, instead of one that is there already. -/
def setEntry (name : Text) (inner : FileTree) : List (Text × FileTree) → List (Text × FileTree)
  | [] => [(name, inner)]
  | (other, entry) :: rest =>
      if name = other then (name, inner) :: rest else (other, entry) :: setEntry name inner rest

theorem lookup_setEntry (name other : Text) (inner : FileTree)
    (entries : List (Text × FileTree)) :
    (setEntry name inner entries).lookup other =
      if other = name then some inner else entries.lookup other := by
  induction entries with
  | nil =>
      by_cases h : other = name
      · simp [setEntry, h]
      · simp [setEntry, List.lookup_cons, beq_false_of_ne h, h]
  | cons head rest ih =>
      obtain ⟨key, entry⟩ := head
      by_cases same : name = key
      · subst same
        by_cases h : other = name
        · simp [setEntry, h]
        · simp [setEntry, List.lookup_cons, beq_false_of_ne h, h]
      · by_cases h : other = key
        · simp [setEntry, same, h, Ne.symm same]
        · simp [setEntry, List.lookup_cons, same, beq_false_of_ne h, ih]

/-- Puts something at a place, together with the directories on the way that are missing. No
place lies behind a file, so nothing is put there. -/
def put : FileTree → Address → FileTree → FileTree
  | _, [], inner => inner
  | directory entries, name :: rest, inner =>
      directory (setEntry name (put ((entries.lookup name).getD empty) rest inner) entries)
  | file content, _ :: _, _ => file content

mutual

/-- The files of a tree, each with the names on the way to it. -/
def files : FileTree → List (Address × FileContent)
  | file content => [([], content)]
  | directory entries => filesOf entries

def filesOf : List (Text × FileTree) → List (Address × FileContent)
  | [] => []
  | (name, tree) :: rest =>
      tree.files.map (fun (address, content) => (name :: address, content)) ++ filesOf rest

end

/-- A place that a path leads to. -/
structure Place where
  /-- The names on the way, each with the directory that it was looked up in, the last one
  first. -/
  way : List (Text × FileTree)
  /-- What stands there. -/
  found : Option FileTree

namespace Place

/-- The names on the way from the root. -/
def address (place : Place) : Address :=
  (place.way.map (·.1)).reverse

/-- Follows one part of a path. There is nothing above the root. -/
def step (place : Place) (segment : Text) : Option Place :=
  match place.found with
  | some (directory entries) =>
      if Path.isFiller segment then some place
      else if segment = ['.', '.'] then
        match place.way with
        | [] => some place
        | (_, parent) :: way => some ⟨way, some parent⟩
      else some ⟨(segment, directory entries) :: place.way, entries.lookup segment⟩
  | _ => none

def isDirectory (place : Place) : Bool :=
  place.found.any FileTree.isDirectory

end Place

/-- Follows the parts of a path from the root of a tree. -/
def walk (tree : FileTree) (segments : List Text) : Option Place :=
  segments.foldlM Place.step ⟨[], some tree⟩

/-- Whether a file system takes a path: it limits the size of a path and of each name. -/
def isNameable (path : Path) : Bool :=
  Text.size path.text < 4096 && path.segments.all fun segment => Text.size segment < 256

/-- The place that an absolute path leads to; nothing need stand there. -/
def place? (tree : FileTree) (path : Path) : Option Place :=
  if isNameable path then tree.walk path.segments else none

def find? (tree : FileTree) (path : Path) : Option FileTree :=
  (tree.place? path).bind (·.found)

def isFile (tree : FileTree) (path : Path) : Bool :=
  (tree.find? path).any fun found => !found.isDirectory

def contains (tree : FileTree) (path : Path) : Bool :=
  (tree.find? path).isSome

def read? (tree : FileTree) (path : Path) : Option Text :=
  match tree.find? path with
  | some (file (.text text)) => some text
  | _ => none

/-- Makes the directory that some parts of a path lead to, after those on the way to it. The
parts are given from the last one to the first. -/
def makeWay? (tree : FileTree) : List Text → Option FileTree
  | [] => some tree
  | segment :: front =>
      let segments := (segment :: front).reverse
      if (tree.walk segments).any Place.isDirectory then some tree
      else do
        let tree ← makeWay? tree front
        let place ← tree.walk segments
        match place.found with
        | none => return tree.put place.address empty
        | some (directory _) => return tree
        | some (file _) => none

/-- Makes all missing directories on an absolute path. No file may stand on it. -/
def makeDirectories? (tree : FileTree) (path : Path) : Option FileTree :=
  if isNameable path then tree.makeWay? path.segments.reverse else none

/-- Writes a file, and makes the directories on the way to it. No directory may stand there. -/
def write? (tree : FileTree) (path : Path) (content : FileContent) : Option FileTree := do
  let tree ← tree.makeDirectories? path.parent
  let place ← tree.place? path
  if place.isDirectory then none else return tree.put place.address (file content)

/-- The files with a text that another tree does not have at the same place. -/
def changesFrom (tree old : FileTree) : List (Address × Text) :=
  tree.files.filterMap fun (address, content) =>
    match content with
    | .text text => if old.content? address = some content then none else some (address, text)
    | .binary => none

end FileTree

end ComponentStyles
