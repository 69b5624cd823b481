import ComponentStyles.Text

/-!
Lexical arithmetic on file paths.

A path is a text; what it names is a row of components. Repeated slashes name nothing, nor does
a dot behind the first component. Nothing here looks at a file system, so a step up is only
folded into the component in front of it by `normalize`.
-/

namespace ComponentStyles

structure Path where
  text : Text
deriving DecidableEq, Repr, Inhabited

namespace Path

inductive Component where
  | root
  /-- A dot that starts a relative path. -/
  | here
  | up
  | name (text : Text)
deriving DecidableEq, Repr

namespace Component

/-- The written form of a component. -/
def text : Component → Text
  | root => ['/']
  | here => ['.']
  | up => ['.', '.']
  | name text => text

/-- The component that a part of a path between two slashes names. -/
def ofSegment (segment : Text) : Component :=
  if segment = ['.', '.'] then up else name segment

end Component

/-- Whether a part of a path between two slashes names nothing. -/
def isFiller (segment : Text) : Bool :=
  segment.isEmpty || segment = ['.']

def isAbsolute (path : Path) : Bool :=
  path.text.head? = some '/'

/-- The parts of a path between its slashes. -/
def segments (path : Path) : List Text :=
  Text.splitOn '/' path.text

/-- What a path names, from left to right. -/
def components (path : Path) : List Component :=
  let named := (path.segments.filter fun s => !isFiller s).map Component.ofSegment
  if path.isAbsolute then .root :: named
  else if path.segments.head? = some ['.'] then .here :: named
  else named

/-- The path of another one, seen from a directory. -/
def join (directory path : Path) : Path :=
  if path.isAbsolute || directory.text.isEmpty then path
  else if directory.text.getLast? = some '/' then ⟨directory.text ++ path.text⟩
  else ⟨directory.text ++ '/' :: path.text⟩

def ofComponents : List Component → Path
  | .root :: rest => ⟨'/' :: Text.join ['/'] (rest.map Component.text)⟩
  | components => ⟨Text.join ['/'] (components.map Component.text)⟩

/-- Puts a component on the components in front of it, the last one first. A dot changes
nothing, and a step up undoes a name. There is nothing above the root. -/
def Component.push (front : List Component) : Component → List Component
  | here => front
  | up =>
      match front with
      | name _ :: rest => rest
      | root :: _ => front
      | _ => up :: front
  | c => c :: front

/-- The components of the path without dots and with steps up only in front. -/
def canonical (path : Path) : List Component :=
  (path.components.foldl Component.push []).reverse

/-- The shortest path that names the same, as far as the text alone can tell. -/
def normalize (path : Path) : Path :=
  ofComponents path.canonical

/-- Drops what two rows start with in common. -/
def dropCommon : List Component → List Component → List Component × List Component
  | a :: as, b :: bs => if a = b then dropCommon as bs else (a :: as, b :: bs)
  | as, bs => (as, bs)

/-- The path that leads from one directory to another. Where only one of them is absolute, no
path does, and the target is given as it is. -/
def relative (source target : Path) : Path :=
  if source.isAbsolute != target.isAbsolute then target
  else
    let (back, forth) := dropCommon source.canonical target.canonical
    ofComponents (List.replicate back.length .up ++ forth)

/-- The directory of a file; a bare name lies in the empty path. The root and the empty path
lie in no directory. -/
def parent? (path : Path) : Option Path :=
  match path.components.reverse with
  | [] => none
  | .root :: _ => none
  | _ :: front => some (ofComponents front.reverse)

def parent (path : Path) : Path :=
  path.parent?.getD ⟨[]⟩

def fileName? (path : Path) : Option Text :=
  match path.components.getLast? with
  | some (.name name) => some name
  | _ => none

/-- The name of a file without its extension: what stands in front of the last dot, unless the
name starts there. -/
def stem (name : Text) : Text :=
  let before := ((name.reverse.dropWhile (· != '.')).drop 1).reverse
  if before.isEmpty then name else before

/-- The path with trailing parts that name nothing left out. -/
def trimEnd (segments : List Text) : List Text :=
  (segments.reverse.dropWhile isFiller).reverse

/-- The name with another extension. Where only a dot stands in front of the old extension and
its dot, the two dots stay alone, as they name no file that an extension could be given to. -/
def renamed (name ext : Text) : Text :=
  if stem name = ['.'] then ['.', '.'] else stem name ++ '.' :: ext

/-- The path with another extension, or with an extension if it had none. -/
def withExtension (path : Path) (ext : Text) : Path :=
  match path.fileName? with
  | none => path
  | some name =>
      let front := (trimEnd path.segments).dropLast
      ⟨Text.join ['/'] (front ++ [renamed name ext])⟩

/-- Drops segments until the given number of them that name something is gone. -/
def dropSegments : Nat → List Text → List Text
  | 0, segments => segments
  | _, [] => []
  | count + 1, segment :: rest =>
      if isFiller segment then dropSegments (count + 1) rest else dropSegments count rest

/-- What is left of an absolute path behind a directory that it starts with, as written. -/
def below? (path directory : Path) : Option Path :=
  if directory.components.isPrefixOf path.components then
    let named := directory.components.filter fun c => c != .root && c != .here
    some ⟨Text.join ['/']
      (trimEnd ((dropSegments named.length path.segments).dropWhile isFiller))⟩
  else
    none

/-- The order of components: the root, a dot, a step up, then names by code point. -/
def Component.le : Component → Component → Bool
  | name a, name b => Text.le a b
  | name _, _ => false
  | _, name _ => true
  | root, _ => true
  | here, root => false
  | here, _ => true
  | up, up => true
  | up, _ => false

def leComponents : List Component → List Component → Bool
  | [], _ => true
  | _ :: _, [] => false
  | a :: as, b :: bs => if a = b then leComponents as bs else a.le b

def le (a b : Path) : Bool :=
  leComponents a.components b.components

def same (a b : Path) : Bool :=
  a.components == b.components

end Path

end ComponentStyles
