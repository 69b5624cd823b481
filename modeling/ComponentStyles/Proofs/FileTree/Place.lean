import ComponentStyles.FileTree
import ComponentStyles.Proofs.Path.Address

/-!
# Where a path leads in a file tree

A path is followed part by part, through directories only. As there are no links, the place that it
leads to is told by its text alone: the names of its canonical row are the names on the way from the
root.
-/

namespace ComponentStyles

namespace FileTree

variable {tree inner : FileTree} {place next : Place} {path : Path}

theorem at?_append (tree : FileTree) (front rest : Address) :
    tree.at? (front ++ rest) = (tree.at? front).bind fun inner => inner.at? rest := by
  induction front generalizing tree with
  | nil => rfl
  | cons name front inductionHypothesis =>
      rw [List.cons_append, at?, at?, Option.bind_assoc]
      exact congrArg _ (funext fun inner => inductionHypothesis inner)

theorem at?_concat (tree : FileTree) (front : Address) (name : Text) :
    tree.at? (front ++ [name]) = (tree.at? front).bind fun inner => inner.entry? name := by
  rw [at?_append]
  exact congrArg _ (funext fun inner => Option.bind_fun_some (inner.entry? name))

theorem content?_eq_some_iff {address : Address} {content : FileContent} :
    tree.content? address = some content ↔ tree.at? address = some (file content) := by
  rw [content?]
  split <;> simp_all

/-- All that stands on the way to an address is a directory. -/
def HasWay (tree : FileTree) (address : Address) : Prop :=
  ∀ front name rest, address = front ++ name :: rest →
    ∃ entries, tree.at? front = some (directory entries)

/-- A place that is reached from the root, entry by entry. -/
inductive Place.Within (tree : FileTree) : Place → Prop where
  | root : Within tree ⟨[], some tree⟩
  | entry {way entries} (name : Text) (above : Within tree ⟨way, some (directory entries)⟩) :
      Within tree ⟨(name, directory entries) :: way, entries.lookup name⟩

theorem Place.address_cons (entry : Text × FileTree) (way : List (Text × FileTree))
    (found other : Option FileTree) :
    Place.address ⟨entry :: way, found⟩ = Place.address ⟨way, other⟩ ++ [entry.1] :=
  List.reverse_cons

theorem Place.Within.above {name : Text} {parent : FileTree} {way : List (Text × FileTree)}
    {found : Option FileTree} (within : Within tree ⟨(name, parent) :: way, found⟩) :
    Within tree ⟨way, some parent⟩ := by
  cases within with
  | entry _ above => exact above

theorem Place.Within.parent {name : Text} {parent : FileTree} {way : List (Text × FileTree)}
    {found : Option FileTree} (within : Within tree ⟨(name, parent) :: way, found⟩) :
    parent.isDirectory = true := by
  cases within with
  | entry _ _ => rfl

theorem Place.Within.found (within : place.Within tree) :
    place.found = tree.at? place.address := by
  induction within with
  | root => rfl
  | entry name above inductionHypothesis =>
      rw [Place.address_cons, at?_concat, ← inductionHypothesis]
      rfl

theorem Place.Within.hasWay (within : place.Within tree) : tree.HasWay place.address := by
  induction within with
  | root =>
      intro front name rest split
      cases front <;> cases split
  | @entry way entries name above inductionHypothesis =>
      intro front other rest split
      rw [Place.address_cons _ _ _ (some (directory entries))] at split
      rcases List.eq_nil_or_concat rest with rfl | ⟨before, last, rfl⟩
      · obtain ⟨same, -⟩ := List.append_inj' split rfl
        exact ⟨entries, by rw [← same, ← above.found]⟩
      · rw [List.concat_eq_append, ← List.cons_append, ← List.append_assoc] at split
        exact inductionHypothesis front other before (List.append_inj' split rfl).1

/-- A step from a directory: a part that is no name stays there or leads up, but not above the root,
and a name leads to the entry. -/
inductive Place.Steps : Place → Text → Place → Prop where
  | stay {way entries segment} (filler : Path.isFiller segment = true) :
      Steps ⟨way, some (directory entries)⟩ segment ⟨way, some (directory entries)⟩
  | top {entries} : Steps ⟨[], some (directory entries)⟩ ['.', '.'] ⟨[], some (directory entries)⟩
  | up {name parent way entries} :
      Steps ⟨(name, parent) :: way, some (directory entries)⟩ ['.', '.'] ⟨way, some parent⟩
  | down {way entries segment} (proper : Path.isFiller segment = false)
      (notUp : segment ≠ ['.', '.']) :
      Steps ⟨way, some (directory entries)⟩ segment
        ⟨(segment, directory entries) :: way, entries.lookup segment⟩

theorem Place.step_eq_some_iff {segment : Text} :
    place.step segment = some next ↔ place.Steps segment next := by
  constructor
  · intro stepped
    obtain ⟨way, found⟩ := place
    rw [Place.step] at stepped
    split at stepped
    case h_2 => cases stepped
    case h_1 entries isDirectory =>
      obtain rfl : found = some (directory entries) := isDirectory
      split at stepped
      case isTrue filler =>
        obtain rfl := Option.some.inj stepped
        exact .stay filler
      case isFalse proper =>
        split at stepped
        case isTrue up =>
          subst up
          cases way with
          | nil =>
              obtain rfl := Option.some.inj stepped
              exact .top
          | cons entry way =>
              obtain rfl := Option.some.inj stepped
              exact .up
        case isFalse down =>
          obtain rfl := Option.some.inj stepped
          exact .down (Bool.eq_false_iff.mpr proper) down
  · intro steps
    cases steps with
    | stay filler => exact if_pos filler
    | top | up => rfl
    | down proper notUp => simp [Place.step, proper, notUp]

theorem Place.Within.step {segment : Text} (within : place.Within tree)
    (stepped : place.step segment = some next) : next.Within tree := by
  cases Place.step_eq_some_iff.mp stepped with
  | stay | top => exact within
  | up => exact within.above
  | down => exact .entry segment within

/-- The place as a row of components, the last one first. -/
def Place.row (place : Place) : List Path.Component :=
  place.way.map (fun entry => .name entry.1) ++ [.root]

theorem Place.row_eq (place : Place) : place.row = place.address.reverse.map .name ++ [.root] := by
  rw [row, address, List.reverse_reverse, List.map_map]
  rfl

/-- A step through the tree is the step of the text. -/
theorem Place.row_step {segment : Text} (stepped : place.step segment = some next) :
    next.row = Path.walk place.row
      (([segment].filter fun s => !Path.isFiller s).map Path.Component.ofSegment) := by
  cases Place.step_eq_some_iff.mp stepped with
  | stay filler =>
      rw [List.filter_cons_of_neg (by simpa using filler)]
      rfl
  | top | up => rfl
  | down proper notUp =>
      rw [List.filter_cons_of_pos (by simpa using proper), List.filter_nil, List.map_singleton,
        Path.Component.ofSegment, if_neg notUp]
      rfl

theorem row_of_steps {segments : List Text} (walked : segments.foldlM Place.step place = some next) :
    next.row = Path.walk place.row
      ((segments.filter fun s => !Path.isFiller s).map Path.Component.ofSegment) := by
  induction segments generalizing place with
  | nil =>
      obtain rfl := Option.some.inj walked
      rfl
  | cons segment rest inductionHypothesis =>
      rw [List.foldlM_cons] at walked
      obtain ⟨middle, stepped, others⟩ := Option.bind_eq_some_iff.mp walked
      rw [inductionHypothesis others, Place.row_step stepped, ← Path.walk_append,
        ← List.map_append, ← List.filter_append]
      rfl

theorem within_of_steps {segments : List Text} (within : place.Within tree)
    (walked : segments.foldlM Place.step place = some next) : next.Within tree := by
  induction segments generalizing place with
  | nil =>
      obtain rfl := Option.some.inj walked
      exact within
  | cons segment rest inductionHypothesis =>
      rw [List.foldlM_cons] at walked
      obtain ⟨middle, stepped, others⟩ := Option.bind_eq_some_iff.mp walked
      exact inductionHypothesis (within.step stepped) others

theorem within_of_walk {segments : List Text} (walked : tree.walk segments = some place) :
    place.Within tree :=
  within_of_steps .root walked

/-- The place that an absolute path leads to is the one that its text tells. -/
theorem address_of_walk (absolute : path.isAbsolute = true)
    (walked : tree.walk path.segments = some place) : place.address = path.address := by
  have row := row_of_steps walked
  rw [Place.row_eq, ← Path.named.eq_1] at row
  have root : Place.row ⟨[], some tree⟩ = [.root] := rfl
  have whole : Path.walk [] path.components = Path.walk [.root] path.named := by
    rw [Path.components_of_isAbsolute absolute]
    rfl
  rw [root, ← whole, Path.walk_eq_address absolute] at row
  have names := List.append_cancel_right row
  have injective : Function.Injective Path.Component.name := fun _ _ => Path.Component.name.inj
  exact List.reverse_injective (List.map_injective_iff.mpr injective names)

theorem place?_eq_some_iff : tree.place? path = some place ↔
    isNameable path = true ∧ tree.walk path.segments = some place := by
  rw [place?, Option.ite_none_right_eq_some]

theorem walk_of_place? (found : tree.place? path = some place) :
    tree.walk path.segments = some place :=
  (place?_eq_some_iff.mp found).2

theorem at?_of_find? (absolute : path.isAbsolute = true) (found : tree.find? path = some inner) :
    tree.at? path.address = some inner := by
  obtain ⟨place, reached, stands⟩ := Option.bind_eq_some_iff.mp found
  have walked := walk_of_place? reached
  rw [← address_of_walk absolute walked, ← (within_of_walk walked).found, stands]

theorem content?_of_read? {text : Text} (absolute : path.isAbsolute = true)
    (read : tree.read? path = some text) : tree.content? path.address = some (.text text) := by
  rw [read?] at read
  split at read
  case h_1 found =>
    obtain rfl := Option.some.inj read
    exact content?_eq_some_iff.mpr (at?_of_find? absolute found)
  case h_2 => cases read

section Canonical

variable {names : List Text}

theorem Place.step_name {name : Text} (isName : Path.IsName name) (place : Place) :
    (place.step name).bind (·.found) = place.found.bind fun inner => inner.entry? name := by
  obtain ⟨way, found⟩ := place
  rw [Place.step]
  cases found with
  | none => rfl
  | some inner =>
      cases inner with
      | file => rfl
      | directory entries =>
          dsimp only
          rw [if_neg (by simp [isName.1]), if_neg isName.2.1]
          rfl

/-- Names lead to what stands there. -/
theorem found_of_steps_names (proper : ∀ name ∈ names, Path.IsName name) (place : Place) :
    (names.foldlM Place.step place).bind (·.found) =
      place.found.bind fun inner => inner.at? names := by
  induction names generalizing place with
  | nil => exact (Option.bind_fun_some place.found).symm
  | cons name rest inductionHypothesis =>
      have isName := proper name List.mem_cons_self
      have later : ∀ name ∈ rest, Path.IsName name := fun name listed =>
        proper name (List.mem_cons_of_mem _ listed)
      have onward : (fun place : Place => (rest.foldlM Place.step place).bind (·.found)) =
          fun place => place.found.bind fun inner => inner.at? rest :=
        funext (inductionHypothesis later)
      rw [List.foldlM_cons]
      change ((place.step name).bind fun place => rest.foldlM Place.step place).bind _ = _
      rw [Option.bind_assoc, onward, ← Option.bind_assoc, Place.step_name isName, Option.bind_assoc]
      rfl

theorem isDirectory_of_find? (absolute : path.isAbsolute = true)
    (found : tree.find? path = some inner) : tree.isDirectory = true := by
  obtain ⟨place, reached, -⟩ := Option.bind_eq_some_iff.mp found
  have walked := walk_of_place? reached
  obtain ⟨text⟩ := path
  obtain ⟨rest, rfl⟩ := List.head?_eq_some_iff.mp (of_decide_eq_true absolute)
  rw [Path.segments, Text.splitOn, if_pos rfl, walk, List.foldlM_cons] at walked
  obtain ⟨first, stepped, -⟩ := Option.bind_eq_some_iff.mp walked
  cases tree with
  | file => cases stepped
  | directory => rfl

theorem isNameable_normalize (absolute : path.isAbsolute = true) (nameable : isNameable path = true) :
    isNameable path.normalize = true := by
  rw [isNameable, Bool.and_eq_true, decide_eq_true_eq, List.all_eq_true] at nameable ⊢
  refine ⟨Nat.lt_of_le_of_lt (Path.size_normalize_le absolute) nameable.1, ?_⟩
  intro segment listed
  rw [Path.segments_normalize absolute] at listed
  rcases List.mem_cons.mp listed with rfl | later
  · decide
  · by_cases root : path.address = []
    · rw [root] at later
      rw [List.mem_singleton.mp later]
      decide
    · rw [Path.segments_ofNames root fun _ => Path.isName_of_mem_address absolute] at later
      exact nameable.2 segment ((Path.address_sublist_segments absolute).subset later)

/-- A canonical path leads to what stands at its address. -/
theorem find?_normalize (absolute : path.isAbsolute = true) (root : tree.isDirectory = true)
    (nameable : isNameable path.normalize = true) :
    tree.find? path.normalize = tree.at? path.address := by
  have proper : ∀ name ∈ path.address, Path.IsName name := fun _ => Path.isName_of_mem_address absolute
  rw [find?, place?, if_pos nameable, Path.segments_normalize absolute, walk, List.foldlM_cons]
  cases tree with
  | file => cases root
  | directory entries =>
      change (List.foldlM Place.step ⟨[], some (directory entries)⟩ _).bind _ = _
      by_cases empty : path.address = []
      · rw [empty]
        rfl
      · rw [Path.segments_ofNames empty proper, found_of_steps_names proper]
        rfl

theorem isFile_iff : tree.isFile path = true ↔ ∃ content, tree.find? path = some (file content) := by
  rw [isFile]
  cases tree.find? path with
  | none => simp
  | some found => cases found <;> simp [FileTree.isDirectory]

/-- A canonical path leads to a file just when one stands at its address and the path is not too
long. -/
theorem isFile_normalize_iff (absolute : path.isAbsolute = true) (root : tree.isDirectory = true) :
    tree.isFile path.normalize = true ↔
      isNameable path.normalize = true ∧ ∃ content, tree.content? path.address = some content := by
  rw [isFile_iff]
  cases nameable : isNameable path.normalize with
  | false => simp [find?, place?, nameable]
  | true =>
      rw [find?_normalize absolute root nameable, and_iff_right rfl]
      exact exists_congr fun _ => content?_eq_some_iff.symm

theorem isDirectory_of_isFile (absolute : path.isAbsolute = true)
    (isFile : tree.isFile path = true) : tree.isDirectory = true := by
  obtain ⟨content, found⟩ := isFile_iff.mp isFile
  exact isDirectory_of_find? absolute found

theorem find?_normalize_of_find? (absolute : path.isAbsolute = true)
    (found : tree.find? path = some inner) : tree.find? path.normalize = some inner := by
  obtain ⟨place, reached, -⟩ := Option.bind_eq_some_iff.mp found
  have nameable := (place?_eq_some_iff.mp reached).1
  rw [find?_normalize absolute (isDirectory_of_find? absolute found)
    (isNameable_normalize absolute nameable), at?_of_find? absolute found]

end Canonical

end FileTree

end ComponentStyles
