import ComponentStyles.Proofs.FileTree.Place

/-!
# What a write changes

Writing a file sets the file at the place of its path and changes no other file. Directories may
appear on the way, but none goes.
-/

namespace ComponentStyles.FileTree

variable {tree after inner : FileTree} {address other : Address} {content : FileContent}

/-- A tree from outside: what a file holds, and nothing of what a directory does. -/
def outside : FileTree → Option FileContent
  | file content => some content
  | directory _ => none

/-- What stands at an address, from outside. -/
def seen? (tree : FileTree) (address : Address) : Option (Option FileContent) :=
  (tree.at? address).map outside

theorem content?_eq_seen? (tree : FileTree) (address : Address) :
    tree.content? address = (tree.seen? address).join := by
  rw [content?, seen?]
  cases tree.at? address with
  | none => rfl
  | some found => cases found <;> rfl

theorem seen?_eq_none_iff : tree.seen? address = none ↔ tree.at? address = none :=
  Option.map_eq_none_iff

theorem seen?_eq_directory_iff :
    tree.seen? address = some none ↔ ∃ entries, tree.at? address = some (directory entries) := by
  rw [seen?, Option.map_eq_some_iff]
  constructor
  · rintro ⟨found, stands, isDirectory⟩
    cases found with
    | file content => cases isDirectory
    | directory entries => exact ⟨entries, stands⟩
  · rintro ⟨entries, stands⟩
    exact ⟨directory entries, stands, rfl⟩

theorem seen?_cons (entries : List (Text × FileTree)) (name : Text) (rest : Address) :
    (directory entries).seen? (name :: rest) =
      (entries.lookup name).bind fun inner => inner.seen? rest := by
  rw [seen?, at?, Option.map_bind]
  rfl

theorem seen?_append_of_not_directory (stands : tree.seen? address ≠ some none) (name : Text)
    (rest : Address) : tree.seen? (address ++ name :: rest) = none := by
  rw [seen?, at?_append]
  cases found : tree.at? address with
  | none => rfl
  | some inner =>
      cases inner with
      | file content => rfl
      | directory entries => exact absurd (seen?_eq_directory_iff.mpr ⟨entries, found⟩) stands

theorem HasWay.below {entries : List (Text × FileTree)} {name : Text} {rest : Address}
    (way : (directory entries).HasWay (name :: rest)) :
    ((entries.lookup name).getD empty).HasWay rest := by
  intro front next others split
  obtain ⟨found, stands⟩ := way (name :: front) next others (congrArg (name :: ·) split)
  rw [at?] at stands
  obtain ⟨inner, listed, below⟩ := Option.bind_eq_some_iff.mp stands
  change entries.lookup name = some inner at listed
  rw [listed]
  exact ⟨found, below⟩

/-- What is put at an address is seen there and below. -/
theorem seen?_put_below (way : tree.HasWay address) (inner : FileTree) (rest : Address) :
    (tree.put address inner).seen? (address ++ rest) = inner.seen? rest := by
  induction address generalizing tree with
  | nil =>
      rw [put]
      rfl
  | cons name address inductionHypothesis =>
      obtain ⟨entries, root⟩ := way [] name address rfl
      obtain rfl := Option.some.inj root
      rw [put, List.cons_append, seen?_cons, lookup_setEntry, if_pos rfl, Option.bind_some]
      exact inductionHypothesis way.below

/-- Elsewhere nothing changes. -/
theorem seen?_put_apart (way : tree.HasWay address) (inner : FileTree)
    (apart : ¬ address <+: other) : (tree.put address inner).seen? other = tree.seen? other := by
  induction address generalizing tree other with
  | nil => exact absurd (List.nil_prefix) apart
  | cons name address inductionHypothesis =>
      obtain ⟨entries, root⟩ := way [] name address rfl
      obtain rfl := Option.some.inj root
      rw [put]
      cases other with
      | nil => rfl
      | cons first others =>
          rw [seen?_cons, seen?_cons, lookup_setEntry]
          by_cases same : first = name
          · subst same
            have apart : ¬ address <+: others := fun isPrefix =>
              apart (List.cons_prefix_cons.mpr ⟨rfl, isPrefix⟩)
            rw [if_pos rfl, Option.bind_some, inductionHypothesis way.below apart]
            cases listed : entries.lookup first with
            | some found => rfl
            | none =>
                -- Nothing stands under the name, so the way ends there.
                cases address with
                | nil => exact absurd List.nil_prefix apart
                | cons second rest =>
                    obtain ⟨found, stands⟩ := way [first] second rest rfl
                    rw [at?, entry?, listed] at stands
                    cases stands
          · rw [if_neg same]

/-- A tree that has the files of another one and keeps its directories. -/
structure Extends (after before : FileTree) : Prop where
  files : ∀ address, after.content? address = before.content? address
  directories : ∀ address, before.seen? address = some none → after.seen? address = some none

theorem Extends.refl (tree : FileTree) : tree.Extends tree :=
  ⟨fun _ => rfl, fun _ stands => stands⟩

theorem Extends.trans {last : FileTree} (second : last.Extends after) (first : after.Extends tree) :
    last.Extends tree :=
  ⟨fun address => (second.files address).trans (first.files address),
    fun address stands => second.directories address (first.directories address stands)⟩

theorem seen?_empty_cons (name : Text) (rest : Address) : empty.seen? (name :: rest) = none :=
  seen?_cons [] name rest

theorem Place.Within.seen?_of_not_directory {place : Place} (within : place.Within tree)
    (notDirectory : place.isDirectory = false) : tree.seen? place.address ≠ some none := by
  intro stands
  obtain ⟨entries, found⟩ := seen?_eq_directory_iff.mp stands
  rw [Place.isDirectory, within.found, found] at notDirectory
  cases notDirectory

/-- A directory that is made where nothing stands holds no file. -/
theorem extends_put_empty {place : Place} (within : place.Within tree) (free : place.found = none) :
    (tree.put place.address empty).Extends tree := by
  have nothing : tree.seen? place.address = none := by
    rw [seen?_eq_none_iff, ← within.found, free]
  constructor
  · intro address
    rw [content?_eq_seen?, content?_eq_seen?]
    by_cases below : place.address <+: address
    · obtain ⟨rest, rfl⟩ := below
      rw [seen?_put_below within.hasWay]
      cases rest with
      | nil =>
          rw [List.append_nil, nothing]
          rfl
      | cons name rest =>
          rw [seen?_empty_cons, seen?_append_of_not_directory (by simp [nothing])]
    · rw [seen?_put_apart within.hasWay _ below]
  · intro address stands
    by_cases below : place.address <+: address
    · obtain ⟨rest, rfl⟩ := below
      cases rest with
      | nil =>
          rw [List.append_nil, nothing] at stands
          cases stands
      | cons name rest =>
          rw [seen?_append_of_not_directory (by simp [nothing])] at stands
          cases stands
    · rwa [seen?_put_apart within.hasWay _ below]

theorem extends_makeWay {segments : List Text} (made : tree.makeWay? segments = some after) :
    after.Extends tree := by
  induction segments generalizing after with
  | nil =>
      obtain rfl := Option.some.inj made
      exact .refl tree
  | cons segment front inductionHypothesis =>
      rw [makeWay?] at made
      split at made
      · obtain rfl := Option.some.inj made
        exact .refl tree
      · obtain ⟨middle, madeFront, others⟩ := Option.bind_eq_some_iff.mp made
        obtain ⟨place, walked, others⟩ := Option.bind_eq_some_iff.mp others
        have front := inductionHypothesis madeFront
        split at others
        case h_1 free =>
          obtain rfl := Option.some.inj others
          exact (extends_put_empty (within_of_walk walked) free).trans front
        case h_2 =>
          obtain rfl := Option.some.inj others
          exact front
        case h_3 => cases others

theorem extends_makeDirectories {path : Path} (made : tree.makeDirectories? path = some after) :
    after.Extends tree := by
  rw [makeDirectories?] at made
  split at made
  · exact extends_makeWay made
  · cases made

section Write

variable {path : Path}

/-- What a write leaves: the file that is written, all other files and every directory. -/
structure Writes (before : FileTree) (address : Address) (content : FileContent)
    (after : FileTree) : Prop where
  files : ∀ other, after.content? other =
    if other = address then some content else before.content? other
  directories : ∀ other, before.seen? other = some none → after.seen? other = some none

theorem writes_put {place : Place} (within : place.Within tree)
    (notDirectory : place.isDirectory = false) (content : FileContent) :
    tree.Writes place.address content (tree.put place.address (file content)) := by
  have stands := within.seen?_of_not_directory notDirectory
  have apart {other : Address} (directory : tree.seen? other = some none) :
      ¬ place.address <+: other := by
    rintro ⟨rest, rfl⟩
    cases rest with
    | nil => exact stands (by rwa [List.append_nil] at directory)
    | cons name rest =>
        rw [seen?_append_of_not_directory stands] at directory
        cases directory
  constructor
  · intro other
    rw [content?_eq_seen?, content?_eq_seen?]
    by_cases below : place.address <+: other
    · obtain ⟨rest, rfl⟩ := below
      rw [seen?_put_below within.hasWay]
      cases rest with
      | nil =>
          rw [List.append_nil, if_pos rfl]
          rfl
      | cons name rest =>
          rw [if_neg (by simp), seen?_append_of_not_directory stands]
          rfl
    · have other : other ≠ place.address := by
        rintro rfl
        exact below (List.prefix_refl _)
      rw [if_neg other, seen?_put_apart within.hasWay _ below]
  · intro other directory
    rwa [seen?_put_apart within.hasWay _ (apart directory)]

theorem write?_cases (written : tree.write? path content = some after) :
    ∃ middle place, tree.makeDirectories? path.parent = some middle ∧
      middle.place? path = some place ∧ place.isDirectory = false ∧
      after = middle.put place.address (file content) := by
  obtain ⟨middle, made, others⟩ := Option.bind_eq_some_iff.mp written
  obtain ⟨place, reached, others⟩ := Option.bind_eq_some_iff.mp others
  split at others
  case isTrue => cases others
  case isFalse notDirectory =>
    exact ⟨middle, place, made, reached, Bool.eq_false_iff.mpr notDirectory,
      (Option.some.inj others).symm⟩

theorem writes_of_write? (absolute : path.isAbsolute = true)
    (written : tree.write? path content = some after) : tree.Writes path.address content after := by
  obtain ⟨middle, place, made, reached, notDirectory, rfl⟩ := write?_cases written
  have walked := walk_of_place? reached
  have extends_ := extends_makeDirectories made
  have writes := writes_put (within_of_walk walked) notDirectory content
  rw [address_of_walk absolute walked] at writes ⊢
  constructor
  · intro other
    rw [writes.files, extends_.files]
  · intro other stands
    exact writes.directories other (extends_.directories other stands)

end Write

section Walk

variable {place later next : Place} {segment : Text}

/-- Where directories stay, a way that could be followed can still be followed. -/
theorem step_of_directories
    (keeps : ∀ address, tree.seen? address = some none → after.seen? address = some none)
    (within : place.Within tree) (laterWithin : later.Within after)
    (same : later.way.map (·.1) = place.way.map (·.1)) (stepped : place.step segment = some next) :
    ∃ reached, later.step segment = some reached ∧
      reached.way.map (·.1) = next.way.map (·.1) := by
  have sameAddress : later.address = place.address := congrArg List.reverse same
  rw [Place.step_eq_some_iff] at stepped
  obtain ⟨entries, found⟩ : ∃ entries, place.found = some (directory entries) := by
    cases stepped <;> exact ⟨_, rfl⟩
  have stands : tree.seen? place.address = some none :=
    seen?_eq_directory_iff.mpr ⟨entries, by rw [← within.found, found]⟩
  obtain ⟨others, laterFound⟩ := seen?_eq_directory_iff.mp (keeps _ stands)
  rw [← sameAddress, ← laterWithin.found] at laterFound
  obtain ⟨laterWay, _⟩ := later
  obtain rfl := laterFound
  simp only [Place.step_eq_some_iff]
  cases stepped with
  | stay filler => exact ⟨_, .stay filler, same⟩
  | top =>
      obtain rfl := List.map_eq_nil_iff.mp same
      exact ⟨_, .top, rfl⟩
  | up =>
      obtain ⟨entry, laterWay, rfl, -, rest⟩ := List.map_eq_cons_iff.mp same
      exact ⟨_, .up, rest⟩
  | down proper notUp => exact ⟨_, .down proper notUp, congrArg (segment :: ·) same⟩

theorem walk_of_directories {segments : List Text}
    (keeps : ∀ address, tree.seen? address = some none → after.seen? address = some none)
    (walked : tree.walk segments = some next) :
    ∃ reached, after.walk segments = some reached ∧ reached.address = next.address := by
  suffices steps : ∀ place later : Place, place.Within tree → later.Within after →
      later.way.map (·.1) = place.way.map (·.1) → segments.foldlM Place.step place = some next →
      ∃ reached, segments.foldlM Place.step later = some reached ∧
        reached.way.map (·.1) = next.way.map (·.1) by
    obtain ⟨reached, found, same⟩ := steps _ _ .root .root rfl walked
    exact ⟨reached, found, congrArg List.reverse same⟩
  clear walked
  induction segments with
  | nil =>
      intro place later within laterWithin same walked
      obtain rfl := Option.some.inj walked
      exact ⟨later, rfl, same⟩
  | cons segment rest inductionHypothesis =>
      intro place later within laterWithin same walked
      rw [List.foldlM_cons] at walked
      obtain ⟨middle, stepped, others⟩ := Option.bind_eq_some_iff.mp walked
      obtain ⟨reached, found, sameNext⟩ :=
        step_of_directories keeps within laterWithin same stepped
      rw [List.foldlM_cons, found]
      exact inductionHypothesis _ _ (within.step stepped) (laterWithin.step found) sameNext others

variable {path : Path}

theorem exists_place?_of_directories
    (keeps : ∀ address, tree.seen? address = some none → after.seen? address = some none)
    (reached : tree.place? path = some place) :
    ∃ later, after.place? path = some later ∧ later.found = after.at? place.address := by
  obtain ⟨nameable, walked⟩ := place?_eq_some_iff.mp reached
  obtain ⟨later, laterWalked, same⟩ := walk_of_directories keeps walked
  refine ⟨later, place?_eq_some_iff.mpr ⟨nameable, laterWalked⟩, ?_⟩
  rw [(within_of_walk laterWalked).found, same]

/-- Where a file stands on a path and another one takes its place, that one is found on the path. -/
theorem find?_file_of_directories {other : FileContent} (absolute : path.isAbsolute = true)
    (keeps : ∀ address, tree.seen? address = some none → after.seen? address = some none)
    (holds : after.content? path.address = some other)
    (found : tree.find? path = some (file content)) : after.find? path = some (file other) := by
  obtain ⟨place, reached, stands⟩ := Option.bind_eq_some_iff.mp found
  obtain ⟨later, laterReached, laterFound⟩ := exists_place?_of_directories keeps reached
  rw [find?, laterReached, Option.bind_some, laterFound,
    address_of_walk absolute (walk_of_place? reached)]
  exact content?_eq_some_iff.mp holds

/-- A file that stays is still found on the same path. -/
theorem find?_file_of_keeps (absolute : path.isAbsolute = true)
    (keeps : ∀ address, tree.seen? address = some none → after.seen? address = some none)
    (stays : after.content? path.address = tree.content? path.address)
    (found : tree.find? path = some (file content)) : after.find? path = some (file content) := by
  refine find?_file_of_directories absolute keeps ?_ found
  rw [stays, content?_eq_some_iff]
  exact at?_of_find? absolute found

theorem find?_of_read? {text : Text} (read : tree.read? path = some text) :
    tree.find? path = some (file (.text text)) := by
  rw [read?] at read
  split at read
  case h_1 found =>
    obtain rfl := Option.some.inj read
    exact found
  case h_2 => cases read

theorem read?_of_find? {text : Text} (found : tree.find? path = some (file (.text text))) :
    tree.read? path = some text := by
  rw [read?, found]

/-- A file that is found by a canonical path is read with what it holds. -/
theorem read?_normalize {text : Text} (absolute : path.isAbsolute = true)
    (isFile : tree.isFile path.normalize = true)
    (held : tree.content? path.address = some (.text text)) :
    tree.read? path.normalize = some text := by
  obtain ⟨content, found⟩ := isFile_iff.mp isFile
  have stands := at?_of_find? ((Path.isAbsolute_normalize path).trans absolute) found
  rw [Path.address_normalize, content?_eq_some_iff.mp held] at stands
  obtain rfl := file.inj (Option.some.inj stands)
  exact read?_of_find? found

/-- What is written is read again on the same path. -/
theorem read?_of_write? {text : Text} (absolute : path.isAbsolute = true)
    (written : tree.write? path (.text text) = some after) : after.read? path = some text := by
  have stands := (writes_of_write? absolute written).files path.address
  rw [if_pos rfl, content?_eq_some_iff] at stands
  obtain ⟨middle, place, -, reached, notDirectory, rfl⟩ := write?_cases written
  have walked := walk_of_place? reached
  have writes := writes_put (within_of_walk walked) notDirectory (.text text)
  obtain ⟨later, laterReached, laterFound⟩ := exists_place?_of_directories writes.directories reached
  rw [← address_of_walk absolute walked] at stands
  apply read?_of_find?
  rw [find?, laterReached, Option.bind_some, laterFound, stands]

/-- What is written is read as well on each path that leads there and led to a file before. -/
theorem read?_of_write?_alike {other : Path} {text old : Text} (absolute : path.isAbsolute = true)
    (otherRoot : other.isAbsolute = true) (same : other.address = path.address)
    (read : tree.read? other = some old)
    (written : tree.write? path (.text text) = some after) : after.read? other = some text := by
  have writes := writes_of_write? absolute written
  have holds : after.content? other.address = some (.text text) := by
    rw [writes.files, if_pos same]
  apply read?_of_find?
  apply find?_file_of_directories otherRoot writes.directories holds (find?_of_read? read)

end Walk

section Name

variable {place next : Place} {path : Path}

theorem Place.Within.isDirectory_of_up (within : place.Within tree)
    (stepped : place.step ['.', '.'] = some next) : next.isDirectory = true := by
  cases Place.step_eq_some_iff.mp stepped with
  | stay | top => rfl
  | up => exact within.parent
  | down _ notUp => exact absurd rfl notUp

theorem Place.isDirectory_of_filler {segment : Text} (filler : Path.isFiller segment = true)
    (stepped : place.step segment = some next) : next.isDirectory = true := by
  cases Place.step_eq_some_iff.mp stepped with
  | stay | top => rfl
  | up => exact absurd filler (by decide)
  | down proper =>
      rw [filler] at proper
      cases proper

/-- Any last part of a path but a name leads to a directory. -/
theorem isName_of_walk (walked : tree.walk path.segments = some place)
    (notDirectory : place.isDirectory ≠ true) :
    ∃ front name, path.segments = front ++ [name] ∧ Path.IsName name := by
  have some : path.segments ≠ [] := Text.splitOn_ne_nil '/' path.text
  have whole := (List.dropLast_append_getLast some).symm
  have apart : '/' ∉ path.segments.getLast some :=
    Text.separator_notMem (List.getLast_mem some)
  rw [walk, whole, List.foldlM_append] at walked
  obtain ⟨before, front, last⟩ := Option.bind_eq_some_iff.mp walked
  rw [List.foldlM_cons] at last
  obtain ⟨_, stepped, done⟩ := Option.bind_eq_some_iff.mp last
  obtain rfl := Option.some.inj done
  refine ⟨_, _, whole, Bool.eq_false_iff.mpr ?_, ?_, apart⟩
  · exact fun filler => notDirectory (Place.isDirectory_of_filler filler stepped)
  · intro up
    rw [up] at stepped
    exact notDirectory ((within_of_walk front).isDirectory_of_up stepped)

theorem isName_of_write? (written : tree.write? path content = some after) :
    ∃ front name, path.segments = front ++ [name] ∧ Path.IsName name := by
  obtain ⟨middle, place, -, reached, notDirectory, -⟩ := write?_cases written
  exact isName_of_walk (walk_of_place? reached) (Bool.eq_false_iff.mp notDirectory)

theorem isName_of_find? (found : tree.find? path = some (file content)) :
    ∃ front name, path.segments = front ++ [name] ∧ Path.IsName name := by
  obtain ⟨place, reached, stands⟩ := Option.bind_eq_some_iff.mp found
  refine isName_of_walk (walk_of_place? reached) ?_
  rw [Place.isDirectory, stands]
  exact Bool.false_ne_true

end Name

section Below

variable {root : Address} {path : Path}

/-- Whether a place lies in a directory, at any depth. -/
def Below (root address : Address) : Prop :=
  ∃ name names, address = root ++ name :: names

/-- A tree that differs from another one only in a directory, where it has all directories of the
other one as well. -/
structure ChangesBelow (root : Address) (before after : FileTree) : Prop where
  files : ∀ address, ¬ Below root address → after.content? address = before.content? address
  directories : ∀ address, before.seen? address = some none → after.seen? address = some none

theorem ChangesBelow.refl (root : Address) (tree : FileTree) : ChangesBelow root tree tree :=
  ⟨fun _ _ => rfl, fun _ stands => stands⟩

theorem ChangesBelow.trans {before middle after : FileTree} (first : ChangesBelow root before middle)
    (second : ChangesBelow root middle after) : ChangesBelow root before after :=
  ⟨fun address outside => (second.files address outside).trans (first.files address outside),
    fun address stands => second.directories address (first.directories address stands)⟩

theorem Writes.changesBelow {before : FileTree} (writes : before.Writes address content after)
    (below : Below root address) : ChangesBelow root before after := by
  refine ⟨fun other outside => ?_, writes.directories⟩
  rw [writes.files, if_neg]
  rintro rfl
  exact outside below

/-- Files outside are still found, and read as before. -/
theorem ChangesBelow.find? {before : FileTree} (changes : ChangesBelow root before after)
    (absolute : path.isAbsolute = true) (outside : ¬ Below root path.address)
    (found : before.find? path = some (file content)) : after.find? path = some (file content) :=
  find?_file_of_keeps absolute changes.directories (changes.files _ outside) found

theorem isDirectory_iff_content? : tree.isDirectory = true ↔ tree.content? [] = none := by
  cases tree <;> simp [FileTree.isDirectory, content?, at?]

theorem ChangesBelow.isDirectory_iff {before : FileTree} (changes : ChangesBelow root before after) :
    after.isDirectory = true ↔ before.isDirectory = true := by
  have top : ¬ Below root [] := by
    rintro ⟨name, names, whole⟩
    exact List.cons_ne_nil name names (List.append_eq_nil_iff.mp whole.symm).2
  rw [isDirectory_iff_content?, isDirectory_iff_content?, changes.files [] top]

/-- The same files stand outside before and after. -/
theorem ChangesBelow.isFile_normalize_iff {before : FileTree}
    (changes : ChangesBelow root before after) (absolute : path.isAbsolute = true)
    (outside : ¬ Below root path.address) :
    after.isFile path.normalize = true ↔ before.isFile path.normalize = true := by
  have fromRoot : path.normalize.isAbsolute = true := (Path.isAbsolute_normalize path).trans absolute
  constructor
  · intro isFile
    have directory := isDirectory_of_isFile fromRoot isFile
    rw [FileTree.isFile_normalize_iff absolute directory, changes.files _ outside] at isFile
    exact (FileTree.isFile_normalize_iff absolute (changes.isDirectory_iff.mp directory)).mpr isFile
  · intro isFile
    have directory := isDirectory_of_isFile fromRoot isFile
    rw [FileTree.isFile_normalize_iff absolute directory, ← changes.files _ outside] at isFile
    exact (FileTree.isFile_normalize_iff absolute (changes.isDirectory_iff.mpr directory)).mpr isFile

end Below

end ComponentStyles.FileTree
