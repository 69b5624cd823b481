import ComponentStyles.Proofs.Path.Row
import Mathlib.Data.List.Induction

/-!
# Walking along a path

A row of components is an instruction to walk: the components passed so far, the last one first,
are the place that has been reached. The canonical row of a path leads from everywhere to the place
that the path itself leads to, so that joining, normalizing and relating paths can all be told by
the places that they lead to.
-/

namespace ComponentStyles.Path

/-- The place that a row of components leads to from another place. -/
def walk (place row : List Component) : List Component :=
  row.foldl Component.push place

theorem walk_append (place row others : List Component) :
    walk place (row ++ others) = walk (walk place row) others :=
  List.foldl_append

/-- To walk to a place that a row leads to is to walk along the row. -/
theorem walk_walk_reverse (place start row : List Component) :
    walk place (walk start row).reverse = walk (walk place start.reverse) row := by
  induction row using List.reverseRecOn with
  | nil => rfl
  | append_singleton front c inductionHypothesis =>
      have onward : ∀ reached, walk place (c :: reached).reverse =
          c.push (walk place reached.reverse) := by
        intro reached
        rw [List.reverse_cons, walk_append]
        rfl
      rw [walk_append, walk_append, ← inductionHypothesis]
      change walk place (c.push (walk start front)).reverse = c.push (walk place _)
      cases c with
      | here => rfl
      | root | name => exact onward _
      | up =>
          -- A name or the root behind undoes the step on both sides.
          cases reached : walk start front with
          | nil => exact onward _
          | cons last rest =>
              have before : walk place (last :: rest).reverse =
                  last.push (walk place rest.reverse) := by
                rw [List.reverse_cons, walk_append]
                rfl
              cases last with
              | here | up => exact onward _
              | root | name =>
                  rw [before]
                  first | rfl | exact before

theorem canonical_eq (path : Path) : path.canonical = (walk [] path.components).reverse := rfl

/-- The canonical row leads where the path leads. -/
theorem walk_canonical (place : List Component) (path : Path) :
    walk place path.canonical = walk place path.components :=
  walk_walk_reverse place [] path.components

theorem Component.mem_push {place : List Component} {c passed : Component}
    (listed : passed ∈ c.push place) : passed ∈ place ∨ passed = c ∧ passed ≠ .here := by
  have onTop (other : c ≠ .here) : passed ∈ c :: place → passed ∈ place ∨ passed = c ∧
      passed ≠ .here := by
    intro listed
    rcases List.mem_cons.mp listed with rfl | earlier
    · exact .inr ⟨rfl, other⟩
    · exact .inl earlier
  cases c with
  | here => exact .inl listed
  | root | name => exact onTop (by simp) listed
  | up =>
      cases place with
      | nil => exact onTop (by simp) listed
      | cons last rest =>
          cases last with
          | here | up => exact onTop (by simp) listed
          | root => exact .inl listed
          | name => exact .inl (List.mem_cons_of_mem _ listed)

theorem mem_walk {place row : List Component} {passed : Component}
    (listed : passed ∈ walk place row) : passed ∈ place ∨ passed ∈ row ∧ passed ≠ .here := by
  induction row generalizing place with
  | nil => exact .inl listed
  | cons c rest inductionHypothesis =>
      rcases inductionHypothesis listed with before | ⟨later, other⟩
      · rcases Component.mem_push before with earlier | ⟨rfl, other⟩
        · exact .inl earlier
        · exact .inr ⟨List.mem_cons_self, other⟩
      · exact .inr ⟨List.mem_cons_of_mem _ later, other⟩

/-- From the root, every way leads to a row of names below it. -/
theorem exists_names_walk (names : List Text) {steps : List Component}
    (areSteps : ∀ c ∈ steps, c.IsStep) (areNames : ∀ name ∈ names, IsName name) :
    ∃ reached : List Text, (∀ name ∈ reached, IsName name) ∧
      reached.length ≤ names.length + steps.length ∧
      walk (names.map .name ++ [.root]) steps = reached.map .name ++ [.root] := by
  induction steps generalizing names with
  | nil => exact ⟨names, areNames, Nat.le_refl _, rfl⟩
  | cons c rest inductionHypothesis =>
      have later : ∀ c ∈ rest, c.IsStep := fun c listed => areSteps c (List.mem_cons_of_mem _ listed)
      have isStep := areSteps c List.mem_cons_self
      cases c with
      | root | here => cases isStep
      | up =>
          obtain ⟨reached, proper, short, leads⟩ := inductionHypothesis names.tail later
            fun name listed => areNames name (List.mem_of_mem_tail listed)
          refine ⟨reached, proper, ?_, ?_⟩
          · grind
          · rw [← leads]
            cases names <;> rfl
      | name text =>
          obtain ⟨reached, proper, short, leads⟩ := inductionHypothesis (text :: names)
            later (by simpa using ⟨isStep, areNames⟩)
          refine ⟨reached, proper, ?_, leads⟩
          grind

/-- From nowhere, every way leads to a row of steps up and then of names. -/
theorem exists_ups_walk (names : List Text) (ups : Nat) {steps : List Component}
    (areSteps : ∀ c ∈ steps, c.IsStep) : ∃ (reached : List Text) (above : Nat),
      walk (names.map .name ++ List.replicate ups .up) steps =
        reached.map .name ++ List.replicate above .up := by
  induction steps generalizing names ups with
  | nil => exact ⟨names, ups, rfl⟩
  | cons c rest inductionHypothesis =>
      have later : ∀ c ∈ rest, c.IsStep := fun c listed => areSteps c (List.mem_cons_of_mem _ listed)
      have isStep := areSteps c List.mem_cons_self
      cases c with
      | root | here => cases isStep
      | name text => exact inductionHypothesis (text :: names) ups later
      | up =>
          cases names with
          | cons name others => exact inductionHypothesis others ups later
          | nil =>
              obtain ⟨reached, above, leads⟩ := inductionHypothesis [] (ups + 1) later
              refine ⟨reached, above, ?_⟩
              rw [← leads]
              cases ups <;> rfl

section Canonical

variable {path : Path}

theorem isStep_of_mem_canonical (relative : path.isAbsolute = false) {c : Component}
    (listed : c ∈ path.canonical) : c.IsStep := by
  rw [canonical_eq, List.mem_reverse] at listed
  rcases mem_walk listed with start | ⟨passed, other⟩
  · cases start
  · rcases components_of_relative relative with same | same
    · exact isStep_of_mem_named (same ▸ passed)
    · rw [same] at passed
      rcases List.mem_cons.mp passed with rfl | behind
      · exact absurd rfl other
      · exact isStep_of_mem_named behind

/-- The canonical row of a relative path steps up first and then goes along names. -/
theorem canonical_of_relative (relative : path.isAbsolute = false) :
    ∃ (above : Nat) (names : List Text),
      path.canonical = List.replicate above .up ++ names.map .name := by
  have areSteps : ∀ c ∈ path.named, c.IsStep := fun c => isStep_of_mem_named
  obtain ⟨reached, above, leads⟩ := exists_ups_walk [] 0 areSteps
  have place : walk [] path.components = reached.map .name ++ List.replicate above .up := by
    rw [← leads]
    rcases components_of_relative relative with same | same
    · rw [same]
      rfl
    · rw [same]
      rfl
  refine ⟨above, reached.reverse, ?_⟩
  rw [canonical_eq, place, List.reverse_append, List.reverse_replicate, List.map_reverse]

/-- A relative path that does not start with a step up in its canonical form has none in it. -/
theorem exists_names_of_relative (relative : path.isAbsolute = false)
    (inside : path.canonical.head? ≠ some .up) :
    ∃ names : List Text, path.canonical = names.map .name := by
  obtain ⟨above, names, row⟩ := canonical_of_relative relative
  cases above with
  | zero => exact ⟨names, row⟩
  | succ => exact absurd (by rw [row]; rfl) inside

/-- The place that an absolute path leads to lies below the root. -/
theorem exists_names_of_isAbsolute (absolute : path.isAbsolute = true) :
    ∃ names : List Text, (∀ name ∈ names, IsName name) ∧
      walk [] path.components = names.map .name ++ [.root] := by
  rw [components_of_isAbsolute absolute]
  have areSteps : ∀ c ∈ path.named, c.IsStep := fun c => isStep_of_mem_named
  obtain ⟨reached, proper, -, leads⟩ := exists_names_walk [] areSteps (by simp)
  exact ⟨reached, proper, leads⟩

theorem canonical_of_isAbsolute (absolute : path.isAbsolute = true) :
    ∃ names : List Text, (∀ name ∈ names, IsName name) ∧
      path.canonical = .root :: names.map .name := by
  obtain ⟨names, proper, leads⟩ := exists_names_of_isAbsolute absolute
  refine ⟨names.reverse, fun name listed => proper name (List.mem_reverse.mp listed), ?_⟩
  rw [canonical_eq, leads, List.reverse_append, ← List.map_reverse]
  rfl

theorem isRow_canonical (path : Path) : IsRow path.canonical := by
  cases absolute : path.isAbsolute with
  | true =>
      obtain ⟨names, proper, canonical⟩ := canonical_of_isAbsolute absolute
      rw [canonical]
      refine ⟨.inl rfl, fun c listed => ?_⟩
      obtain ⟨name, member, rfl⟩ := List.mem_map.mp listed
      exact proper name member
  | false => exact isRow_of_steps fun c => isStep_of_mem_canonical absolute

theorem components_normalize (path : Path) : path.normalize.components = path.canonical :=
  components_ofComponents (isRow_canonical path)

theorem isAbsolute_normalize_of_relative (relative : path.isAbsolute = false) :
    path.normalize.isAbsolute = false := by
  refine isAbsolute_of_steps fun c listed => isStep_of_mem_canonical relative ?_
  rwa [← components_normalize]

theorem walk_normalize (place : List Component) (path : Path) :
    walk place path.normalize.components = walk place path.components := by
  rw [components_normalize, walk_canonical]

/-- Two paths have the same normal form when they lead to the same place. -/
theorem normalize_eq_iff {a b : Path} :
    a.normalize = b.normalize ↔ walk [] a.components = walk [] b.components := by
  constructor
  · intro same
    rw [← walk_normalize, same, walk_normalize]
  · intro same
    rw [normalize, normalize, canonical_eq, canonical_eq, same]

end Canonical

section Join

variable {path : Path}

/-- Where a path starts to walk from a place. -/
def origin (path : Path) (place : List Component) : List Component :=
  if path.isAbsolute then .root :: place else place

theorem walk_components (place : List Component) (path : Path) :
    walk place path.components = walk (path.origin place) path.named := by
  rw [origin]
  cases absolute : path.isAbsolute with
  | true =>
      rw [components_of_isAbsolute absolute]
      rfl
  | false =>
      rcases components_of_relative absolute with same | same
      · rw [same]
        rfl
      · rw [same]
        rfl

theorem named_join (directory : Path) (relative : path.isAbsolute = false) :
    (directory.join path).named = directory.named ++ path.named := by
  obtain ⟨front⟩ := directory
  rw [join, relative, Bool.false_or]
  by_cases empty : front.isEmpty
  · rw [if_pos empty, List.isEmpty_iff.mp empty]
    rfl
  · rw [if_neg empty]
    by_cases ends : front.getLast? = some '/'
    · obtain ⟨before, rfl⟩ := List.getLast?_eq_some_iff.mp ends
      rw [if_pos ends]
      simp [named, segments, Text.splitOn_append_cons, isFiller, Text.splitOn]
    · rw [if_neg ends]
      simp [named, segments, Text.splitOn_append_cons]

theorem isAbsolute_join (directory : Path) (relative : path.isAbsolute = false) :
    (directory.join path).isAbsolute = directory.isAbsolute := by
  obtain ⟨front⟩ := directory
  rw [join, relative, Bool.false_or]
  cases front with
  | nil => exact relative
  | cons c rest =>
      rw [if_neg (by simp)]
      split <;> simp [isAbsolute]

/-- A joined path leads where its second part leads from the end of the first. -/
theorem walk_join (place : List Component) (directory : Path) (relative : path.isAbsolute = false) :
    walk place (directory.join path).components =
      walk (walk place directory.components) path.components := by
  rw [walk_components, walk_components, walk_components, named_join directory relative,
    walk_append, origin, isAbsolute_join directory relative, origin, origin, relative]
  rfl

/-- What stands between the text of a directory and that of a path in it. -/
def gap (directory : Text) : Text :=
  if directory.isEmpty || directory.getLast? = some '/' then [] else ['/']

theorem join_eq_gap (directory : Path) (relative : path.isAbsolute = false) :
    directory.join path = ⟨directory.text ++ (gap directory.text ++ path.text)⟩ := by
  rw [join, relative, Bool.false_or, gap]
  cases empty : directory.text.isEmpty with
  | true => simp [List.isEmpty_iff.mp empty]
  | false =>
      by_cases ends : directory.text.getLast? = some '/'
      · simp [ends]
      · simp [ends]

theorem gap_append_gap (front rest : Text) : gap (front ++ (gap front ++ rest)) = gap rest := by
  cases rest with
  | nil =>
      rw [List.append_nil]
      by_cases closed : (front.isEmpty || front.getLast? = some '/') = true
      · rw [gap.eq_def front, if_pos closed, List.append_nil, gap, if_pos closed]
        rfl
      · rw [gap.eq_def front, if_neg closed, gap]
        simp [gap]
  | cons c others => simp [gap, ← List.append_assoc, List.getLast?_append]

/-- A joined path ends as its second part does. -/
theorem getLast?_segments_join (directory : Path) (relative : path.isAbsolute = false) :
    (directory.join path).segments.getLast? = path.segments.getLast? := by
  obtain ⟨front⟩ := directory
  have ends := List.getLast?_eq_some_getLast (Text.splitOn_ne_nil '/' path.text)
  rw [join_eq_gap _ relative, gap]
  dsimp only
  split
  case isTrue closed =>
    rcases Bool.or_eq_true_iff.mp closed with empty | slash
    · rw [List.isEmpty_iff.mp empty]
      rfl
    · obtain ⟨before, rfl⟩ := List.getLast?_eq_some_iff.mp (of_decide_eq_true slash)
      rw [List.nil_append, List.append_assoc, segments, List.singleton_append,
        Text.splitOn_append_cons, List.getLast?_append, segments, ends]
      rfl
  case isFalse =>
    rw [List.singleton_append, segments, Text.splitOn_append_cons, List.getLast?_append, segments,
      ends]
    rfl

theorem join_assoc (front : Path) {middle last : Path} (relative : middle.isAbsolute = false)
    (lastRelative : last.isAbsolute = false) :
    front.join (middle.join last) = (front.join middle).join last := by
  have joined := (isAbsolute_join middle lastRelative).trans relative
  rw [join_eq_gap front joined, join_eq_gap middle lastRelative, join_eq_gap _ lastRelative,
    join_eq_gap front relative]
  dsimp only
  rw [gap_append_gap]
  simp only [List.append_assoc]

theorem join_of_isAbsolute (directory : Path) (absolute : path.isAbsolute = true) :
    directory.join path = path := by
  rw [join, absolute, Bool.true_or, if_pos rfl]

theorem join_empty (path : Path) : join ⟨[]⟩ path = path := by
  rw [join]
  simp

end Join

section Parent

variable {path : Path}

theorem components_parent (path : Path) : path.parent.components = path.components.dropLast := by
  have isRow := isRow_components path
  rw [parent, parent?]
  cases listed : path.components.reverse with
  | nil =>
      rw [List.reverse_eq_nil_iff.mp listed]
      rfl
  | cons last front =>
      have components : path.components = front.reverse ++ [last] := by
        rw [← List.reverse_reverse path.components, listed, List.reverse_cons]
      have dropped : path.components.dropLast = front.reverse := by
        rw [components, List.dropLast_concat]
      have written := components_ofComponents (isRow_dropLast isRow)
      rw [dropped] at written
      cases last with
      | here | up | name => rw [dropped]; exact written
      | root =>
          -- A root is only found in front, so nothing stands before it.
          cases before : front.reverse with
          | nil =>
              rw [dropped, before]
              rfl
          | cons first others =>
              rw [components, before] at isRow
              exact (isRow.2 .root (by simp)).elim

variable {front : List Component} {last : Component}

theorem components_eq_append (path : Path) : ∃ start,
    path.components = start ++ path.named ∧ start.filter Component.follows = [] := by
  cases absolute : path.isAbsolute with
  | true => exact ⟨[.root], components_of_isAbsolute absolute, rfl⟩
  | false =>
      rcases components_of_relative absolute with same | same
      · exact ⟨[], same, rfl⟩
      · exact ⟨[.here], same, rfl⟩

/-- The directory of a path has all its names but the last. -/
theorem named_parent (ends : path.named = front ++ [last]) : path.parent.named = front := by
  have areSteps : ∀ c ∈ front, c.IsStep := by
    intro c listed
    have inPath : c ∈ path.named := by
      rw [ends]
      exact List.mem_append_left _ listed
    exact isStep_of_mem_named inPath
  obtain ⟨start, components, unnamed⟩ := components_eq_append path
  rw [named_eq_filter, components_parent, components, ends, ← List.append_assoc,
    List.dropLast_concat, List.filter_append, unnamed, filter_follows areSteps, List.nil_append]

theorem isAbsolute_parent (ends : path.named = front ++ [last]) :
    path.parent.isAbsolute = path.isAbsolute := by
  have sameHead : path.parent.components.head? = some .root ↔
      path.components.head? = some .root := by
    rw [components_parent]
    obtain ⟨start, components, -⟩ := components_eq_append path
    rw [components, ends, ← List.append_assoc, List.dropLast_concat]
    have step : last.IsStep := isStep_of_mem_named (by simp [ends] : last ∈ path.named)
    cases start ++ front with
    | nil =>
        have other : last ≠ .root := by
          rintro rfl
          exact step
        simp [other]
    | cons first rest => simp
  rw [← isAbsolute_iff_head?, ← isAbsolute_iff_head?] at sameHead
  exact Bool.eq_iff_iff.mpr sameHead

/-- From the directory of a path it is one step less. -/
theorem walk_parent (place : List Component) (ends : path.named = front ++ [last]) :
    walk place path.parent.components = walk (path.origin place) front := by
  rw [walk_components, origin, isAbsolute_parent ends, named_parent ends, origin]

theorem named_join_append (directory : Path) (relative : path.isAbsolute = false)
    (ends : path.named = front ++ [last]) :
    (directory.join path).named = (directory.named ++ front) ++ [last] := by
  rw [named_join directory relative, ends, List.append_assoc]

theorem isAbsolute_parent_join (directory : Path) (relative : path.isAbsolute = false)
    (ends : path.named = front ++ [last]) :
    (directory.join path).parent.isAbsolute = directory.isAbsolute := by
  rw [isAbsolute_parent (named_join_append directory relative ends),
    isAbsolute_join directory relative]

/-- The directory of a file below another directory. -/
theorem walk_parent_join (place : List Component) (directory : Path)
    (relative : path.isAbsolute = false) (ends : path.named = front ++ [last]) :
    walk place (directory.join path).parent.components =
      walk (walk place directory.components) path.parent.components := by
  have joined := named_join_append directory relative ends
  rw [walk_parent place joined, walk_parent _ ends, walk_append, walk_components place directory,
    origin, isAbsolute_join directory relative, origin, origin, relative]
  rfl

end Parent

section Relative

variable {source target : List Component}

theorem exists_common (source target : List Component) : ∃ common,
    source = common ++ (dropCommon source target).1 ∧
      target = common ++ (dropCommon source target).2 := by
  fun_induction dropCommon source target with
  | case1 as a bs inductionHypothesis =>
      obtain ⟨common, first, second⟩ := inductionHypothesis
      exact ⟨a :: common, congrArg (a :: ·) first, congrArg (a :: ·) second⟩
  | case2 | case3 => exact ⟨[], rfl, rfl⟩

/-- The row that leads back from one place and forth to another one. -/
def lead (source target : List Component) : List Component :=
  List.replicate (dropCommon source target).1.length .up ++ (dropCommon source target).2

theorem walk_names (place : List Component) (names : List Text) :
    walk place (names.map .name) = names.reverse.map .name ++ place := by
  induction names generalizing place with
  | nil => rfl
  | cons name rest inductionHypothesis =>
      rw [List.map_cons, List.reverse_cons, List.map_append, List.append_assoc]
      exact inductionHypothesis _

theorem walk_replicate_up (place : List Component) (names : List Text) :
    walk (names.map .name ++ place) (List.replicate names.length .up) = place := by
  induction names with
  | nil => rfl
  | cons name rest inductionHypothesis => exact inductionHypothesis

theorem exists_names_back (names : List Text) (row : List Component) :
    ∃ back : List Text, (dropCommon (names.map .name) row).1 = back.map .name := by
  obtain ⟨common, split, -⟩ := exists_common (names.map .name) row
  obtain ⟨-, back, -, -, backNames⟩ := List.map_eq_append_iff.mp split
  exact ⟨back, backNames.symm⟩

/-- Where only names have to be undone, the lead is right. -/
theorem walk_lead {names : List Text} (place : List Component)
    (back : (dropCommon source target).1 = names.map .name) :
    walk (walk place source) (lead source target) = walk place target := by
  obtain ⟨common, first, second⟩ := exists_common source target
  have undone : walk (walk place source) (List.replicate names.length .up) = walk place common := by
    rw [first, back, walk_append, walk_names, ← List.length_reverse, walk_replicate_up]
  rw [lead, back, walk_append, List.length_map, undone, ← walk_append, ← second]

section Below

variable {names folders : List Text}

/-- To undo more steps than the place has over the root is to end at the root. -/
theorem walk_replicate_up_root (names : List Text) (count : Nat) :
    walk (names.map .name ++ [.root]) (List.replicate count .up) =
      (names.drop count).map .name ++ [.root] := by
  induction count generalizing names with
  | zero => rfl
  | succ count inductionHypothesis =>
      cases names with
      | nil => exact (inductionHypothesis []).trans (by simp)
      | cons name rest => exact inductionHypothesis rest

theorem dropCommon_up (row : List Component) :
    dropCommon (.up :: row) (folders.map .name) = (.up :: row, folders.map .name) := by
  cases folders <;> rfl

/-- Where a step out of the place has to be undone, the lead is wrong, as it does not know the name
to go back into. Only at the root there is none. -/
theorem walk_lead_up_iff {row : List Component} (areSteps : ∀ c ∈ row, c.IsStep)
    (areNames : ∀ name ∈ names, IsName name) :
    walk (walk (names.map .name ++ [.root]) (.up :: row)) (lead (.up :: row) (folders.map .name)) =
      walk (names.map .name ++ [.root]) (folders.map .name) ↔ names = [] := by
  have out : walk (names.map .name ++ [.root]) (.up :: row) =
      walk (names.tail.map .name ++ [.root]) row := by
    cases names <;> rfl
  obtain ⟨reached, -, short, leads⟩ := exists_names_walk names.tail areSteps
    fun name listed => areNames name (List.mem_of_mem_tail listed)
  have few : (reached.drop (row.length + 1)).length ≤ names.length - 2 := by
    rw [List.length_tail] at short
    rw [List.length_drop]
    omega
  rw [out, leads, lead, dropCommon_up, walk_append, List.length_cons, walk_replicate_up_root,
    walk_names, walk_names, List.append_cancel_left_eq, List.append_cancel_right_eq]
  constructor
  · intro same
    have lengths := congrArg List.length same
    rw [List.length_map, List.length_map] at lengths
    refine List.eq_nil_of_length_eq_zero ?_
    omega
  · rintro rfl
    rw [List.eq_nil_of_length_eq_zero (Nat.le_zero.mp few)]

end Below

variable {s t : Path}

/-- Two absolute paths have the root in common, so that only names lead from one to the other. -/
theorem exists_names_dropCommon (first : s.isAbsolute = true) (second : t.isAbsolute = true) :
    ∃ back forth : List Text, (∀ name ∈ forth, IsName name) ∧
      dropCommon s.canonical t.canonical = (back.map .name, forth.map .name) := by
  obtain ⟨fromNames, -, fromCanonical⟩ := canonical_of_isAbsolute first
  obtain ⟨toNames, proper, toCanonical⟩ := canonical_of_isAbsolute second
  obtain ⟨back, backNames⟩ := exists_names_back fromNames (toNames.map .name)
  obtain ⟨common, -, split⟩ := exists_common (fromNames.map .name) (toNames.map .name)
  obtain ⟨before, forth, rfl, -, forthNames⟩ := List.map_eq_append_iff.mp split
  refine ⟨back, forth, fun name listed => proper name (List.mem_append_right _ listed), ?_⟩
  rw [fromCanonical, toCanonical, dropCommon, if_pos rfl, ← backNames, forthNames]

theorem isStep_of_mem_lead (same : s.isAbsolute = t.isAbsolute) {c : Component}
    (listed : c ∈ lead s.canonical t.canonical) : c.IsStep := by
  rcases List.mem_append.mp listed with back | forth
  · rw [List.eq_of_mem_replicate back]
    trivial
  · cases absolute : t.isAbsolute with
    | true =>
        obtain ⟨back, names, proper, split⟩ := exists_names_dropCommon (same.trans absolute) absolute
        rw [split] at forth
        obtain ⟨name, member, rfl⟩ := List.mem_map.mp forth
        exact proper name member
    | false =>
        obtain ⟨common, -, whole⟩ := exists_common s.canonical t.canonical
        refine isStep_of_mem_canonical absolute ?_
        rw [whole]
        exact List.mem_append_right _ forth

theorem components_relative (same : s.isAbsolute = t.isAbsolute) :
    (s.relative t).components = lead s.canonical t.canonical := by
  have written : s.relative t = ofComponents (lead s.canonical t.canonical) := by
    rw [relative, same, if_neg (by simp)]
    rfl
  rw [written]
  exact components_ofComponents (isRow_of_steps fun c listed => isStep_of_mem_lead same listed)

theorem isAbsolute_relative (same : s.isAbsolute = t.isAbsolute) :
    (s.relative t).isAbsolute = false := by
  refine isAbsolute_of_steps fun c listed => isStep_of_mem_lead same ?_
  rwa [← components_relative same]

/-- The relative path leads from the one directory to the other, if only names are to be undone. -/
theorem walk_relative (names : List Text) (place : List Component)
    (same : s.isAbsolute = t.isAbsolute)
    (back : (dropCommon s.canonical t.canonical).1 = names.map .name) :
    walk (walk place s.components) (s.relative t).components = walk place t.components := by
  rw [components_relative same, ← walk_canonical place s, walk_lead place back, walk_canonical]

theorem walk_relative_of_isAbsolute (place : List Component) (first : s.isAbsolute = true)
    (second : t.isAbsolute = true) :
    walk (walk place s.components) (s.relative t).components = walk place t.components := by
  obtain ⟨back, forth, -, split⟩ := exists_names_dropCommon first second
  exact walk_relative back place (first.trans second.symm) (by rw [split])

end Relative

end ComponentStyles.Path
