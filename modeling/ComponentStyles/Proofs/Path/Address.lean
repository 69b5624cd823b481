import ComponentStyles.Proofs.Path.Walk

/-!
# Addresses

An absolute path has an address: the names on the way from the root that its canonical row tells.
Paths of one address lead to the same place. What is left of a path behind a directory leads from
there on, and between canonical paths it is the row of names behind the address of the directory.
-/

namespace ComponentStyles.Path

def Component.name? : Component → Option Text
  | .name text => some text
  | _ => none

/-- The names that an absolute path leads along from the root. -/
def address (path : Path) : List Text :=
  path.canonical.filterMap Component.name?

theorem filterMap_names (names : List Text) :
    (names.map Component.name).filterMap Component.name? = names := by
  rw [List.filterMap_map]
  exact List.filterMap_some

section Address

variable {path other : Path} {names : List Text}

theorem address_of_canonical (row : path.canonical = .root :: names.map .name) :
    path.address = names := by
  rw [address, row]
  exact filterMap_names names

theorem canonical_eq_address (absolute : path.isAbsolute = true) :
    path.canonical = .root :: path.address.map .name := by
  obtain ⟨names, -, row⟩ := canonical_of_isAbsolute absolute
  rw [address_of_canonical row, row]

theorem isName_of_mem_address (absolute : path.isAbsolute = true) {name : Text}
    (listed : name ∈ path.address) : IsName name := by
  obtain ⟨names, proper, row⟩ := canonical_of_isAbsolute absolute
  rw [address_of_canonical row] at listed
  exact proper name listed

theorem walk_eq_address (absolute : path.isAbsolute = true) :
    walk [] path.components = path.address.reverse.map .name ++ [.root] := by
  have row := canonical_eq_address absolute
  rw [canonical_eq] at row
  rw [← List.reverse_reverse (walk [] path.components), row, List.reverse_cons, List.map_reverse]

theorem canonical_normalize (path : Path) : path.normalize.canonical = path.canonical := by
  rw [canonical_eq, components_normalize, walk_canonical, ← canonical_eq]

theorem normalize_normalize (path : Path) : path.normalize.normalize = path.normalize := by
  rw [normalize, canonical_normalize, normalize]

@[simp] theorem address_normalize (path : Path) : path.normalize.address = path.address := by
  rw [address, canonical_normalize, address]

theorem isAbsolute_normalize (path : Path) : path.normalize.isAbsolute = path.isAbsolute := by
  cases absolute : path.isAbsolute with
  | false => exact isAbsolute_normalize_of_relative absolute
  | true =>
      rw [isAbsolute_iff_head?, components_normalize, canonical_eq_address absolute]
      rfl

theorem normalize_eq_iff_address (absolute : path.isAbsolute = true)
    (otherAbsolute : other.isAbsolute = true) :
    path.normalize = other.normalize ↔ path.address = other.address := by
  constructor
  · intro same
    rw [← address_normalize, same, address_normalize]
  · intro same
    rw [normalize, normalize, canonical_eq_address absolute, canonical_eq_address otherAbsolute,
      same]

/-- From a directory, a path that only goes down leads to what it names below. -/
theorem address_join (directory : Path) (absolute : directory.isAbsolute = true)
    (relative : path.isAbsolute = false) (row : path.canonical = names.map .name) :
    (directory.join path).address = directory.address ++ names := by
  refine address_of_canonical ?_
  rw [canonical_eq, walk_join [] directory relative, ← walk_canonical _ path, row, walk_names,
    walk_eq_address absolute]
  simp

end Address

section Segments

/-- The components that some parts of a path name. -/
def namedOf (segments : List Text) : List Component :=
  (segments.filter fun s => !isFiller s).map Component.ofSegment

theorem namedOf_cons_filler {segment : Text} (filler : isFiller segment = true) (rest : List Text) :
    namedOf (segment :: rest) = namedOf rest := by
  rw [namedOf, List.filter_cons_of_neg (by simp [filler])]
  rfl

theorem namedOf_cons_proper {segment : Text} (proper : isFiller segment = false) (rest : List Text) :
    namedOf (segment :: rest) = Component.ofSegment segment :: namedOf rest := by
  rw [namedOf, List.filter_cons_of_pos (by simp [proper])]
  rfl

theorem namedOf_dropWhile (segments : List Text) :
    namedOf (segments.dropWhile isFiller) = namedOf segments := by
  induction segments with
  | nil => rfl
  | cons segment rest inductionHypothesis =>
      cases filler : isFiller segment with
      | true => rw [List.dropWhile_cons_of_pos filler, inductionHypothesis, namedOf_cons_filler filler]
      | false => rw [List.dropWhile_cons_of_neg (by simp [filler])]

theorem namedOf_reverse (segments : List Text) :
    namedOf segments.reverse = (namedOf segments).reverse := by
  rw [namedOf, List.filter_reverse, List.map_reverse]
  rfl

theorem namedOf_trimEnd (segments : List Text) : namedOf (trimEnd segments) = namedOf segments := by
  rw [trimEnd, namedOf_reverse, namedOf_dropWhile, namedOf_reverse, List.reverse_reverse]

theorem namedOf_dropSegments (count : Nat) (segments : List Text) :
    namedOf (dropSegments count segments) = (namedOf segments).drop count := by
  fun_induction dropSegments count segments with
  | case1 => rfl
  | case2 => simp [namedOf]
  | case3 count segment rest filler inductionHypothesis =>
      rw [inductionHypothesis, namedOf_cons_filler filler]
  | case4 count segment rest proper inductionHypothesis =>
      rw [inductionHypothesis, namedOf_cons_proper (by simpa using proper), List.drop_succ_cons]

theorem named_join_segments {parts : List Text} (apart : ∀ part ∈ parts, '/' ∉ part) :
    named ⟨Text.join ['/'] parts⟩ = namedOf parts := by
  cases parts with
  | nil => rfl
  | cons first rest =>
      rw [named, segments_join (List.cons_ne_nil first rest) apart]
      rfl

end Segments

section Below

variable {path directory rest : Path}

theorem dropSegments_subset (count : Nat) (segments : List Text) :
    dropSegments count segments ⊆ segments := by
  fun_induction dropSegments count segments with
  | case1 | case2 => simp
  | case3 _ segment rest _ inductionHypothesis | case4 _ segment rest _ inductionHypothesis =>
      exact fun part listed => List.mem_cons_of_mem _ (inductionHypothesis listed)

theorem head?_of_head?_trimEnd {segments : List Text} {segment : Text}
    (first : (trimEnd segments).head? = some segment) : segments.head? = some segment := by
  have isPrefix : trimEnd segments <+: segments := by
    rw [← List.reverse_suffix, trimEnd, List.reverse_reverse]
    exact List.dropWhile_suffix _
  obtain ⟨rest, whole⟩ := isPrefix
  rw [← whole, List.head?_append, first]
  rfl

/-- Parts without the ones in front that name nothing make a relative path. -/
theorem isAbsolute_join_of_trimmed {segments : List Text}
    (apart : ∀ part ∈ segments, '/' ∉ part) :
    Path.isAbsolute ⟨Text.join ['/'] (trimEnd (segments.dropWhile isFiller))⟩ = false := by
  cases split : trimEnd (segments.dropWhile isFiller) with
  | nil => rfl
  | cons first rest =>
      have apart : ∀ part ∈ first :: rest, '/' ∉ part := by
        intro part listed
        rw [← split, trimEnd, List.mem_reverse] at listed
        have inFront := List.mem_reverse.mp ((List.dropWhile_sublist isFiller).subset listed)
        exact apart part ((List.dropWhile_sublist isFiller).subset inFront)
      have parts := segments_join (List.cons_ne_nil first rest) apart
      have first? : Path.segments ⟨Text.join ['/'] (first :: rest)⟩ = first :: rest := parts
      refine isAbsolute_of_head?_segments (congrArg List.head? first?) ?_
      rintro rfl
      have head : (segments.dropWhile isFiller).head? = some [] := by
        refine head?_of_head?_trimEnd ?_
        rw [split]
        rfl
      have kept := List.head?_dropWhile_not isFiller segments
      rw [head] at kept
      exact absurd kept (by decide)

/-- What lies behind a directory is given by a relative path. -/
theorem isAbsolute_of_below? (found : path.below? directory = some rest) :
    rest.isAbsolute = false := by
  rw [below?] at found
  split at found
  case isFalse => cases found
  case isTrue =>
    obtain rfl := Option.some.inj found
    refine isAbsolute_join_of_trimmed fun part listed => ?_
    have whole : part ∈ path.segments := dropSegments_subset _ path.segments listed
    exact Text.separator_notMem whole

/-- What lies behind a directory leads on from there. -/
theorem named_of_below? (found : path.below? directory = some rest) :
    path.named = directory.named ++ rest.named := by
  rw [below?] at found
  split at found
  case isFalse => cases found
  case isTrue starts =>
    obtain rfl := Option.some.inj found
    have split : directory.named <+: path.named := by
      rw [named_eq_filter, named_eq_filter]
      exact (List.isPrefixOf_iff_prefix.mp starts).filter _
    obtain ⟨others, whole⟩ := split
    have count : directory.components.filter (fun c => c != .root && c != .here) =
        directory.named := (named_eq_filter directory).symm
    rw [count, named_join_segments, namedOf_trimEnd, namedOf_dropWhile, namedOf_dropSegments]
    · change path.named = directory.named ++ path.named.drop directory.named.length
      rw [← whole, List.drop_left]
    · intro part listed
      rw [trimEnd, List.mem_reverse] at listed
      have kept := List.mem_reverse.mp ((List.dropWhile_sublist isFiller).subset listed)
      have later := (List.dropWhile_sublist isFiller).subset kept
      exact Text.separator_notMem (dropSegments_subset _ path.segments later)

end Below

section Names

variable {names : List Text} {path directory rest : Path}

/-- The path that leads along some names. -/
def ofNames (names : List Text) : Path :=
  ⟨Text.join ['/'] names⟩

theorem ofComponents_names (names : List Text) :
    ofComponents (names.map .name) = ofNames names := by
  have texts : (names.map Component.name).map Component.text = names := by
    rw [List.map_map]
    exact List.map_id names
  cases names with
  | nil => rfl
  | cons first others => exact congrArg (fun parts : List Text => Path.mk (Text.join ['/'] parts)) texts

theorem isStep_of_mem_names (proper : ∀ name ∈ names, IsName name) :
    ∀ c ∈ names.map Component.name, c.IsStep := by
  intro c listed
  obtain ⟨name, member, rfl⟩ := List.mem_map.mp listed
  exact proper name member

theorem components_ofNames (proper : ∀ name ∈ names, IsName name) :
    (ofNames names).components = names.map .name := by
  rw [← ofComponents_names]
  exact components_ofComponents_steps (isStep_of_mem_names proper)

theorem isAbsolute_ofNames (proper : ∀ name ∈ names, IsName name) :
    (ofNames names).isAbsolute = false := by
  refine isAbsolute_of_steps ?_
  rw [components_ofNames proper]
  exact isStep_of_mem_names proper

theorem named_ofNames (proper : ∀ name ∈ names, IsName name) :
    (ofNames names).named = names.map .name := by
  rw [named_eq_filter, components_ofNames proper]
  exact filter_follows (isStep_of_mem_names proper)

theorem canonical_ofNames (proper : ∀ name ∈ names, IsName name) :
    (ofNames names).canonical = names.map .name := by
  rw [canonical_eq, components_ofNames proper, walk_names, List.append_nil, ← List.map_reverse,
    List.reverse_reverse]

theorem address_join_ofNames (absolute : directory.isAbsolute = true)
    (proper : ∀ name ∈ names, IsName name) :
    (directory.join (ofNames names)).address = directory.address ++ names :=
  address_join directory absolute (isAbsolute_ofNames proper) (canonical_ofNames proper)

/-- A path that ends in a name is not that of a directory with nothing behind. -/
theorem ne_nil_of_segments_join {front : List Text} {name : Text}
    (segments : (directory.join (ofNames names)).segments = front ++ [name])
    (isName : IsName name) : names ≠ [] := by
  rintro rfl
  have ends := getLast?_segments_join directory (rfl : (ofNames []).isAbsolute = false)
  rw [segments, List.getLast?_concat] at ends
  obtain rfl := Option.some.inj ends
  cases isName.1

/-- A path that is spelled as names only. -/
def IsPlain (path : Path) : Prop :=
  ∃ names : List Text, (∀ name ∈ names, IsName name) ∧ path = ofNames names

theorem IsPlain.isAbsolute_parent (plain : path.IsPlain) : path.parent.isAbsolute = false := by
  obtain ⟨names, proper, rfl⟩ := plain
  rcases List.eq_nil_or_concat names with rfl | ⟨front, last, rfl⟩
  · rfl
  · rw [List.concat_eq_append] at proper ⊢
    have ends := named_ofNames proper
    rw [List.map_append] at ends
    rw [Path.isAbsolute_parent ends, isAbsolute_ofNames proper]

/-- A relative path in its shortest form is plain unless it steps up. -/
theorem isPlain_normalize (relative : path.isAbsolute = false)
    (inside : path.canonical.head? ≠ some .up) : path.normalize.IsPlain := by
  obtain ⟨names, row⟩ := exists_names_of_relative relative inside
  refine ⟨names, fun name listed => ?_, by rw [normalize, row, ofComponents_names]⟩
  have inRow : .name name ∈ path.canonical := row ▸ List.mem_map_of_mem listed
  exact isStep_of_mem_canonical relative inRow

/-- Plain paths are told apart by the places that they lead to from a directory. -/
theorem IsPlain.eq_of_address (plain : path.IsPlain) (restPlain : rest.IsPlain)
    (absolute : directory.isAbsolute = true)
    (same : (directory.join path).address = (directory.join rest).address) : path = rest := by
  obtain ⟨names, proper, rfl⟩ := plain
  obtain ⟨others, othersProper, rfl⟩ := restPlain
  rw [address_join_ofNames absolute proper, address_join_ofNames absolute othersProper] at same
  rw [List.append_cancel_left same]

theorem ofNames_injective {others : List Text} (proper : ∀ name ∈ names, IsName name)
    (othersProper : ∀ name ∈ others, IsName name) (same : ofNames names = ofNames others) :
    names = others := by
  have rows := congrArg canonical same
  rw [canonical_ofNames proper, canonical_ofNames othersProper] at rows
  have injective : Function.Injective Component.name := fun _ _ => Component.name.inj
  exact List.map_injective_iff.mpr injective rows

/-! ### What is left behind a directory -/

theorem dropWhile_isFiller_names (proper : ∀ name ∈ names, IsName name) :
    names.dropWhile isFiller = names := by
  cases names with
  | nil => rfl
  | cons first others =>
      have isName := proper first List.mem_cons_self
      exact List.dropWhile_cons_of_neg (by simp [isName.1])

theorem trimEnd_names (proper : ∀ name ∈ names, IsName name) : trimEnd names = names := by
  rw [trimEnd, dropWhile_isFiller_names, List.reverse_reverse]
  intro name listed
  exact proper name (List.mem_reverse.mp listed)

theorem dropSegments_names (proper : ∀ name ∈ names, IsName name) (count : Nat) :
    dropSegments count names = names.drop count := by
  induction names generalizing count with
  | nil => cases count <;> rfl
  | cons first others inductionHypothesis =>
      cases count with
      | zero => rfl
      | succ count =>
          have isName := proper first List.mem_cons_self
          rw [dropSegments, if_neg (by simp [isName.1]), List.drop_succ_cons]
          exact inductionHypothesis (fun name later => proper name (List.mem_cons_of_mem _ later)) _

theorem dropWhile_dropSegments_names (proper : ∀ name ∈ names, IsName name) (count : Nat) :
    (dropSegments count ([] :: names)).dropWhile isFiller = names.drop count := by
  cases count with
  | zero =>
      rw [dropSegments, List.dropWhile_cons_of_pos rfl, dropWhile_isFiller_names proper]
      rfl
  | succ count =>
      have filler : isFiller [] = true := rfl
      rw [dropSegments, if_pos filler, dropSegments_names proper, dropWhile_isFiller_names]
      intro name listed
      exact proper name (List.mem_of_mem_drop listed)

theorem segments_ofNames (some : names ≠ []) (proper : ∀ name ∈ names, IsName name) :
    (ofNames names).segments = names :=
  segments_join some fun name listed => (proper name listed).2.2

theorem normalize_eq_of_isAbsolute (absolute : path.isAbsolute = true) :
    path.normalize = ⟨'/' :: Text.join ['/'] path.address⟩ := by
  rw [normalize, canonical_eq_address absolute, ofComponents, List.map_map]
  change Path.mk ('/' :: Text.join ['/'] (path.address.map id)) = _
  rw [List.map_id]

theorem segments_normalize (absolute : path.isAbsolute = true) :
    path.normalize.segments = [] :: (ofNames path.address).segments := by
  rw [normalize_eq_of_isAbsolute absolute, segments, Text.splitOn, if_pos rfl]
  rfl

/-- Behind any number of names, a canonical path has the rest of its names. -/
theorem dropWhile_dropSegments_normalize (absolute : path.isAbsolute = true) (count : Nat) :
    (dropSegments count path.normalize.segments).dropWhile isFiller = path.address.drop count := by
  have proper : ∀ name ∈ path.address, IsName name := fun _ => isName_of_mem_address absolute
  rw [segments_normalize absolute]
  by_cases root : path.address = []
  · -- The root is written as one slash, behind which the empty text is left.
    rw [root]
    cases count <;> rfl
  · rw [segments_ofNames root proper, dropWhile_dropSegments_names proper]

theorem isPrefixOf_canonical (absolute : path.isAbsolute = true)
    (fromRoot : directory.isAbsolute = true) :
    directory.canonical.isPrefixOf path.canonical = true ↔ directory.address <+: path.address := by
  have injective : Function.Injective Component.name := fun _ _ => Component.name.inj
  rw [List.isPrefixOf_iff_prefix, canonical_eq_address absolute, canonical_eq_address fromRoot,
    List.prefix_cons_inj, List.prefix_map_iff_of_injective injective]

/-- Seen from a directory above it, a canonical path is the row of the names behind. -/
theorem below?_normalize_eq_some_iff (absolute : path.isAbsolute = true)
    (fromRoot : directory.isAbsolute = true) :
    path.normalize.below? directory.normalize = some rest ↔
      ∃ names, path.address = directory.address ++ names ∧ rest = ofNames names := by
  have count : (directory.canonical.filter fun c => c != .root && c != .here).length =
      directory.address.length := by
    rw [canonical_eq_address fromRoot, List.filter_cons_of_neg (by decide)]
    change ((directory.address.map Component.name).filter Component.follows).length = _
    rw [filter_follows (isStep_of_mem_names fun _ => isName_of_mem_address fromRoot),
      List.length_map]
  have proper : ∀ name ∈ path.address.drop directory.address.length, IsName name :=
    fun _ listed => isName_of_mem_address absolute (List.mem_of_mem_drop listed)
  rw [below?, components_normalize, components_normalize]
  dsimp only
  rw [count, dropWhile_dropSegments_normalize absolute, trimEnd_names proper]
  constructor
  · intro found
    split at found
    case isFalse => cases found
    case isTrue starts =>
      obtain ⟨names, whole⟩ := (isPrefixOf_canonical absolute fromRoot).mp starts
      rw [← whole, List.drop_left] at found
      exact ⟨names, whole.symm, (Option.some.inj found).symm⟩
  · rintro ⟨names, whole, rfl⟩
    have starts := (isPrefixOf_canonical absolute fromRoot).mpr ⟨names, whole.symm⟩
    rw [if_pos starts, whole, List.drop_left]
    rfl

/-! ### What lies below a directory -/

/-- Whether a path leads to a place in a directory, at any depth. -/
def LiesBelow (path directory : Path) : Prop :=
  ∃ c rest, path.canonical = directory.canonical ++ c :: rest

theorem liesBelow_iff_address (absolute : path.isAbsolute = true)
    (fromRoot : directory.isAbsolute = true) :
    path.LiesBelow directory ↔ ∃ name names, path.address = directory.address ++ name :: names := by
  rw [LiesBelow, canonical_eq_address absolute, canonical_eq_address fromRoot]
  constructor
  · rintro ⟨c, rest, whole⟩
    obtain ⟨front, others, split, first, later⟩ :=
      List.map_eq_append_iff.mp (List.cons.inj whole).2
    obtain ⟨name, names, rfl, -⟩ := List.map_eq_cons_iff.mp later
    have injective : Function.Injective Component.name := fun _ _ => Component.name.inj
    rw [List.map_injective_iff.mpr injective first] at split
    exact ⟨name, names, split⟩
  · rintro ⟨name, names, whole⟩
    refine ⟨.name name, names.map .name, ?_⟩
    rw [whole, List.map_append]
    rfl

/-- A path is told by what it names behind its start, if that is no step up. -/
theorem canonical_of_named (relative : path.isAbsolute = false)
    (named : path.named = names.map .name) : path.canonical = names.map .name := by
  rw [canonical_eq, walk_components, origin, relative, named, if_neg Bool.false_ne_true, walk_names,
    List.append_nil, ← List.map_reverse, List.reverse_reverse]

end Names

section Length

variable {path : Path} {c : Component} {place row : List Component} {parts others : List Text}

theorem reverse_push_sublist (place : List Component) (c : Component) :
    (c.push place).reverse.Sublist (place.reverse ++ [c]) := by
  have onTop : (c :: place).reverse.Sublist (place.reverse ++ [c]) := by
    rw [List.reverse_cons]
  have stays : place.reverse.Sublist (place.reverse ++ [c]) := List.sublist_append_left _ _
  cases c with
  | here => exact stays
  | root | name => exact onTop
  | up =>
      cases place with
      | nil => exact onTop
      | cons last rest =>
          cases last with
          | here | up => exact onTop
          | root => exact stays
          | name =>
              rw [List.reverse_cons]
              exact ((List.sublist_append_left _ _).trans (List.sublist_append_left _ _))

/-- What is passed on a way and not undone is left in its order. -/
theorem reverse_walk_sublist (place row : List Component) :
    (walk place row).reverse.Sublist (place.reverse ++ row) := by
  induction row generalizing place with
  | nil =>
      rw [List.append_nil]
      exact List.Sublist.refl _
  | cons c row inductionHypothesis =>
      have first := (reverse_push_sublist place c).append (List.Sublist.refl row)
      rw [List.append_assoc] at first
      exact (inductionHypothesis _).trans first

theorem filterMap_ofSegment_sublist (segments : List Text) :
    ((namedOf segments).filterMap Component.name?).Sublist segments := by
  induction segments with
  | nil => exact List.Sublist.refl _
  | cons segment rest inductionHypothesis =>
      cases filler : isFiller segment with
      | true =>
          rw [namedOf_cons_filler filler]
          exact inductionHypothesis.cons segment
      | false =>
          rw [namedOf_cons_proper filler, Component.ofSegment]
          split
          · exact inductionHypothesis.cons segment
          · exact inductionHypothesis.cons_cons segment

/-- The names on the way to a place are among the parts of a path to it. -/
theorem address_sublist_segments (absolute : path.isAbsolute = true) :
    path.address.Sublist path.segments := by
  have names : ([].reverse ++ path.components).filterMap Component.name? =
      (namedOf path.segments).filterMap Component.name? := by
    rw [components_of_isAbsolute absolute]
    rfl
  have kept := (reverse_walk_sublist [] path.components).filterMap Component.name?
  rw [names] at kept
  exact kept.trans (filterMap_ofSegment_sublist path.segments)

/-- The size of parts with a separator of one byte behind each of them. -/
def spread : List Text → Nat
  | [] => 0
  | part :: rest => Text.size part + 1 + spread rest

theorem size_join (some : parts ≠ []) : Text.size (Text.join ['/'] parts) + 1 = spread parts := by
  induction parts with
  | nil => exact absurd rfl some
  | cons first rest inductionHypothesis =>
      by_cases alone : rest = []
      · subst alone
        rw [Text.join, List.intercalate_singleton]
        rfl
      · have later := inductionHypothesis alone
        rw [Text.join, List.intercalate_cons_of_ne_nil alone, ← Text.join, Text.size_append,
          Text.size_append, spread, ← later]
        change _ + 1 + _ + 1 = _
        omega

theorem spread_le_of_sublist (sublist : parts.Sublist others) : spread parts ≤ spread others := by
  induction sublist with
  | slnil => exact Nat.le_refl _
  | cons part _ inductionHypothesis => exact Nat.le_trans inductionHypothesis (Nat.le_add_left _ _)
  | cons_cons part _ inductionHypothesis => exact Nat.add_le_add_left inductionHypothesis _

/-- The canonical path is no longer than any path to the same place. -/
theorem size_normalize_le (absolute : path.isAbsolute = true) :
    Text.size path.normalize.text ≤ Text.size path.text := by
  have shorter := address_sublist_segments absolute
  have proper : ∀ name ∈ path.address, IsName name := fun _ => isName_of_mem_address absolute
  rw [normalize_eq_of_isAbsolute absolute]
  obtain ⟨text⟩ := path
  obtain ⟨rest, rfl⟩ := List.head?_eq_some_iff.mp (of_decide_eq_true absolute)
  rw [segments, Text.splitOn, if_pos rfl] at shorter
  generalize Path.address ⟨'/' :: rest⟩ = names at *
  rw [Text.size_cons, Text.size_cons, Nat.add_le_add_iff_left]
  by_cases root : names = []
  · subst root
    exact Nat.zero_le _
  · have behind : names.Sublist (Text.splitOn '/' rest) := by
      rcases List.sublist_cons_iff.mp shorter with later | ⟨others, whole, -⟩
      · exact later
      · have first := (proper [] (whole ▸ List.mem_cons_self)).1
        cases first
    have sizes := spread_le_of_sublist behind
    rw [← size_join root, ← size_join (Text.splitOn_ne_nil '/' rest), Text.join_splitOn] at sizes
    exact Nat.le_of_succ_le_succ sizes

end Length

end ComponentStyles.Path
