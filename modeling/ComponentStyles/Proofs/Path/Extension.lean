import ComponentStyles.Proofs.Path.Address

/-!
# Giving a file another extension

The file with another extension stands in the same directory.
-/

namespace ComponentStyles.Path

/-- An extension that the name of a file can end in. -/
def IsExtension (ext : Text) : Prop :=
  ext ≠ [] ∧ '/' ∉ ext

section Renamed

variable {ext name : Text} {path : Path} {front : List Component}

theorem mem_of_mem_stem {c : Char} (listed : c ∈ stem name) : c ∈ name := by
  rw [stem] at listed
  split at listed
  · exact listed
  · have inTail := List.mem_of_mem_drop (List.mem_reverse.mp listed)
    exact List.mem_reverse.mp ((List.dropWhile_sublist _).subset inTail)

theorem isFiller_renamed (extension : IsExtension ext) : isFiller (renamed name ext) = false := by
  rw [renamed, Bool.eq_false_iff, ne_eq, isFiller_iff]
  split
  · decide
  · cases stem name with
    | nil => simpa using extension.1
    | cons c rest => simp

theorem slash_notMem_renamed (extension : IsExtension ext) (apart : '/' ∉ name) :
    '/' ∉ renamed name ext := by
  have inStem : '/' ∉ stem name := fun listed => apart (mem_of_mem_stem listed)
  rw [renamed]
  split
  · decide
  · simp [inStem, extension.2]

/-- The parts of a path up to the last one that names something. -/
theorem segments_of_named (ends : path.named = front ++ [.name name]) : ∃ before fillers,
    path.segments = before ++ name :: fillers ∧ trimEnd path.segments = before ++ [name] ∧
      (before.filter fun s => !isFiller s).map Component.ofSegment = front := by
  obtain ⟨kept, last, split, rfl, lastNamed⟩ := List.map_eq_append_iff.mp ends
  obtain ⟨segment, rfl, isName⟩ := List.map_eq_singleton_iff.mp lastNamed
  have same : segment = name := by
    rw [Component.ofSegment] at isName
    split at isName
    · cases isName
    · exact Component.name.inj isName
  subst same
  have reversed : path.segments.reverse.filter (fun s => !isFiller s) =
      segment :: kept.reverse := by
    rw [List.filter_reverse, split, List.reverse_append]
    rfl
  obtain ⟨fillers, others, whole, areFillers, proper, rest⟩ := List.filter_eq_cons_iff.mp reversed
  refine ⟨others.reverse, fillers.reverse, ?_, ?_, ?_⟩
  · rw [← List.reverse_reverse path.segments, whole]
    simp
  · rw [trimEnd, whole, List.dropWhile_append_of_pos (by simpa using areFillers),
      List.dropWhile_cons_of_neg (by simpa using proper), List.reverse_cons]
  · rw [List.filter_reverse, rest, List.reverse_reverse]

theorem fileName?_of_named (ends : path.named = front ++ [.name name]) :
    path.fileName? = some name := by
  have last : path.components.getLast? = some (.name name) := by
    cases absolute : path.isAbsolute with
    | true => rw [components_of_isAbsolute absolute, ends, ← List.cons_append, List.getLast?_concat]
    | false =>
        rcases components_of_relative absolute with same | same
        · rw [same, ends, List.getLast?_concat]
        · rw [same, ends, ← List.cons_append, List.getLast?_concat]
  rw [fileName?, last]

variable (extension : IsExtension ext) (ends : path.named = front ++ [.name name])
include extension ends

theorem segments_withExtension : ∃ before fillers,
    path.segments = before ++ name :: fillers ∧
      (path.withExtension ext).segments = before ++ [renamed name ext] ∧
      (before.filter fun s => !isFiller s).map Component.ofSegment = front := by
  obtain ⟨before, fillers, whole, trimmed, kept⟩ := segments_of_named ends
  have apart : ∀ part ∈ before ++ [name], '/' ∉ part := by
    intro part listed
    refine Text.separator_notMem (show part ∈ path.segments from ?_)
    rw [whole]
    grind
  refine ⟨before, fillers, whole, ?_, kept⟩
  rw [withExtension, fileName?_of_named ends, trimmed, List.dropLast_concat]
  refine segments_join (by simp) fun part listed => ?_
  rcases List.mem_append.mp listed with earlier | last
  · exact apart part (List.mem_append_left _ earlier)
  · rw [List.mem_singleton.mp last]
    exact slash_notMem_renamed extension (apart name (by simp))

theorem named_withExtension : ∃ last, (path.withExtension ext).named = front ++ [last] := by
  obtain ⟨before, fillers, -, segments, kept⟩ := segments_withExtension extension ends
  refine ⟨.ofSegment (renamed name ext), ?_⟩
  rw [named, segments, List.filter_append, List.map_append, kept,
    List.filter_cons_of_pos (by simp [isFiller_renamed extension])]
  rfl

theorem isAbsolute_withExtension (relative : path.isAbsolute = false) :
    (path.withExtension ext).isAbsolute = false := by
  obtain ⟨before, fillers, whole, segments, -⟩ := segments_withExtension extension ends
  cases before with
  | nil =>
      have head : (path.withExtension ext).segments.head? = some (renamed name ext) := by
        rw [segments]
        rfl
      refine isAbsolute_of_head?_segments head fun empty => ?_
      have proper : isFiller (renamed name ext) = false := isFiller_renamed extension
      rw [empty] at proper
      cases proper
  | cons first others =>
      have head : (path.withExtension ext).segments.head? = some first := by
        rw [segments]
        rfl
      refine isAbsolute_of_head?_segments head ?_
      rintro rfl
      have absolute := isAbsolute_of_segments whole (by simp)
      rw [relative] at absolute
      cases absolute

theorem isAbsolute_withExtension_of_isAbsolute (absolute : path.isAbsolute = true) :
    (path.withExtension ext).isAbsolute = true := by
  obtain ⟨before, fillers, whole, segments, -⟩ := segments_withExtension extension ends
  obtain ⟨text⟩ := path
  obtain ⟨rest, rfl⟩ := List.head?_eq_some_iff.mp (of_decide_eq_true absolute)
  rw [Path.segments, Text.splitOn, if_pos rfl] at whole
  cases before with
  | nil =>
      have proper := (isStep_of_mem_named (by simp [ends] : .name name ∈ Path.named ⟨'/' :: rest⟩)).1
      rw [← (List.cons.inj whole).1] at proper
      cases proper
  | cons first others =>
      rw [← (List.cons.inj whole).1] at segments
      exact isAbsolute_of_segments segments (by simp)

end Renamed

section Stem

variable {ext name front : Text}

/-- The name of an output that a file with the given name is compiled to. -/
def outputName (name ext : Text) : Text :=
  stem name ++ '.' :: ext

theorem stem_ne_nil (some : name ≠ []) : stem name ≠ [] := by
  rw [stem]
  split
  case isTrue => exact some
  case isFalse more => simpa using more

theorem stem_append (some : front ≠ []) (undotted : '.' ∉ ext) : stem (front ++ '.' :: ext) = front := by
  have passed : ∀ c ∈ ext.reverse, (c != '.') = true := by
    intro c listed
    have other : c ≠ '.' := by
      rintro rfl
      exact undotted (List.mem_reverse.mp listed)
    simpa using other
  have dropped : ((front ++ '.' :: ext).reverse.dropWhile (· != '.')) = '.' :: front.reverse := by
    rw [List.reverse_append, List.reverse_cons, List.append_assoc,
      List.dropWhile_append_of_pos passed]
    rfl
  rw [stem, dropped, List.drop_one, List.tail_cons, List.reverse_reverse, if_neg (by simpa using some)]

theorem renamed_eq_outputName (other : stem name ≠ ['.']) : renamed name ext = outputName name ext :=
  if_neg other

theorem isName_outputName (isName : IsName name) (extension : IsExtension ext) :
    IsName (outputName name ext) := by
  have some : stem name ≠ [] := by
    refine stem_ne_nil ?_
    rintro rfl
    cases isName.1
  have long : 2 < (outputName name ext).length := by
    have first := List.length_pos_of_ne_nil some
    have last := List.length_pos_of_ne_nil extension.1
    rw [outputName, List.length_append, List.length_cons]
    omega
  refine ⟨?_, ?_, ?_⟩
  · rw [Bool.eq_false_iff, ne_eq, isFiller_iff]
    rintro (empty | dot)
    · simp [empty] at long
    · simp [dot] at long
  · intro up
    simp [up] at long
  · have inStem : '/' ∉ stem name := fun listed => isName.2.2 (mem_of_mem_stem listed)
    simp [outputName, inStem, extension.2]

end Stem

section Address

variable {ext name : Text} {path : Path} {front : List Component}

theorem named_withExtension_outputName (extension : IsExtension ext)
    (ends : path.named = front ++ [.name name]) (other : stem name ≠ ['.']) :
    (path.withExtension ext).named = front ++ [.name (outputName name ext)] := by
  obtain ⟨before, fillers, -, segments, kept⟩ := segments_withExtension extension ends
  have isName : IsName name := isStep_of_mem_named (by simp [ends] : .name name ∈ path.named)
  have proper := isName_outputName isName extension
  rw [renamed_eq_outputName other] at segments
  rw [named, segments, List.filter_append, List.map_append, kept,
    List.filter_cons_of_pos (by simp [proper.1]), List.filter_nil, List.map_singleton,
    Component.ofSegment, if_neg proper.2.1]

/-- A path leads to its last name in the directory that the others lead to. -/
theorem address_of_named_concat (absolute : path.isAbsolute = true)
    (ends : path.named = front ++ [.name name]) :
    path.address = (walk [.root] front).reverse.filterMap Component.name? ++ [name] := by
  have whole : walk [] path.components = .name name :: walk [.root] front := by
    rw [components_of_isAbsolute absolute, ends]
    change walk [.root] (front ++ [.name name]) = _
    rw [walk_append]
    rfl
  rw [address, canonical_eq, whole, List.reverse_cons, List.filterMap_append]
  rfl

/-- A file with another extension stands beside the file. -/
theorem address_withExtension {folder : List Text} (extension : IsExtension ext)
    (absolute : path.isAbsolute = true) (stands : path.address = folder ++ [name])
    (ends : path.named = front ++ [.name name]) (other : stem name ≠ ['.']) :
    (path.withExtension ext).address = folder ++ [outputName name ext] := by
  have place := address_of_named_concat absolute ends
  have same := (List.append_inj' (stands.symm.trans place) rfl).1
  rw [address_of_named_concat (isAbsolute_withExtension_of_isAbsolute extension ends absolute)
    (named_withExtension_outputName extension ends other), same]

end Address

end ComponentStyles.Path
