import ComponentStyles.Path
import ComponentStyles.Proofs.Text.Split

/-!
# Rows of components

What a path names is a row: a root or a dot can only come first, and everything behind is a step up
or a name. Every such row is named by a path, which leads back to the very same row, so that paths
can be reasoned about as rows.
-/

namespace ComponentStyles.Path

/-- A text that names a component on its own. -/
def IsName (text : Text) : Prop :=
  isFiller text = false ∧ text ≠ ['.', '.'] ∧ '/' ∉ text

instance decidableIsName (text : Text) : Decidable (IsName text) :=
  inferInstanceAs (Decidable (_ ∧ _ ∧ _))

/-- A component that can follow others. -/
def Component.IsStep : Component → Prop
  | up => True
  | name text => IsName text
  | _ => False

/-- Steps among which none leads up are names. -/
theorem exists_names_of_steps {steps : List Component} (areSteps : ∀ c ∈ steps, c.IsStep)
    (down : .up ∉ steps) : ∃ names : List Text, steps = names.map .name := by
  refine ⟨steps.map Component.text, ?_⟩
  rw [List.map_map]
  refine ((List.map_congr_left fun c listed => ?_).trans (List.map_id _)).symm
  have isStep := areSteps c listed
  cases c with
  | root | here => cases isStep
  | up => exact absurd listed down
  | name => rfl

/-- A row that a path can name. -/
def IsRow : List Component → Prop
  | [] => True
  | first :: rest => (first = .root ∨ first = .here ∨ first.IsStep) ∧ ∀ c ∈ rest, c.IsStep

theorem isRow_of_steps {row : List Component} (steps : ∀ c ∈ row, c.IsStep) : IsRow row := by
  cases row with
  | nil => trivial
  | cons first rest =>
      exact ⟨.inr (.inr (steps first List.mem_cons_self)),
        fun c listed => steps c (List.mem_cons_of_mem _ listed)⟩

theorem isRow_dropLast {row : List Component} (isRow : IsRow row) : IsRow row.dropLast := by
  cases row with
  | nil => trivial
  | cons first rest =>
      cases rest with
      | nil => trivial
      | cons second others =>
          refine ⟨isRow.1, fun c listed => isRow.2 c ?_⟩
          exact List.dropLast_subset _ listed

/-- The components that a path names, but for a root or a dot in front. -/
def named (path : Path) : List Component :=
  (path.segments.filter fun s => !isFiller s).map Component.ofSegment

theorem isFiller_iff {segment : Text} : isFiller segment = true ↔ segment = [] ∨ segment = ['.'] := by
  simp [isFiller]

theorem Component.isStep_ofSegment {segment : Text} (proper : isFiller segment = false)
    (apart : '/' ∉ segment) : (ofSegment segment).IsStep := by
  rw [ofSegment]
  split
  · trivial
  · exact ⟨proper, ‹_›, apart⟩

theorem isStep_of_mem_named {path : Path} {c : Component} (listed : c ∈ path.named) :
    c.IsStep := by
  obtain ⟨segment, kept, rfl⟩ := List.mem_map.mp listed
  obtain ⟨split, proper⟩ := List.mem_filter.mp kept
  exact Component.isStep_ofSegment (by simpa using proper) (Text.separator_notMem split)

theorem components_of_isAbsolute {path : Path} (absolute : path.isAbsolute = true) :
    path.components = .root :: path.named := by
  rw [components, if_pos absolute]
  rfl

theorem components_of_relative {path : Path} (relative : path.isAbsolute = false) :
    path.components = path.named ∨ path.components = .here :: path.named := by
  rw [components, if_neg (by simp [relative])]
  split
  · exact .inr rfl
  · exact .inl rfl

theorem isRow_components (path : Path) : IsRow path.components := by
  cases absolute : path.isAbsolute with
  | true =>
      rw [components_of_isAbsolute absolute]
      exact ⟨.inl rfl, fun c => isStep_of_mem_named⟩
  | false =>
      rcases components_of_relative absolute with same | same
      · rw [same]
        exact isRow_of_steps fun c => isStep_of_mem_named
      · rw [same]
        exact ⟨.inr (.inl rfl), fun c => isStep_of_mem_named⟩

/-- Whether a component can follow others. -/
def Component.follows (c : Component) : Bool :=
  c != root && c != here

theorem filter_follows {steps : List Component} (areSteps : ∀ c ∈ steps, c.IsStep) :
    steps.filter Component.follows = steps := by
  refine List.filter_eq_self.mpr fun c listed => ?_
  have isStep := areSteps c listed
  cases c with
  | root | here => cases isStep
  | up | name => rfl

theorem named_eq_filter (path : Path) : path.named = path.components.filter Component.follows := by
  have kept : path.named.filter Component.follows = path.named :=
    filter_follows fun c => isStep_of_mem_named
  cases absolute : path.isAbsolute with
  | true => rw [components_of_isAbsolute absolute, List.filter_cons_of_neg (by decide), kept]
  | false =>
      rcases components_of_relative absolute with same | same
      · rw [same, kept]
      · rw [same, List.filter_cons_of_neg (by decide), kept]

theorem isAbsolute_iff_head? {path : Path} :
    path.isAbsolute = true ↔ path.components.head? = some .root := by
  cases absolute : path.isAbsolute with
  | true => simp [components_of_isAbsolute absolute]
  | false =>
      have steps : ∀ c ∈ path.named, c ≠ .root := by
        rintro c listed rfl
        exact isStep_of_mem_named listed
      rcases components_of_relative absolute with same | same
      · rw [same]
        cases named : path.named with
        | nil => simp
        | cons c rest => simpa using steps c (named ▸ List.mem_cons_self)
      · simp [same]

theorem isAbsolute_of_steps {path : Path} (steps : ∀ c ∈ path.components, c.IsStep) :
    path.isAbsolute = false := by
  rw [Bool.eq_false_iff, ne_eq, isAbsolute_iff_head?]
  intro rooted
  exact steps .root (List.mem_of_mem_head? rooted)

/-- A path whose first part is not empty starts with it. -/
theorem isAbsolute_of_head?_segments {path : Path} {segment : Text}
    (first : path.segments.head? = some segment) (proper : segment ≠ []) :
    path.isAbsolute = false := by
  obtain ⟨text⟩ := path
  cases text with
  | nil => rfl
  | cons c rest =>
      by_cases slash : c = '/'
      · simp [segments, Text.splitOn, slash] at first
        exact absurd first proper
      · simp [isAbsolute, slash]

theorem isAbsolute_of_segments {path : Path} {rest : List Text}
    (split : path.segments = [] :: rest) (more : rest ≠ []) : path.isAbsolute = true := by
  obtain ⟨text⟩ := path
  cases text with
  | nil => exact absurd (List.cons.inj split).2.symm more
  | cons c others =>
      by_cases slash : c = '/'
      · rw [slash]
        rfl
      · simp [segments, Text.splitOn, slash] at split

section Written

variable {steps : List Component}

theorem Component.text_isStep {c : Component} (isStep : c.IsStep) :
    isFiller c.text = false ∧ '/' ∉ c.text ∧ ofSegment c.text = c := by
  cases c with
  | root | here => cases isStep
  | up => decide
  | name text => exact ⟨isStep.1, isStep.2.2, if_neg isStep.2.1⟩

theorem ofSegments_texts (areSteps : ∀ c ∈ steps, c.IsStep) :
    ((steps.map Component.text).filter fun s => !isFiller s).map Component.ofSegment = steps := by
  have proper : ∀ text ∈ steps.map Component.text, (!isFiller text) = true := by
    intro text listed
    obtain ⟨c, member, rfl⟩ := List.mem_map.mp listed
    simp [(Component.text_isStep (areSteps c member)).1]
  rw [List.filter_eq_self.mpr proper, List.map_map]
  refine (List.map_congr_left fun c member => ?_).trans (List.map_id _)
  exact (Component.text_isStep (areSteps c member)).2.2

theorem segments_join {parts : List Text} (some : parts ≠ []) (apart : ∀ part ∈ parts, '/' ∉ part) :
    segments ⟨Text.join ['/'] parts⟩ = parts :=
  Text.splitOn_join some apart

theorem slash_notMem_texts (areSteps : ∀ c ∈ steps, c.IsStep) :
    ∀ part ∈ steps.map Component.text, '/' ∉ part := by
  intro part listed
  obtain ⟨c, member, rfl⟩ := List.mem_map.mp listed
  exact (Component.text_isStep (areSteps c member)).2.1

theorem components_ofComponents_steps (areSteps : ∀ c ∈ steps, c.IsStep) :
    (ofComponents steps).components = steps := by
  cases steps with
  | nil => rfl
  | cons first rest =>
      have firstStep := areSteps first List.mem_cons_self
      obtain ⟨proper, apart, same⟩ := Component.text_isStep firstStep
      have written : ofComponents (first :: rest) =
          ⟨Text.join ['/'] ((first :: rest).map Component.text)⟩ := by
        cases first with
        | root => cases firstStep
        | here | up | name => rfl
      have split : (ofComponents (first :: rest)).segments = (first :: rest).map Component.text := by
        rw [written]
        exact segments_join (by simp) (slash_notMem_texts areSteps)
      have head : (ofComponents (first :: rest)).segments.head? = some first.text := by
        rw [split]
        rfl
      have relative : (ofComponents (first :: rest)).isAbsolute = false := by
        refine isAbsolute_of_head?_segments head ?_
        intro empty
        simp [empty, isFiller] at proper
      rw [components, if_neg (by simp [relative]), head, if_neg ?_, split,
        ofSegments_texts areSteps]
      intro dot
      simp [Option.some.inj dot, isFiller] at proper

/-- The row that a written row is read as is the row itself. -/
theorem components_ofComponents {row : List Component} (isRow : IsRow row) :
    (ofComponents row).components = row := by
  cases row with
  | nil => rfl
  | cons first rest =>
      obtain ⟨front, areSteps⟩ := isRow
      have read := ofSegments_texts areSteps
      have apart := slash_notMem_texts areSteps
      rcases front with rfl | rfl | firstStep
      · have absolute : (ofComponents (.root :: rest)).isAbsolute = true := rfl
        rw [components_of_isAbsolute absolute, named, segments, ofComponents, Text.splitOn,
          if_pos rfl]
        cases rest with
        | nil => rfl
        | cons second others =>
            rw [Text.splitOn_join (by simp) apart, List.filter_cons_of_neg (by decide), read]
      · have split : (ofComponents (.here :: rest)).segments = ['.'] :: rest.map Component.text := by
          refine segments_join (by simp) ?_
          intro part listed
          rcases List.mem_cons.mp listed with rfl | later
          · decide
          · exact apart part later
        have head : (ofComponents (.here :: rest)).segments.head? = some ['.'] := by rw [split]; rfl
        have relative := isAbsolute_of_head?_segments head (by simp)
        rw [components, if_neg (by simp [relative]), head, if_pos rfl, split,
          List.filter_cons_of_neg (by decide), read]
      · refine components_ofComponents_steps fun c listed => ?_
        rcases List.mem_cons.mp listed with rfl | later
        · exact firstStep
        · exact areSteps c later

end Written

end ComponentStyles.Path
