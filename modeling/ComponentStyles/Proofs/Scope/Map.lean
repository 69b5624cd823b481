import ComponentStyles.Proofs.Scope.Renaming
import ComponentStyles.Proofs.Text.Order
import ComponentStyles.Scope.Map

/-!
# The selector map and the catalog

The selector map lists the names of a catalog with their scoped forms. It does not depend on the order
in which the catalog gives its names: the map in order is what comes of putting them in one after the
other, in whatever order. With the catalog and the renamed stylesheet it says the same thing three times.
-/

namespace ComponentStyles

namespace SelectorNames

/-- The names of each kind are in the order of their bytes. -/
def IsOrdered (names : SelectorNames) : Prop :=
  ∀ kind, (names.ofKind kind).Pairwise Text.Precedes

theorem ordered_insertName {name : Text} {names : List Text} (ordered : names.Pairwise Text.Precedes) :
    (insertName name names).Pairwise Text.Precedes := by
  induction names with
  | nil => exact List.pairwise_singleton _ _
  | cons first rest inductionHypothesis =>
      obtain ⟨before, orderedRest⟩ := List.pairwise_cons.mp ordered
      rw [insertName]
      split
      case isTrue => exact ordered
      case isFalse different =>
        split
        case isTrue le =>
          have behind := Text.precedes_of_le le different
          refine List.pairwise_cons.mpr ⟨fun other listed => ?_, ordered⟩
          rcases List.mem_cons.mp listed with rfl | later
          · exact behind
          · exact behind.trans (before other later)
        case isFalse notLe =>
          have behind : Text.Precedes first name :=
            Text.precedes_of_le ((Text.le_total name first).resolve_left notLe) (Ne.symm different)
          refine List.pairwise_cons.mpr ⟨fun other listed => ?_, inductionHypothesis orderedRest⟩
          rcases mem_insertName.mp listed with rfl | later
          · exact behind
          · exact before other later

theorem ordered_inOrder (names : List Text) : (inOrder names).Pairwise Text.Precedes := by
  induction names with
  | nil => exact List.Pairwise.nil
  | cons first rest inductionHypothesis => exact ordered_insertName inductionHypothesis

theorem isOrdered_ofStylesheet (sheet : Stylesheet) : (ofStylesheet sheet).IsOrdered := by
  intro kind
  cases kind <;> exact ordered_inOrder _

theorem nodup_of_ordered {names : List Text} (ordered : names.Pairwise Text.Precedes) :
    names.Nodup := by
  refine ordered.imp fun {name other} before same => ?_
  exact Text.not_precedes_self other (same ▸ before)

/-- The selectors of the names, ids first as their sign comes before that of classes. -/
def selectors (names : SelectorNames) : List Text :=
  names.ids.map (NameKind.ofId.sigil :: ·) ++ names.classes.map (NameKind.ofClass.sigil :: ·)

variable {names : SelectorNames}

theorem mem_selectors {selector : Text} : selector ∈ names.selectors ↔
    ∃ kind, ∃ name ∈ names.ofKind kind, selector = kind.sigil :: name := by
  rw [selectors, List.mem_append, List.mem_map, List.mem_map]
  constructor
  · rintro (⟨name, listed, rfl⟩ | ⟨name, listed, rfl⟩)
    · exact ⟨.ofId, name, listed, rfl⟩
    · exact ⟨.ofClass, name, listed, rfl⟩
  · rintro ⟨kind, name, listed, rfl⟩
    cases kind with
    | ofId => exact .inl ⟨name, listed, rfl⟩
    | ofClass => exact .inr ⟨name, listed, rfl⟩

theorem IsOrdered.selectors (ordered : names.IsOrdered) :
    names.selectors.Pairwise Text.Precedes := by
  have signed (kind : NameKind) :
      ((names.ofKind kind).map (kind.sigil :: ·)).Pairwise Text.Precedes :=
    List.pairwise_map.mpr ((ordered kind).imp Text.precedes_cons_iff.mpr)
  refine List.pairwise_append.mpr ⟨signed .ofId, signed .ofClass, ?_⟩
  intro selector first other second
  obtain ⟨name, -, rfl⟩ := List.mem_map.mp first
  obtain ⟨otherName, -, rfl⟩ := List.mem_map.mp second
  exact Text.precedes_of_toNat_lt (by decide) _ _

end SelectorNames

namespace SelectorMap

/-- Puts an entry into entries in order, in place of one with the same key. -/
def putEntry (entry : Text × Text) : List (Text × Text) → List (Text × Text)
  | [] => [entry]
  | other :: rest =>
      if entry.1 = other.1 then entry :: rest
      else if Text.le entry.1 other.1 then entry :: other :: rest
      else other :: putEntry entry rest

/-- Puts the names of a kind into entries, one after the other. -/
def putNames (form : Text → Text) (kind : NameKind) (listed : List Text)
    (entries : List (Text × Text)) : List (Text × Text) :=
  listed.foldl (fun entries name => putEntry (kind.sigil :: name, kind.sigil :: form name) entries)
    entries

/-- The map of sets of names that are given in the listed order. -/
def built (form : Text → Text) (classes ids : List Text) : SelectorMap :=
  ⟨putNames form .ofId ids (putNames form .ofClass classes [])⟩

/-- The map of a catalog with the given forms of its names. -/
structure Lists (map : SelectorMap) (names : SelectorNames) (form : Text → Text) : Prop where
  entries : ∀ key value, (key, value) ∈ map.entries ↔ ∃ kind, ∃ name ∈ names.ofKind kind,
    key = kind.sigil :: name ∧ value = kind.sigil :: form name
  ordered : (map.entries.map (·.1)).Pairwise Text.Precedes
  size : map.size = names.classes.length + names.ids.length
  distinct : (map.entries.map (·.2)).Nodup
  /-- The order in which the names are listed does not matter. -/
  built : ∀ classes ids, (∀ name, name ∈ classes ↔ name ∈ names.classes) →
    (∀ name, name ∈ ids ↔ name ∈ names.ids) → built form classes ids = map

section Keyed

variable (form : Text → Text)

/-- The selector that one of a single name leads to. -/
def scopedSelector : Text → Text
  | [] => []
  | sigil :: name => sigil :: form name

theorem scopedSelector_injective (injective : Function.Injective form) :
    Function.Injective (scopedSelector form) := by
  intro first second same
  cases first <;> cases second <;> simp_all [scopedSelector, injective.eq_iff]

/-- Entries with the values that their keys lead to. -/
def keyed (keys : List Text) : List (Text × Text) :=
  keys.map fun key => (key, scopedSelector form key)

theorem putEntry_keyed (key : Text) (keys : List Text) :
    putEntry (key, scopedSelector form key) (keyed form keys) =
      keyed form (SelectorNames.insertName key keys) := by
  induction keys with
  | nil => rfl
  | cons first rest inductionHypothesis =>
      change (if key = first then (key, scopedSelector form key) :: keyed form rest
        else if Text.le key first then
          (key, scopedSelector form key) :: (first, scopedSelector form first) :: keyed form rest
        else (first, scopedSelector form first) ::
          putEntry (key, scopedSelector form key) (keyed form rest)) = _
      rw [SelectorNames.insertName, inductionHypothesis]
      split
      case isTrue same => rw [same]; rfl
      case isFalse => split <;> rfl

/-- The keys in order that come of putting in names. -/
def putKeys (kind : NameKind) (listed keys : List Text) : List Text :=
  listed.foldl (fun keys name => SelectorNames.insertName (kind.sigil :: name) keys) keys

theorem putNames_keyed (kind : NameKind) (listed keys : List Text) :
    putNames form kind listed (keyed form keys) = keyed form (putKeys kind listed keys) := by
  induction listed generalizing keys with
  | nil => rfl
  | cons name rest inductionHypothesis =>
      rw [putKeys, List.foldl_cons, ← putKeys, ← inductionHypothesis, ← putEntry_keyed]
      rfl

theorem ordered_putKeys (kind : NameKind) (listed : List Text) {keys : List Text}
    (ordered : keys.Pairwise Text.Precedes) : (putKeys kind listed keys).Pairwise Text.Precedes := by
  induction listed generalizing keys with
  | nil => exact ordered
  | cons name rest inductionHypothesis =>
      exact inductionHypothesis (SelectorNames.ordered_insertName ordered)

theorem mem_putKeys {kind : NameKind} {listed keys : List Text} {key : Text} :
    key ∈ putKeys kind listed keys ↔ key ∈ listed.map (kind.sigil :: ·) ∨ key ∈ keys := by
  induction listed generalizing keys with
  | nil => simp [putKeys]
  | cons name rest inductionHypothesis =>
      rw [putKeys, List.foldl_cons, ← putKeys, inductionHypothesis, SelectorNames.mem_insertName,
        List.map_cons, List.mem_cons, or_left_comm, or_assoc]

end Keyed

section Scoped

variable {names : SelectorNames}

theorem entries_ofScope (names : SelectorNames) (tag : Option Text) :
    (ofScope ⟨names, tag⟩).entries = keyed (Scope.form tag) names.selectors := by
  have ofKind (kind : NameKind) : entriesOf ⟨names, tag⟩ kind =
      keyed (Scope.form tag) ((names.ofKind kind).map (kind.sigil :: ·)) := by
    rw [entriesOf, keyed, List.map_map]
    refine List.map_congr_left fun name listed => ?_
    rw [Scope.rename_eq_form tag (List.contains_iff_mem.mpr listed)]
    rfl
  rw [SelectorNames.selectors, keyed, List.map_append]
  exact congrArg₂ (· ++ ·) (ofKind .ofId) (ofKind .ofClass)

theorem built_eq_ofScope (ordered : names.IsOrdered) (tag : Option Text) {classes ids : List Text}
    (sameClasses : ∀ name, name ∈ classes ↔ name ∈ names.classes)
    (sameIds : ∀ name, name ∈ ids ↔ name ∈ names.ids) :
    built (Scope.form tag) classes ids = ofScope ⟨names, tag⟩ := by
  have orderedKeys : (putKeys .ofId ids (putKeys .ofClass classes [])).Pairwise Text.Precedes :=
    ordered_putKeys _ _ (ordered_putKeys _ _ List.Pairwise.nil)
  have keys : putKeys .ofId ids (putKeys .ofClass classes []) = names.selectors := by
    refine orderedKeys.eq_of_mem_iff ordered.selectors fun key => ?_
    simp [mem_putKeys, SelectorNames.selectors, sameClasses, sameIds]
  have entries : (built (Scope.form tag) classes ids).entries = (ofScope ⟨names, tag⟩).entries := by
    rw [entries_ofScope, ← keys, ← putNames_keyed, ← putNames_keyed]
    rfl
  exact congrArg SelectorMap.mk entries

theorem form_injective (tag : Option Text) : Function.Injective (Scope.form tag) := by
  cases tag with
  | none => exact Function.injective_id
  | some tag => exact scopedForm_injective tag

theorem lists_ofScope (ordered : names.IsOrdered) (tag : Option Text) :
    (ofScope ⟨names, tag⟩).Lists names (Scope.form tag) where
  entries key value := by
    rw [entries_ofScope, keyed, List.mem_map]
    constructor
    · rintro ⟨_, listed, same⟩
      obtain ⟨rfl, rfl⟩ := Prod.mk.inj same
      obtain ⟨kind, name, member, rfl⟩ := SelectorNames.mem_selectors.mp listed
      exact ⟨kind, name, member, rfl, rfl⟩
    · rintro ⟨kind, name, member, rfl, rfl⟩
      exact ⟨_, SelectorNames.mem_selectors.mpr ⟨kind, name, member, rfl⟩, rfl⟩
  ordered := by
    rw [entries_ofScope, keyed, List.map_map]
    exact (List.map_id _).symm ▸ ordered.selectors
  size := by
    rw [size, entries_ofScope, keyed, List.length_map, SelectorNames.selectors, List.length_append,
      List.length_map, List.length_map, Nat.add_comm]
  distinct := by
    rw [entries_ofScope, keyed, List.map_map]
    exact (SelectorNames.nodup_of_ordered ordered.selectors).map
      (scopedSelector_injective _ (form_injective tag))
  built _ _ sameClasses sameIds := built_eq_ofScope ordered tag sameClasses sameIds

end Scoped

end SelectorMap

/-- The catalog of a stylesheet, its renamed selectors and its selector map agree. -/
theorem catalog_renaming_map_agree (sheet : Stylesheet) :
    let names := SelectorNames.ofStylesheet sheet
    ((∀ kind name, names.has kind name = true ↔ sheet.SelectsOn kind name) ∧
      names.classes.Nodup ∧ names.ids.Nodup) ∧
    (∀ tag, let scope : Scope := ⟨names, some tag⟩
      sheet.RenamedBy (scopedForm tag) (scope.inStylesheet sheet) ∧
      scope.renamedCount sheet = sheet.names.length ∧
      (∀ kind name, (SelectorNames.ofStylesheet (scope.inStylesheet sheet)).has kind name = true ↔
        ∃ before, names.has kind before = true ∧ name = scopedForm tag before) ∧
      (SelectorMap.ofScope scope).Lists names (scopedForm tag)) ∧
    let unscoped : Scope := ⟨names, none⟩
    unscoped.inStylesheet sheet = sheet ∧ unscoped.renamedCount sheet = 0 ∧
      (SelectorMap.ofScope unscoped).Lists names id := by
  intro names
  have ordered : names.IsOrdered := SelectorNames.isOrdered_ofStylesheet sheet
  refine ⟨⟨fun kind name => ?_, ?_, ?_⟩, fun tag => ⟨?_, ?_, fun kind name => ?_, ?_⟩, ?_, ?_, ?_⟩
  · rw [SelectorNames.has_ofStylesheet_iff, Stylesheet.mem_names_iff]
  · exact SelectorNames.nodup_of_ordered (ordered .ofClass)
  · exact SelectorNames.nodup_of_ordered (ordered .ofId)
  · exact Scope.renamedBy_inStylesheet sheet (some tag)
  · exact Scope.renamedCount_of_tag sheet tag
  · exact (Scope.renamedBy_inStylesheet sheet (some tag)).has_iff
  · exact SelectorMap.lists_ofScope ordered (some tag)
  · exact Scope.inStylesheet_of_no_tag sheet names
  · exact Scope.renamedCount_of_no_tag sheet names
  · exact SelectorMap.lists_ofScope ordered none

end ComponentStyles
