import ComponentStyles.Proofs.Scope.Names
import ComponentStyles.Proofs.Stylesheet.Parts

/-!
# Renaming the selectors of a stylesheet

To scope a stylesheet is to change the names in its selectors where they stand. Every name that
occurs is in the catalog, so each of them is changed, and once: a scoped form that is also a name of
the catalog is not looked up again.
-/

namespace ComponentStyles

mutual

/-- Changes the class and id names in a simple selector. -/
def SimpleSelector.mapNames (change : NameKind → Text → Text) : SimpleSelector → SimpleSelector
  | .byClass name span => .byClass (change .ofClass name) span
  | .byId name span => .byId (change .ofId name) span
  | .pseudo form name (.selectors list listSpan) span =>
      .pseudo form name (.selectors (mapNamesOfSelectors change list) listSpan) span
  | selector => selector

def mapNamesOfSelectors (change : NameKind → Text → Text) : List Selector → List Selector
  | [] => []
  | .mk parts span :: rest => .mk (mapNamesOfParts change parts) span :: mapNamesOfSelectors change rest

def mapNamesOfParts (change : NameKind → Text → Text) : List SelectorPart → List SelectorPart
  | [] => []
  | .mk combinator simple :: rest =>
      .mk combinator (simple.mapNames change) :: mapNamesOfParts change rest

end

def SelectorList.mapNames (change : NameKind → Text → Text) (list : SelectorList) : SelectorList :=
  { list with selectors := mapNamesOfSelectors change list.selectors }

namespace Stylesheet

/-- Changes the class and id names in the selectors of a stylesheet. -/
def mapNames (change : NameKind → Text → Text) (sheet : Stylesheet) : Stylesheet :=
  sheet.mapSelectors (SelectorList.mapNames change)

/-- A stylesheet with every class and id name struck out. -/
def withoutNames (sheet : Stylesheet) : Stylesheet :=
  sheet.mapNames fun _ _ => []

/-- The names of one stylesheet are those of another one, changed one by one; all else is alike. -/
structure RenamedBy (form : Text → Text) (sheet renamed : Stylesheet) : Prop where
  names : renamed.names = sheet.names.map fun (kind, name) => (kind, form name)
  others : renamed.withoutNames = sheet.withoutNames

end Stylesheet

section Laws

mutual

theorem SimpleSelector.mapNames_id : ∀ simple : SimpleSelector,
    simple.mapNames (fun _ name => name) = simple
  | .byClass _ _ | .byId _ _ | .universal _ | .element _ _ | .attribute _ _ | .pseudo _ _ .absent _
  | .pseudo _ _ (.raw _) _ => rfl
  | .pseudo _ _ (.selectors list _) _ => by
      rw [SimpleSelector.mapNames, mapNamesOfSelectors_id list]

theorem mapNamesOfSelectors_id : ∀ list : List Selector,
    mapNamesOfSelectors (fun _ name => name) list = list
  | [] => rfl
  | .mk parts _ :: rest => by
      rw [mapNamesOfSelectors, mapNamesOfParts_id parts, mapNamesOfSelectors_id rest]

theorem mapNamesOfParts_id : ∀ parts : List SelectorPart,
    mapNamesOfParts (fun _ name => name) parts = parts
  | [] => rfl
  | .mk _ simple :: rest => by rw [mapNamesOfParts, simple.mapNames_id, mapNamesOfParts_id rest]

end

variable (first second : NameKind → Text → Text)

mutual

theorem SimpleSelector.mapNames_mapNames : ∀ simple : SimpleSelector,
    (simple.mapNames first).mapNames second = simple.mapNames fun kind name => second kind (first kind name)
  | .byClass _ _ | .byId _ _ | .universal _ | .element _ _ | .attribute _ _ | .pseudo _ _ .absent _
  | .pseudo _ _ (.raw _) _ => rfl
  | .pseudo _ _ (.selectors list _) _ => by
      rw [SimpleSelector.mapNames, SimpleSelector.mapNames, SimpleSelector.mapNames,
        mapNamesOfSelectors_mapNamesOfSelectors list]

theorem mapNamesOfSelectors_mapNamesOfSelectors : ∀ list : List Selector,
    mapNamesOfSelectors second (mapNamesOfSelectors first list) =
      mapNamesOfSelectors (fun kind name => second kind (first kind name)) list
  | [] => rfl
  | .mk parts _ :: rest => by
      rw [mapNamesOfSelectors, mapNamesOfSelectors, mapNamesOfSelectors,
        mapNamesOfParts_mapNamesOfParts parts, mapNamesOfSelectors_mapNamesOfSelectors rest]

theorem mapNamesOfParts_mapNamesOfParts : ∀ parts : List SelectorPart,
    mapNamesOfParts second (mapNamesOfParts first parts) =
      mapNamesOfParts (fun kind name => second kind (first kind name)) parts
  | [] => rfl
  | .mk _ simple :: rest => by
      rw [mapNamesOfParts, mapNamesOfParts, mapNamesOfParts, simple.mapNames_mapNames,
        mapNamesOfParts_mapNamesOfParts rest]

end

mutual

theorem Statement.mapSelectors_id : ∀ statement : Statement, statement.mapSelectors id = statement
  | .rule _ _ _ | .definition _ | .importing _ _ _ | .atRule _ _ _ _ | .comment _ _ => rfl
  | .conditional _ _ statements _ => by
      rw [Statement.mapSelectors, mapSelectorsOf_id statements]

theorem mapSelectorsOf_id : ∀ statements : List Statement, mapSelectorsOf id statements = statements
  | [] => rfl
  | statement :: rest => by rw [mapSelectorsOf, statement.mapSelectors_id, mapSelectorsOf_id rest]

end

variable (change after : SelectorList → SelectorList)

mutual

theorem Statement.mapSelectors_mapSelectors : ∀ statement : Statement,
    (statement.mapSelectors change).mapSelectors after = statement.mapSelectors (after ∘ change)
  | .rule _ _ _ | .definition _ | .importing _ _ _ | .atRule _ _ _ _ | .comment _ _ => rfl
  | .conditional _ _ statements _ => by
      rw [Statement.mapSelectors, Statement.mapSelectors, Statement.mapSelectors,
        mapSelectorsOf_mapSelectorsOf statements]

theorem mapSelectorsOf_mapSelectorsOf : ∀ statements : List Statement,
    mapSelectorsOf after (mapSelectorsOf change statements) = mapSelectorsOf (after ∘ change) statements
  | [] => rfl
  | statement :: rest => by
      rw [mapSelectorsOf, mapSelectorsOf, mapSelectorsOf, statement.mapSelectors_mapSelectors,
        mapSelectorsOf_mapSelectorsOf rest]

end

theorem SelectorList.mapNames_id : SelectorList.mapNames (fun _ name => name) = id := by
  funext list
  rw [mapNames, mapNamesOfSelectors_id, id]

theorem SelectorList.mapNames_comp_mapNames :
    mapNames second ∘ mapNames first = mapNames fun kind name => second kind (first kind name) := by
  funext list
  rw [Function.comp_apply, mapNames, mapNames, mapNames, mapNamesOfSelectors_mapNamesOfSelectors]

theorem Stylesheet.mapNames_id (sheet : Stylesheet) : sheet.mapNames (fun _ name => name) = sheet := by
  rw [mapNames, SelectorList.mapNames_id, mapSelectors, mapSelectorsOf_id]

theorem Stylesheet.mapNames_mapNames (sheet : Stylesheet) :
    (sheet.mapNames first).mapNames second =
      sheet.mapNames fun kind name => second kind (first kind name) := by
  rw [mapNames, mapNames, mapNames, mapSelectors, mapSelectors, mapSelectors,
    mapSelectorsOf_mapSelectorsOf, SelectorList.mapNames_comp_mapNames]

end Laws

namespace Scope

variable (scope : Scope)

mutual

theorem inSimple_eq_mapNames : ∀ simple : SimpleSelector,
    scope.inSimple simple = simple.mapNames scope.rename
  | .byClass _ _ | .byId _ _ | .universal _ | .element _ _ | .attribute _ _ | .pseudo _ _ .absent _
  | .pseudo _ _ (.raw _) _ => rfl
  | .pseudo _ _ (.selectors list _) _ => by
      rw [inSimple, SimpleSelector.mapNames, inSelectors_eq_mapNames list]

theorem inSelectors_eq_mapNames : ∀ list : List Selector,
    scope.inSelectors list = mapNamesOfSelectors scope.rename list
  | [] => rfl
  | .mk parts _ :: rest => by
      rw [inSelectors, mapNamesOfSelectors, inParts_eq_mapNames parts, inSelectors_eq_mapNames rest]

theorem inParts_eq_mapNames : ∀ parts : List SelectorPart,
    scope.inParts parts = mapNamesOfParts scope.rename parts
  | [] => rfl
  | .mk _ simple :: rest => by
      rw [inParts, mapNamesOfParts, inSimple_eq_mapNames simple, inParts_eq_mapNames rest]

end

theorem inStylesheet_eq_mapNames (sheet : Stylesheet) :
    scope.inStylesheet sheet = sheet.mapNames scope.rename := by
  simp only [inStylesheet, Stylesheet.mapNames, inSelectors_eq_mapNames]
  rfl

/-- The form that a scope gives to the names of its catalog. -/
def form (tag : Option Text) (name : Text) : Text :=
  tag.elim name (scopedForm · name)

theorem rename_eq_form {names : SelectorNames} {kind : NameKind} {name : Text} (tag : Option Text)
    (has : names.has kind name = true) : (Scope.mk names tag).rename kind name = form tag name := by
  cases tag with
  | none => rfl
  | some tag => exact rename_of_has has

variable (sheet : Stylesheet)

theorem renamedBy_inStylesheet (tag : Option Text) :
    sheet.RenamedBy (form tag) ((Scope.mk (.ofStylesheet sheet) tag).inStylesheet sheet) where
  names := by
    rw [names_inStylesheet]
    refine List.map_congr_left fun (kind, name) listed => ?_
    rw [renameEntry, rename_eq_form tag (SelectorNames.has_ofStylesheet_iff.mpr listed)]
  others := by rw [inStylesheet_eq_mapNames, Stylesheet.withoutNames, Stylesheet.mapNames_mapNames]; rfl

theorem renamedCount_of_tag (tag : Text) :
    (Scope.mk (.ofStylesheet sheet) (some tag)).renamedCount sheet = sheet.names.length := by
  rw [renamedCount, List.countP_eq_length]
  intro (kind, name) listed
  simp [rename?, SelectorNames.has_ofStylesheet_iff.mpr listed]

theorem renamedCount_of_no_tag (names : SelectorNames) :
    (Scope.mk names none).renamedCount sheet = 0 := by
  rw [renamedCount, List.countP_eq_zero]
  simp [rename?]

theorem inStylesheet_of_no_tag (names : SelectorNames) :
    (Scope.mk names none).inStylesheet sheet = sheet := by
  rw [inStylesheet_eq_mapNames]
  exact sheet.mapNames_id

end Scope

/-- A renamed stylesheet has the renamed catalog. -/
theorem Stylesheet.RenamedBy.has_iff {form : Text → Text} {sheet renamed : Stylesheet}
    (renamedBy : sheet.RenamedBy form renamed) {kind : NameKind} {name : Text} :
    (SelectorNames.ofStylesheet renamed).has kind name = true ↔
      ∃ before, (SelectorNames.ofStylesheet sheet).has kind before = true ∧ name = form before := by
  simp only [SelectorNames.has_ofStylesheet_iff, renamedBy.names, List.mem_map]
  constructor
  · rintro ⟨⟨_, before⟩, listed, same⟩
    obtain ⟨rfl, rfl⟩ := Prod.mk.inj same
    exact ⟨before, listed, rfl⟩
  · rintro ⟨before, listed, rfl⟩
    exact ⟨(kind, before), listed, rfl⟩

end ComponentStyles
