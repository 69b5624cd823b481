import ComponentStyles.Proofs.Component.Written
import ComponentStyles.Proofs.Scope.Collision

/-!
# The names in the css of a component

Nothing checks that a tag is a name before names are scoped with it. A scoped form that is no name
is written into a selector all the same, and read as several names, or as none. So the selector map
says what the css selects on exactly when every scoped form is a name, as it always is behind a tag
that is one.
-/

namespace ComponentStyles

open Token

namespace Component

variable {options : CompileOptions} {places : Places} {component : Component}

/-- The stylesheet of the component, if there is one, is made of plain tokens and read without
errors, and what is written of it can be read again. -/
def IsSteady (options : CompileOptions) (places : Places) (component : Component) : Prop :=
  ∀ sheet ∈ component.stylesheets.head?,
    (∃ file offset source, Plain (lexemes source) ∧
      (Stylesheet.parseAt file offset source).errors = [] ∧
        (Stylesheet.parseAt file offset source).tree = sheet) ∧
    SteadyStatements (component.compiledTree options places sheet).statements

/-- Every scoped form of a name of the component is a name. -/
def ScopesToNames (component : Component) : Prop :=
  ∀ entry ∈ component.names, entry.1.Spells (scopedForm component.tag entry.2)

/-- The css of the component selects on the names that the values of its selector map stand for. -/
def SelectsOnValues (options : CompileOptions) (places : Places) (component : Component) (file : File)
    (offset : Nat) : Prop :=
  let read := Stylesheet.parseAt file offset (component.compile options places).result.css
  ∀ kind name, (SelectorNames.ofStylesheet read.tree).has kind name = true ↔
    kind.sigil :: name ∈ component.scopedSelectors options places

theorem mem_values_iff (scoping : options.scoping = true) {kind : NameKind} {name : Text} :
    kind.sigil :: name ∈ component.scopedSelectors options places ↔
      ∃ original, (kind, original) ∈ component.names ∧ name = scopedForm component.tag original := by
  rw [mem_scopedSelectors_iff scoping]
  constructor
  · rintro ⟨kindToo, original, listed, same⟩
    obtain ⟨sigil, form⟩ := List.cons.inj same
    obtain rfl := sigil_injective sigil
    exact ⟨original, listed, form⟩
  · rintro ⟨original, listed, rfl⟩
    exact ⟨kind, original, listed, rfl⟩

theorem rename_scope (scoping : options.scoping = true) {sheet : Stylesheet} {entry : NameKind × Text}
    (listed : entry ∈ sheet.names) : (component.scope options sheet).rename entry.1 entry.2 =
      scopedForm component.tag entry.2 := by
  unfold scope
  rw [if_pos scoping]
  exact Scope.rename_of_has (SelectorNames.has_ofStylesheet_iff.mpr listed)

/-- The statements that are written for a component. -/
def compiledStatements (options : CompileOptions) (places : Places) (component : Component) :
    List Statement :=
  component.stylesheets.head?.elim [] fun sheet =>
    (component.compiledTree options places sheet).statements

theorem css_compile_eq_lines (component : Component) :
    (component.compile options places).result.css = Text.join ['\n']
      ((component.compiledStatements options places).map (Statement.render options.layout 0)) := by
  rw [compiledStatements]
  cases used : component.stylesheets.head? with
  | some sheet => exact css_compile used
  | none =>
      unfold compile
      rw [List.head?_eq_none_iff.mp used]
      rfl

theorem wellFormed_compiledStatements (steady : component.IsSteady options places)
    (scopes : options.scoping = true → component.ScopesToNames) :
    WellFormedStatements (component.compiledStatements options places) := by
  rw [compiledStatements]
  cases used : component.stylesheets.head? with
  | none => exact trivial
  | some sheet =>
      obtain ⟨⟨file, offset, source, plain, quiet, rfl⟩, -⟩ := steady sheet used
      refine wellFormed_compiledTree (Stylesheet.wellFormed_of_parseAt plain quiet) ?_
      intro entry listed
      by_cases scoping : options.scoping = true
      · rw [rename_scope scoping listed]
        exact scopes scoping entry (by rwa [names, used])
      · exact spells_of_tagged (absurd · scoping) entry listed

theorem steady_compiledStatements (steady : component.IsSteady options places) :
    SteadyStatements (component.compiledStatements options places) := by
  rw [compiledStatements]
  cases used : component.stylesheets.head? with
  | none => exact steadyStatements_nil
  | some sheet => exact (steady sheet used).2

theorem namesOf_compiledStatements (scoping : options.scoping = true) (component : Component) :
    namesOf (component.compiledStatements options places) =
      component.names.map fun entry => (entry.1, scopedForm component.tag entry.2) := by
  rw [names, compiledStatements]
  cases component.stylesheets.head? with
  | none => rfl
  | some sheet =>
      refine names_compiledTree.trans (List.map_congr_left fun entry listed => ?_)
      exact congrArg (entry.1, ·) (rename_scope scoping listed)

/-- Where the scoped forms are names, the css is read with these names. -/
theorem names_of_css (steady : component.IsSteady options places) (scoping : options.scoping = true)
    (spells : component.ScopesToNames) (file : File) (offset : Nat) :
    (Stylesheet.parseAt file offset (component.compile options places).result.css).tree.names =
      component.names.map fun entry => (entry.1, scopedForm component.tag entry.2) := by
  let compiled : Stylesheet := ⟨file, component.compiledStatements options places, .detached⟩
  have css : (component.compile options places).result.css = compiled.render options.layout :=
    component.css_compile_eq_lines
  have wellFormed : WellFormedStatements compiled.statements :=
    component.wellFormed_compiledStatements steady fun _ => spells
  obtain ⟨-, same⟩ := Stylesheet.parseAt_render wellFormed (steady_compiledStatements steady)
    file offset options.layout
  rw [css, Stylesheet.names_eq_of_bare same]
  exact component.namesOf_compiledStatements scoping

/-- The map of a component with scoping says what its css selects on exactly when every scoped form
is a name. Behind a tag that is a name, every one is. -/
theorem selectsOnValues_iff_scopesToNames (steady : component.IsSteady options places)
    (scoping : options.scoping = true) (file : File) (offset : Nat) :
    (component.SelectsOnValues options places file offset ↔ component.ScopesToNames) ∧
      (Kind.identifier.Spells component.tag → component.SelectsOnValues options places file offset) := by
  have selects : component.SelectsOnValues options places file offset ↔ component.ScopesToNames := by
    constructor
    · intro selects entry listed
      have has := (selects entry.1 (scopedForm component.tag entry.2)).mpr
        ((mem_values_iff scoping).mpr ⟨entry.2, listed, rfl⟩)
      exact Stylesheet.spells_of_parseAt _ (SelectorNames.has_ofStylesheet_iff.mp has)
    · intro spells kind name
      rw [SelectorNames.has_ofStylesheet_iff, names_of_css steady scoping spells file offset,
        mem_values_iff scoping, List.mem_map]
      constructor
      · rintro ⟨⟨kindToo, original⟩, listed, same⟩
        obtain ⟨rfl, rfl⟩ := Prod.mk.inj same
        exact ⟨original, listed, rfl⟩
      · rintro ⟨original, listed, rfl⟩
        exact ⟨(kind, original), listed, rfl⟩
  refine ⟨selects, fun tagged => selects.mpr ?_⟩
  cases used : component.stylesheets.head? with
  | none =>
      intro entry listed
      simp [names, used] at listed
  | some sheet =>
      have named : component.names = sheet.names := by simp [names, used]
      obtain ⟨⟨fileToo, offsetToo, source, -, -, rfl⟩, -⟩ := steady sheet used
      intro entry listed
      rw [named] at listed
      rw [← rename_scope scoping listed]
      exact spells_of_tagged (fun _ => tagged) entry listed

theorem isSteady_badge : badge.IsSteady {} badgePlaces := by
  obtain ⟨quiet, legible⟩ := legible_badge
  rintro _ ⟨⟩
  exact ⟨⟨_, 0, badgeSource, plain_badgeSource, quiet, rfl⟩, steadyStatements_of_legible legible⟩

theorem selectsOnValues_iff_scopesToNames_badge :
    (badge.IsSteady {} badgePlaces ∧ CompileOptions.scoping {} = true) ∧
      ∀ file offset,
        (badge.SelectsOnValues {} badgePlaces file offset ↔ badge.ScopesToNames) ∧
          (Kind.identifier.Spells badge.tag → badge.SelectsOnValues {} badgePlaces file offset) :=
  ⟨⟨isSteady_badge, rfl⟩, selectsOnValues_iff_scopesToNames isSteady_badge rfl⟩

/-- `.c { top: 0; }` in a component `x-a.b` with an empty template. -/
def dotted : Component :=
  ⟨"x-a.b".toList, [(Stylesheet.parse [] ".c \x7b top: 0; \x7d".toList).tree], [], .detached⟩

/-- The selector `.x-a.b_c` is read as the classes `x-a` and `b_c`. -/
theorem not_selectsOnValues_dotted :
    (Stylesheet.parse [] ".c \x7b top: 0; \x7d".toList).errors = [] ∧
      ".x-a.b_c".toList ∈ dotted.scopedSelectors {} badgePlaces ∧
        ¬ dotted.SelectsOnValues {} badgePlaces (.ofText [] []) 0 := by
  have isValue : NameKind.ofClass.sigil :: "x-a.b_c".toList ∈
      dotted.scopedSelectors {} badgePlaces := by decide +kernel
  refine ⟨by decide +kernel, isValue, fun selects => ?_⟩
  have has := (selects .ofClass "x-a.b_c".toList).mpr isValue
  revert has
  decide +kernel

end Component

end ComponentStyles
