import ComponentStyles.Proofs.Component.WellFormed

/-!
# The stylesheet that is written for a component

The css of a component is read again as the compiled tree. So what the passes do to the tree holds of
the text: it uses no variables and defines none, and it selects on scoped names only. Neither holds
of the texts that are kept as written, such as the block of an at-rule that is not known to hold
statements or declarations; they stay as they are in the source.
-/

namespace ComponentStyles

open Token

section Groups

/-- The names that statements select on. -/
def namesOf (statements : List Statement) : List (NameKind × Text) :=
  (selectorListsOf statements).flatMap fun list => namesOfSelectors list.selectors

mutual

/-- The blocks of statements in a statement, at any depth, with the names of their at-rules. -/
def Statement.groups : Statement → List (Text × List Statement)
  | .conditional name _ statements _ => (name, statements) :: groupsOf statements
  | _ => []

def groupsOf : List Statement → List (Text × List Statement)
  | [] => []
  | statement :: rest => statement.groups ++ groupsOf rest

end

mutual

/-- The blocks in a statement that are kept as written, at any depth. -/
def Statement.rawBlocks : Statement → List Text
  | .conditional _ _ statements _ => rawBlocksOf statements
  | .atRule _ _ (some (.raw text)) _ => [text]
  | _ => []

def rawBlocksOf : List Statement → List Text
  | [] => []
  | statement :: rest => statement.rawBlocks ++ rawBlocksOf rest

end

variable {group : Text × List Statement}

mutual

theorem Statement.selectorLists_of_group : ∀ {statement : Statement}, group ∈ statement.groups →
    selectorListsOf group.2 ⊆ statement.selectorLists
  | .conditional name condition statements span, listed => by
      rcases List.mem_cons.mp listed with rfl | inside
      · exact List.Subset.refl _
      · exact selectorListsOf_of_group inside
  | .rule _ _ _, listed => nomatch listed
  | .definition _, listed => nomatch listed
  | .importing _ _ _, listed => nomatch listed
  | .atRule _ _ _ _, listed => nomatch listed
  | .comment _ _, listed => nomatch listed

theorem selectorListsOf_of_group : ∀ {statements : List Statement}, group ∈ groupsOf statements →
    selectorListsOf group.2 ⊆ selectorListsOf statements
  | statement :: rest, listed => by
      rcases List.mem_append.mp listed with inside | later
      · exact List.subset_append_of_subset_left _ (Statement.selectorLists_of_group inside)
      · exact List.subset_append_of_subset_right _ (selectorListsOf_of_group later)

end

theorem namesOf_of_group {statements : List Statement} (listed : group ∈ groupsOf statements) :
    namesOf group.2 ⊆ namesOf statements := by
  intro entry found
  obtain ⟨list, isList, named⟩ := List.mem_flatMap.mp found
  exact List.mem_flatMap.mpr ⟨list, selectorListsOf_of_group listed isList, named⟩

end Groups

namespace Component

/-- The tree that is written for a component with this stylesheet. -/
def compiledTree (options : CompileOptions) (places : Places) (component : Component)
    (sheet : Stylesheet) : Stylesheet :=
  Scope.inStylesheet ⟨.ofStylesheet sheet, if options.scoping then some component.tag else none⟩
    (((sheet.resolve (.ofStylesheet sheet)).withoutDefinitions).relocate
      (.ofFiles places.source places.target))

variable {options : CompileOptions} {places : Places} {component : Component} {sheet : Stylesheet}

theorem css_compile (used : component.stylesheets.head? = some sheet) :
    (component.compile options places).result.css =
      (component.compiledTree options places sheet).render options.layout := by
  obtain ⟨tag, stylesheets, template, span⟩ := component
  obtain ⟨rest, rfl⟩ := List.head?_eq_some_iff.mp used
  rfl

/-- The scope that the names of the stylesheet are renamed in. -/
def scope (options : CompileOptions) (component : Component) (sheet : Stylesheet) : Scope :=
  ⟨.ofStylesheet sheet, if options.scoping then some component.tag else none⟩

/-- The stylesheet without its variables, at the place where it will be written. -/
def prepared (places : Places) (sheet : Stylesheet) : Stylesheet :=
  ((sheet.resolve (.ofStylesheet sheet)).withoutDefinitions).relocate
    (.ofFiles places.source places.target)

theorem selectorLists_prepared : (prepared places sheet).selectorLists = sheet.selectorLists :=
  (selectorListsOf_mapTermsOf _).trans
    ((selectorListsOf_withoutDefinitionsOf _).trans (selectorListsOf_mapTermsOf _))

theorem wellFormed_prepared (wellFormed : WellFormedStatements sheet.statements) :
    WellFormedStatements (prepared places sheet).statements := by
  have definitions := Definitions.wellFormed_ofStylesheet wellFormed
  apply wellFormedStatements_mapTermsOf (fun _ => wellFormedTerms_mapTargetsOf)
    (fun _ => wellFormedTerms_mapTargetsOf)
  apply wellFormedStatements_withoutDefinitionsOf
  exact wellFormedStatements_mapTermsOf (fun _ => wellFormedTerms_resolveAll definitions)
    (fun _ => id) wellFormed

/-- The compiled tree is well-formed if the scoped names are names. -/
theorem wellFormed_compiledTree (wellFormed : WellFormedStatements sheet.statements)
    (spells : (component.scope options sheet).Spells sheet.names) :
    WellFormedStatements (component.compiledTree options places sheet).statements := by
  have listed {list : SelectorList} (found : list ∈ (prepared places sheet).selectorLists) :
      list ∈ sheet.selectorLists := selectorLists_prepared ▸ found
  refine wellFormedStatements_mapSelectorsOf (wellFormed_prepared wellFormed) ?_
  intro list found isList
  refine ⟨inSelectors_ne_nil isList.1, wellFormedSelectors_inSelectors isList.2 ?_⟩
  intro entry named
  exact spells entry (List.mem_flatMap.mpr ⟨list, listed found, named⟩)

/-- Behind a tag that is a name, every name of a parsed stylesheet stays a name. -/
theorem spells_of_tagged {file : File} {offset : Nat} {source : Text}
    (tagged : options.scoping = true → Kind.identifier.Spells component.tag) :
    (component.scope options (Stylesheet.parseAt file offset source).tree).Spells
      (Stylesheet.parseAt file offset source).tree.names := by
  have isScope : (component.scope options
      (Stylesheet.parseAt file offset source).tree).WellFormed := by
    intro tag isTag
    by_cases scoping : options.scoping = true
    · simp only [scope, scoping, if_true, Option.mem_some] at isTag
      exact isTag ▸ tagged scoping
    · simp [scope, scoping] at isTag
  intro entry named
  exact isScope.spells (Stylesheet.spells_of_parseAt entry named)

theorem keptTexts_compiledTree :
    keptTextsOf (component.compiledTree options places sheet).statements =
      keptTextsOf sheet.statements := by
  refine (keptTextsOf_mapSelectorsOf (fun list => keptTextsOfSelectors_inSelectors list.selectors)
    _).trans ?_
  refine (keptTextsOf_mapTermsOf _).trans ((keptTextsOf_withoutDefinitionsOf _).trans ?_)
  exact keptTextsOf_mapTermsOf _

/-- An entry of the written tree is a declaration without usages. -/
theorem items_compiledTree :
    ∀ item ∈ (component.compiledTree options places sheet).items,
      item.definition? = none ∧ usedNamesOf item.terms = [] := by
  have items : (component.compiledTree options places sheet).items =
      (((sheet.items.map (Item.mapTerms (resolveAll (.ofStylesheet sheet)) id)).filter
        fun item => item.definition?.isNone).map
          (Item.mapTerms (mapTargetsOf (Relocation.ofFiles places.source places.target).moved)
            (mapTargetsOf (Relocation.ofFiles places.source places.target).moved))) := by
    refine (itemsOf_mapSelectorsOf _).trans ((itemsOf_mapTermsOf _).trans ?_)
    refine congrArg _ ((itemsOf_withoutDefinitionsOf _).trans ?_)
    exact congrArg _ (itemsOf_mapTermsOf _)
  intro item listed
  rw [items] at listed
  obtain ⟨resolved, isResolved, rfl⟩ := List.mem_map.mp listed
  obtain ⟨isMapped, isDeclaration⟩ := List.mem_filter.mp isResolved
  obtain ⟨before, _, rfl⟩ := List.mem_map.mp isMapped
  cases before with
  | definition d => cases isDeclaration
  | declaration d =>
      exact ⟨rfl, (usedNamesOf_mapTargetsOf _).trans (usedNamesOf_resolveAll _ _)⟩

theorem definitions_compiledTree : (component.compiledTree options places sheet).definitions = [] :=
  List.filterMap_eq_nil_iff.mpr fun item listed => (items_compiledTree item listed).1

theorem names_compiledTree :
    (component.compiledTree options places sheet).names = sheet.names.map (Scope.renameEntry
      ⟨.ofStylesheet sheet, if options.scoping then some component.tag else none⟩) := by
  have names : (prepared places sheet).names = sheet.names := by
    rw [Stylesheet.names, selectorLists_prepared]
    rfl
  rw [← names]
  exact Scope.names_inStylesheet _ (prepared places sheet)

/-- A stylesheet with a usage and a name in blocks that are read and in blocks that are kept. -/
def badgeSource : Text :=
  ("@ink: red; .badge \x7b color: var(ink); \x7d @media print \x7b .badge \x7b top: 0; \x7d \x7d ".toList ++
    "@keyframes fade \x7b from \x7b color: var(ink); \x7d \x7d ".toList ++
    "@container (color) \x7b .badge \x7b top: 0; \x7d \x7d".toList)

/-- The component `x-badge` with this stylesheet and an empty template. -/
def badge : Component :=
  ⟨"x-badge".toList, [(Stylesheet.parse [] badgeSource).tree], [], .detached⟩

def badgePlaces : Places :=
  ⟨⟨"src/x-badge.html".toList⟩, ⟨"build/x-badge.css".toList⟩⟩

theorem plain_badgeSource : Plain (lexemes badgeSource) :=
  plain_of_no_slash (by decide +kernel)

theorem legible_badge :
    (Stylesheet.parse [] badgeSource).errors = [] ∧
      LegibleStatements (badge.compiledTree {} badgePlaces
        (Stylesheet.parse [] badgeSource).tree).statements := by
  decide +kernel

theorem spells_tag_badge : Kind.identifier.Spells badge.tag := by decide +kernel

section Css

variable {file : File} {offset : Nat} {source : Text}
  (plain : Plain (lexemes source))
  (quiet : (Stylesheet.parseAt file offset source).errors = [])
  (used : component.stylesheets.head? = some (Stylesheet.parseAt file offset source).tree)
  (tagged : options.scoping = true → Kind.identifier.Spells component.tag)
  (legible : LegibleStatements (component.compiledTree options places
    (Stylesheet.parseAt file offset source).tree).statements)

include plain quiet used tagged legible

/-- The css of a component can be read, and what is read is the compiled tree. -/
theorem parseAt_css (fileToo : File) (offsetToo : Nat) :
    let read := Stylesheet.parseAt fileToo offsetToo (component.compile options places).result.css
    read.errors = [] ∧ bareStatements read.tree.statements = bareStatements
      (component.compiledTree options places (Stylesheet.parseAt file offset source).tree).statements := by
  rw [css_compile used]
  have wellFormed : WellFormedStatements (component.compiledTree options places _).statements :=
    wellFormed_compiledTree (Stylesheet.wellFormed_of_parseAt plain quiet) (spells_of_tagged tagged)
  exact Stylesheet.parseAt_render wellFormed (steadyStatements_of_legible legible) fileToo offsetToo
    options.layout

/-- Variables are left only where the source is kept as written, and no definition is left. -/
theorem css_uses_variables_only_in_keptTexts :
    usagesIn (component.compile options places).result.css =
        (keptTextsOf (Stylesheet.parseAt file offset source).tree.statements).flatMap usagesIn ∧
      ∀ fileToo offsetToo,
        let read := Stylesheet.parseAt fileToo offsetToo
          (component.compile options places).result.css
        read.errors = [] ∧ read.tree.definitions = [] := by
  constructor
  · rw [css_compile used]
    have wellFormed : WellFormedStatements (component.compiledTree options places _).statements :=
      wellFormed_compiledTree (Stylesheet.wellFormed_of_parseAt plain quiet) (spells_of_tagged tagged)
    refine (Stylesheet.usagesIn_render wellFormed legible
      (fun item listed => (items_compiledTree item listed).2) options.layout).trans ?_
    exact congrArg (List.flatMap usagesIn) keptTexts_compiledTree
  · intro fileToo offsetToo
    obtain ⟨errors, same⟩ := parseAt_css plain quiet used tagged legible fileToo offsetToo
    have definitions := Stylesheet.definitions_eq_of_bare same
    rw [definitions_compiledTree, List.map_nil] at definitions
    exact ⟨errors, List.map_eq_nil_iff.mp definitions⟩

/-- Every block of statements selects on scoped names only, and what is kept as written is what is
kept of the source. -/
theorem css_groups_select_on_scoped_names (scoping : options.scoping = true) (fileToo : File)
    (offsetToo : Nat) :
    let sheet := (Stylesheet.parseAt file offset source).tree
    let read := Stylesheet.parseAt fileToo offsetToo (component.compile options places).result.css
    read.errors = [] ∧
      (∀ group ∈ groupsOf read.tree.statements, ∀ entry ∈ namesOf group.2, ∃ original,
        (SelectorNames.ofStylesheet sheet).has entry.1 original = true ∧
          entry.2 = scopedForm component.tag original) ∧
      keptTextsOf read.tree.statements = keptTextsOf sheet.statements := by
  obtain ⟨errors, same⟩ := parseAt_css plain quiet used tagged legible fileToo offsetToo
  refine ⟨errors, ?_, ?_⟩
  · intro group listed entry found
    have named := namesOf_of_group listed found
    rw [show namesOf _ = Stylesheet.names _ from rfl, Stylesheet.names_eq_of_bare same,
      names_compiledTree, scoping] at named
    obtain ⟨⟨kind, original⟩, inSource, rfl⟩ := List.mem_map.mp named
    have has := SelectorNames.has_ofStylesheet_iff.mpr inSource
    exact ⟨original, has, Scope.rename_of_has has⟩
  · rw [← keptTextsOf_bareStatements, same, keptTextsOf_bareStatements, keptTexts_compiledTree]

end Css

theorem css_uses_variables_only_in_keptTexts_badge :
    (Plain (lexemes badgeSource) ∧ (Stylesheet.parse [] badgeSource).errors = [] ∧
      badge.stylesheets.head? = some (Stylesheet.parse [] badgeSource).tree ∧
      Kind.identifier.Spells badge.tag ∧
      LegibleStatements (badge.compiledTree {} badgePlaces
        (Stylesheet.parse [] badgeSource).tree).statements) ∧
      usagesIn (badge.compile {} badgePlaces).result.css =
        (keptTextsOf (Stylesheet.parse [] badgeSource).tree.statements).flatMap usagesIn ∧
      ∀ file offset,
        let read := Stylesheet.parseAt file offset (badge.compile {} badgePlaces).result.css
        read.errors = [] ∧ read.tree.definitions = [] := by
  obtain ⟨quiet, legible⟩ := legible_badge
  exact ⟨⟨plain_badgeSource, quiet, rfl, spells_tag_badge, legible⟩,
    css_uses_variables_only_in_keptTexts plain_badgeSource quiet rfl (fun _ => spells_tag_badge) legible⟩

/-- The block of `@keyframes` is kept, with the usage in it. -/
theorem css_uses_variable_badge :
    (Stylesheet.parse [] badgeSource).errors = [] ∧
      usagesIn (badge.compile {} badgePlaces).result.css ≠ [] :=
  ⟨legible_badge.1, by decide +kernel⟩

theorem css_groups_select_on_scoped_names_badge :
    (Plain (lexemes badgeSource) ∧ (Stylesheet.parse [] badgeSource).errors = [] ∧
      badge.stylesheets.head? = some (Stylesheet.parse [] badgeSource).tree ∧
      Kind.identifier.Spells badge.tag ∧
      LegibleStatements (badge.compiledTree {} badgePlaces
        (Stylesheet.parse [] badgeSource).tree).statements ∧
      CompileOptions.scoping {} = true) ∧
      let sheet := (Stylesheet.parse [] badgeSource).tree
      let read := Stylesheet.parse [] (badge.compile {} badgePlaces).result.css
      read.errors = [] ∧
        (∀ group ∈ groupsOf read.tree.statements, ∀ entry ∈ namesOf group.2, ∃ original,
          (SelectorNames.ofStylesheet sheet).has entry.1 original = true ∧
            entry.2 = scopedForm badge.tag original) ∧
        keptTextsOf read.tree.statements = keptTextsOf sheet.statements := by
  obtain ⟨quiet, legible⟩ := legible_badge
  exact ⟨⟨plain_badgeSource, quiet, rfl, spells_tag_badge, legible, rfl⟩,
    css_groups_select_on_scoped_names plain_badgeSource quiet rfl (fun _ => spells_tag_badge) legible rfl _ 0⟩

/-- The block of `@container` is kept, and with it a selector on a name that is scoped elsewhere. -/
theorem exists_unscoped_rule_badge :
    (Stylesheet.parse [] badgeSource).errors = [] ∧ Kind.identifier.Spells badge.tag ∧
      ∃ text ∈ rawBlocksOf
          (Stylesheet.parse [] (badge.compile {} badgePlaces).result.css).tree.statements,
        ((Stylesheet.parse [] text).errors = [] ∧
          (Stylesheet.parse [] text).tree.statements.all
            (fun | .rule _ _ _ => true | _ => false) = true) ∧
          ∃ entry ∈ (Stylesheet.parse [] text).tree.names,
            (SelectorNames.ofStylesheet (Stylesheet.parse [] badgeSource).tree).has
              entry.1 entry.2 = true ∧
              ∀ original, entry.2 ≠ scopedForm badge.tag original := by
  refine ⟨legible_badge.1, spells_tag_badge, ".badge \x7b top: 0; \x7d".toList, by decide +kernel,
    by decide +kernel, (.ofClass, "badge".toList), by decide +kernel, by decide +kernel, ?_⟩
  intro original same
  cases (List.cons.inj same).1

end Component

end ComponentStyles
