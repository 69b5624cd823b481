import ComponentStyles.Build.Outputs
import ComponentStyles.Proofs.Component.InPlace
import ComponentStyles.Proofs.Component.Names

/-!
# Imports in the stylesheet that is written for a component file

An import counts only in front of the rules of its sheet. The stylesheets of the components of a file
are written one behind the other as they are. So the imports of a component are in front of its own
rules when they were so in its source, but they are behind the rules of every component before it.
-/

namespace ComponentStyles

open Token

section Order

variable {statement other : Statement} {statements : List Statement}

def Statement.isImport : Statement → Bool
  | .importing _ _ _ => true
  | _ => false

/-- There is a rule in the statement, at any depth. -/
def Statement.holdsRule (statement : Statement) : Bool :=
  !statement.selectorLists.isEmpty

/-- No import stands behind a rule. -/
def ImportsLead (statements : List Statement) : Prop :=
  statements.Pairwise fun front behind => front.holdsRule = true → behind.isImport = false

instance (statements : List Statement) : Decidable (ImportsLead statements) :=
  inferInstanceAs (Decidable (statements.Pairwise _))

/-- Whether a statement is an import, if it is one or holds a rule. -/
def Statement.mark? (statement : Statement) : Option Bool :=
  if statement.isImport || statement.holdsRule then some statement.isImport else none

/-- The imports and the statements with rules in the order that they stand in. -/
def marksOf (statements : List Statement) : List Bool :=
  statements.filterMap Statement.mark?

theorem Statement.holdsRule_of_isImport (isImport : statement.isImport = true) :
    statement.holdsRule = false := by
  cases statement <;> first | rfl | cases isImport

theorem importsLead_iff_marksOf : ImportsLead statements ↔
    (marksOf statements).Pairwise fun front behind => front = false → behind = false := by
  rw [marksOf, List.pairwise_filterMap]
  refine List.Pairwise.iff fun {front behind} => ⟨?_, ?_⟩
  · intro apart first isFirst second isSecond notImport
    simp only [Statement.mark?, Option.ite_none_right_eq_some, Bool.or_eq_true,
      Option.some.injEq] at isFirst isSecond
    obtain ⟨marked, rfl⟩ := isFirst
    obtain ⟨-, rfl⟩ := isSecond
    exact apart (marked.resolve_left (by simp [notImport]))
  · intro apart holds
    by_contra isImport
    rw [Bool.not_eq_false] at isImport
    have notImport : front.isImport = false := by
      by_contra isImport
      rw [Bool.not_eq_false] at isImport
      rw [Statement.holdsRule_of_isImport isImport] at holds
      cases holds
    have marked := apart false (by simp [Statement.mark?, holds, notImport]) true
      (by simp [Statement.mark?, isImport]) rfl
    cases marked

/-- Statements with the same marks have their imports in front of their rules alike. -/
theorem importsLead_congr {others : List Statement} (same : marksOf statements = marksOf others) :
    ImportsLead statements ↔ ImportsLead others := by
  rw [importsLead_iff_marksOf, same, ← importsLead_iff_marksOf]

theorem Statement.mark?_congr (isImport : statement.isImport = other.isImport)
    (lists : statement.selectorLists.isEmpty = other.selectorLists.isEmpty) :
    statement.mark? = other.mark? := by
  rw [mark?, mark?, isImport, holdsRule, holdsRule, lists]

theorem marksOf_cons : marksOf (statement :: statements) = statement.mark?.toList ++ marksOf statements := by
  rw [marksOf, List.filterMap_cons]
  cases statement.mark? <;> rfl

theorem marksOf_append (front behind : List Statement) :
    marksOf (front ++ behind) = marksOf front ++ marksOf behind :=
  List.filterMap_append

theorem marksOf_flatMap {Row : Type} {before after : Row → List Statement}
    (same : ∀ row, marksOf (before row) = marksOf (after row)) (rows : List Row) :
    marksOf (rows.flatMap before) = marksOf (rows.flatMap after) := by
  induction rows with
  | nil => rfl
  | cons row rows inductionHypothesis =>
      rw [List.flatMap_cons, List.flatMap_cons, marksOf_append, marksOf_append, same,
        inductionHypothesis]

/-- A pass from one statement to the next keeps the marks if each of its steps does. -/
theorem marksOf_pass {pass : List Statement → List Statement} {step : Statement → List Statement}
    (nil : pass [] = []) (cons : ∀ statement rest, pass (statement :: rest) = step statement ++ pass rest)
    (same : ∀ statement, marksOf (step statement) = statement.mark?.toList)
    (statements : List Statement) : marksOf (pass statements) = marksOf statements := by
  induction statements with
  | nil => rw [nil]
  | cons statement rest inductionHypothesis =>
      rw [cons, marksOf_append, same, inductionHypothesis, ← marksOf_cons]

theorem marksOf_singleton (same : statement.mark? = other.mark?) :
    marksOf [statement] = other.mark?.toList := by
  rw [marksOf_cons, same]
  exact List.append_nil _

theorem marksOf_bareStatements (statements : List Statement) :
    marksOf (bareStatements statements) = marksOf statements := by
  refine marksOf_pass rfl (fun _ _ => List.singleton_append.symm) (fun statement => ?_) statements
  refine marksOf_singleton (Statement.mark?_congr ?_ ?_)
  · rcases statement with _ | _ | _ | _ | ⟨_, _, _ | _ | _, _⟩ | _ <;> rfl
  · rw [Statement.selectorLists_bare, List.isEmpty_map]

theorem marksOf_mapTermsOf (onDeclaration onDefinition : List Term → List Term)
    (statements : List Statement) :
    marksOf (mapTermsOf onDeclaration onDefinition statements) = marksOf statements := by
  refine marksOf_pass rfl (fun _ _ => List.singleton_append.symm) (fun statement => ?_) statements
  refine marksOf_singleton (Statement.mark?_congr ?_ ?_)
  · rcases statement with _ | _ | _ | _ | ⟨_, _, _ | _ | _, _⟩ | _ <;> rfl
  · rw [Statement.selectorLists_mapTerms]

theorem marksOf_mapSelectorsOf (change : SelectorList → SelectorList) (statements : List Statement) :
    marksOf (mapSelectorsOf change statements) = marksOf statements := by
  refine marksOf_pass rfl (fun _ _ => List.singleton_append.symm) (fun statement => ?_) statements
  refine marksOf_singleton (Statement.mark?_congr ?_ ?_)
  · cases statement <;> rfl
  · rw [Statement.selectorLists_mapSelectors, List.isEmpty_map]

/-- Only definitions are dropped, and they have no mark. -/
theorem marksOf_withoutDefinitionsOf (statements : List Statement) :
    marksOf (withoutDefinitionsOf statements) = marksOf statements := by
  refine marksOf_pass rfl (fun _ _ => rfl) (fun statement => ?_) statements
  have lists := statement.selectorLists_withoutDefinitions
  rcases statement with _ | _ | _ | ⟨name, condition, statements, span⟩ | ⟨_, _, _ | _ | _, _⟩ | _
  case conditional =>
    refine marksOf_singleton (Statement.mark?_congr rfl ?_)
    exact congrArg List.isEmpty ((List.append_nil _).symm.trans lists)
  all_goals rfl

end Order

namespace Component

variable {options : CompileOptions} {places : Places} {component : Component}

/-- The statements of the stylesheet that is used, if there is one. -/
def statements (component : Component) : List Statement :=
  component.stylesheets.head?.elim [] (·.statements)

theorem marksOf_compiledStatements (component : Component) :
    marksOf (component.compiledStatements options places) = marksOf component.statements := by
  rw [compiledStatements, statements]
  cases component.stylesheets.head? with
  | none => rfl
  | some sheet =>
      refine (marksOf_mapSelectorsOf _ _).trans ((marksOf_mapTermsOf _ _ _).trans ?_)
      exact (marksOf_withoutDefinitionsOf _).trans (marksOf_mapTermsOf _ _ _)

end Component

section Lines

variable {separator : Text}

theorem separator_append_join {texts : List Text} (some : texts ≠ []) :
    separator ++ Text.join separator texts = texts.flatMap (separator ++ ·) := by
  cases texts with
  | nil => exact absurd rfl some
  | cons text texts => rw [join_cons, List.flatMap_cons, List.append_assoc]

theorem join_eq_drop (texts : List Text) :
    Text.join separator texts = (texts.flatMap (separator ++ ·)).drop separator.length := by
  cases texts with
  | nil => exact List.drop_nil.symm
  | cons text texts => rw [← separator_append_join (List.cons_ne_nil _ _), List.drop_left]

theorem join_ne_nil {texts : List Text} (written : ∀ text ∈ texts, text ≠ []) (some : texts ≠ []) :
    Text.join separator texts ≠ [] := by
  cases texts with
  | nil => exact absurd rfl some
  | cons text texts =>
      rw [join_cons]
      exact List.append_ne_nil_of_left_ne_nil (written text List.mem_cons_self) _

/-- Rows that are joined on their own and then joined, the empty ones left out, are joined as one. -/
theorem join_joined {rows : List (List Text)} (written : ∀ row ∈ rows, ∀ text ∈ row, text ≠ []) :
    Text.join separator ((rows.map (Text.join separator)).filter fun text => !text.isEmpty) =
      Text.join separator rows.flatten := by
  rw [join_eq_drop, join_eq_drop rows.flatten]
  congr 1
  induction rows with
  | nil => rfl
  | cons row rows inductionHypothesis =>
      rw [List.forall_mem_cons] at written
      rw [List.map_cons, List.flatten_cons, List.flatMap_append, ← inductionHypothesis written.2]
      by_cases nothing : row = []
      · subst nothing
        rfl
      · have some : (!(Text.join separator row).isEmpty) = true := by
          simp [join_ne_nil written.1 nothing]
        rw [List.filter_cons, if_pos some, List.flatMap_cons, separator_append_join nothing]

end Lines

section Joined

variable {options : CompileOptions} {places : Places} {components : List Component}

theorem flatMap_of_append {Row Part : Type} {holds : List Part → Prop} (nil : holds [])
    (append : ∀ {front behind}, holds front → holds behind → holds (front ++ behind))
    {rows : List Row} {parts : Row → List Part} (each : ∀ row ∈ rows, holds (parts row)) :
    holds (rows.flatMap parts) := by
  induction rows with
  | nil => exact nil
  | cons row rows inductionHypothesis =>
      rw [List.forall_mem_cons] at each
      exact append each.1 (inductionHypothesis each.2)

theorem SteadyStatements.append {statements others : List Statement}
    (steady : SteadyStatements statements) (steadyToo : SteadyStatements others) :
    SteadyStatements (statements ++ others) := by
  induction statements with
  | nil => exact steadyToo
  | cons statement rest inductionHypothesis =>
      obtain ⟨first, later⟩ := steadyStatements_cons_iff.mp steady
      exact steadyStatements_cons_iff.mpr ⟨first, inductionHypothesis later⟩

theorem render_ne_nil_of_wellFormed {layout : Layout} {statements : List Statement} :
    WellFormedStatements statements →
      ∀ text ∈ statements.map (Statement.render layout 0), text ≠ [] := by
  induction statements with
  | nil => exact nofun
  | cons statement rest inductionHypothesis =>
      rintro ⟨first, later⟩
      exact List.forall_mem_cons.mpr ⟨render_statement_ne_nil first, inductionHypothesis later⟩

/-- Stylesheets that are lines each are joined to all the lines. -/
theorem exists_joinSheets_eq {compiled : List Compiled} {rows : List (List Text)}
    (sheets : compiled.map (·.css) = rows.map (Text.join ['\n']))
    (written : ∀ row ∈ rows, ∀ text ∈ row, text ≠ []) :
    ∃ ending, Cursor.IsSheetEnd ending ∧
      Outputs.joinSheets compiled = Text.join ['\n'] rows.flatten ++ ending := by
  unfold Outputs.joinSheets
  rw [sheets, join_joined written]
  dsimp only
  split
  · exact ⟨[], .inl rfl, (List.append_nil _).symm⟩
  · exact ⟨['\n'], .inr rfl, rfl⟩

/-- What is read of the joined stylesheets are the statements of the components, one component behind
the other. -/
theorem parseAt_joinSheets {compiled : List Compiled}
    (sheets : compiled.map (·.css) =
      components.map fun component => (component.compile options places).result.css)
    (steady : ∀ component ∈ components, component.IsSteady options places)
    (scopes : options.scoping = true → ∀ component ∈ components, component.ScopesToNames)
    (file : File) (offset : Nat) :
    let read := Stylesheet.parseAt file offset (Outputs.joinSheets compiled)
    read.errors = [] ∧ bareStatements read.tree.statements =
      bareStatements (components.flatMap (·.compiledStatements options places)) := by
  let statements := fun component : Component => component.compiledStatements options places
  have wellFormed (component : Component) (listed : component ∈ components) :
      WellFormedStatements (statements component) :=
    Component.wellFormed_compiledStatements (steady component listed)
      fun scoping => scopes scoping component listed
  let lines := fun component => (statements component).map (Statement.render options.layout 0)
  have areLines : compiled.map (·.css) = (components.map lines).map (Text.join ['\n']) := by
    rw [sheets, List.map_map]
    exact List.map_congr_left fun component _ => component.css_compile_eq_lines
  obtain ⟨ending, ends, joined⟩ := exists_joinSheets_eq areLines <|
    List.forall_mem_map.mpr fun component listed =>
      render_ne_nil_of_wellFormed (wellFormed component listed)
  rw [joined, ← List.flatMap_def, ← List.map_flatMap]
  refine Stylesheet.parseAt_lines ends ?_ ?_ file offset options.layout
  · exact flatMap_of_append trivial (fun front behind =>
      Cursor.wellFormedStatements_append.mpr ⟨front, behind⟩) wellFormed
  · exact flatMap_of_append steadyStatements_nil SteadyStatements.append fun component listed =>
      Component.steady_compiledStatements (steady component listed)

end Joined

section Written

variable {workspace : Path} {settings : Settings} {source : Path} {text : Text}

/-- The sheet of a component file is read without errors, and its imports are in front of its rules
just when they are so in every component and no import is in a component behind one with a rule. -/
theorem importsLead_written_iff
    (steady : ∀ component ∈ (Template.parse source.text text).tree.components.1,
      component.IsSteady settings.compiling
        (Placement.ofSource workspace settings.outDir source).places)
    (scopes : settings.compiling.scoping = true →
      ∀ component ∈ (Template.parse source.text text).tree.components.1, component.ScopesToNames)
    (file : File) (offset : Nat) :
    let components := (Template.parse source.text text).tree.components.1
    let read := Stylesheet.parseAt file offset
      (compileSource workspace settings source text).outputs.sheet
    read.errors = [] ∧
      (ImportsLead read.tree.statements ↔
        (∀ component ∈ components, ImportsLead component.statements) ∧
          components.Pairwise fun front behind =>
            ∀ rule ∈ front.statements, ∀ statement ∈ behind.statements,
              rule.holdsRule = true → statement.isImport = false) := by
  intro components read
  have sheets : (compileSource workspace settings source text).components.map (·.css) =
      components.map fun component => (component.compile settings.compiling
        (Placement.ofSource workspace settings.outDir source).places).result.css := by
    change (compileNodes _ _ _ _).2.result.map (·.css) = _
    rw [(fits_compileNodes _).result, List.map_map, show components = List.map _ _ from rfl,
      List.map_map]
    rfl
  obtain ⟨quiet, (same : bareStatements read.tree.statements = _)⟩ :=
    parseAt_joinSheets sheets steady scopes file offset
  have marks : marksOf read.tree.statements = marksOf (components.flatMap (·.statements)) := by
    rw [← marksOf_bareStatements, same, marksOf_bareStatements]
    exact marksOf_flatMap Component.marksOf_compiledStatements components
  exact ⟨quiet, (importsLead_congr marks).trans List.pairwise_flatMap⟩

end Written

section Legible

variable {file : File} {options : CompileOptions} {places : Places}

/-- What the stylesheet of a style element is read from. -/
def Node.sheetSource? : Node → Option (Nat × Text)
  | .element _ _ (.text content span :: _) _ _ => some (span.start, content)
  | .element _ _ _ _ span => some (span.stop, [])
  | _ => none

theorem Node.stylesheet?_eq_map (style : Node) : style.stylesheet? file =
    style.sheetSource?.map fun source => Stylesheet.parseAt file source.1 source.2 := by
  rcases style with ⟨_, _, _ | ⟨_ | _ | _, _⟩, _, _⟩ | _ | _ <;> rfl

/-- The stylesheet of a definition has no slashes and is read without errors, and the terms that are
written for it can be read again. -/
def Node.DefinesLegibly (file : File) (options : CompileOptions) (places : Places) (node : Node) : Prop :=
  ∀ entry ∈ node.component? file, ∀ source ∈ (node.children.find? Node.isStyle).bind Node.sheetSource?,
    let read := Stylesheet.parseAt file source.1 source.2
    (∀ l ∈ lexemes source.2, l.IsTame ∧ l.kind ≠ .slash) ∧ read.errors = [] ∧
      LegibleStatements (entry.1.compiledTree options places read.tree).statements

instance (file : File) (options : CompileOptions) (places : Places) (node : Node) :
    Decidable (node.DefinesLegibly file options places) :=
  inferInstanceAs (Decidable (∀ entry ∈ node.component? file,
    ∀ source ∈ (node.children.find? Node.isStyle).bind Node.sheetSource?, _ ∧ _ ∧ _))

instance (component : Component) : Decidable component.ScopesToNames :=
  inferInstanceAs (Decidable (∀ entry ∈ component.names, _))

theorem isSteady_of_definesLegibly {nodes : List Node} {entry : Component × List Message}
    (each : ∀ node ∈ definitionsIn nodes, node.DefinesLegibly file options places)
    (found : entry ∈ componentsOf file nodes) : entry.1.IsSteady options places := by
  rw [componentsOf_eq] at found
  obtain ⟨node, listed, taken⟩ := List.mem_filterMap.mp found
  have legibly := each node listed entry taken
  obtain ⟨tag, -, rfl⟩ := Option.map_eq_some_iff.mp taken
  intro sheet used
  rw [head?_stylesheets_ofChildren] at used
  obtain ⟨style, first, read⟩ := Option.bind_eq_some_iff.mp used
  rw [Node.stylesheet?_eq_map, Option.map_map] at read
  obtain ⟨source, isSource, rfl⟩ := Option.map_eq_some_iff.mp read
  obtain ⟨noSlash, quiet, legible⟩ :=
    legibly source (Option.bind_eq_some_iff.mpr ⟨style, first, isSource⟩)
  exact ⟨⟨file, source.1, source.2, plain_of_no_slash noSlash, quiet, rfl⟩,
    steadyStatements_of_legible legible⟩

end Legible

/-- Two components with an import in front of a rule each. -/
def importingTwice : Text :=
  ("<element name=\"x-a\"><style>@import \"a.css\"; .a \x7b top: 0; \x7d</style></element>" ++
    "<element name=\"x-b\"><style>@import \"b.css\"; .b \x7b top: 0; \x7d</style></element>").toList

/-- What is computed of this file. -/
theorem legible_importingTwice :
    let settings : Settings := .ofArguments {} {}
    let source : Path := ⟨"x.html".toList⟩
    let parsed := (Template.parse source.text importingTwice).tree
    let read := Stylesheet.parse []
      (compileSource ⟨"/ws".toList⟩ settings source importingTwice).outputs.sheet
    (∀ node ∈ definitionsIn parsed.nodes, node.DefinesLegibly parsed.file settings.compiling
        (Placement.ofSource ⟨"/ws".toList⟩ settings.outDir source).places) ∧
      (∀ component ∈ parsed.components.1,
        component.ScopesToNames ∧ ImportsLead component.statements) ∧
      ¬ ImportsLead read.tree.statements := by
  decide +kernel

theorem importsLead_written_iff_importingTwice :
    let settings : Settings := .ofArguments {} {}
    let source : Path := ⟨"x.html".toList⟩
    let components := (Template.parse source.text importingTwice).tree.components.1
    ((∀ component ∈ components, component.IsSteady settings.compiling
        (Placement.ofSource ⟨"/ws".toList⟩ settings.outDir source).places) ∧
      (settings.compiling.scoping = true → ∀ component ∈ components, component.ScopesToNames)) ∧
      ∀ file offset,
        let read := Stylesheet.parseAt file offset
          (compileSource ⟨"/ws".toList⟩ settings source importingTwice).outputs.sheet
        read.errors = [] ∧
          (ImportsLead read.tree.statements ↔
            (∀ component ∈ components, ImportsLead component.statements) ∧
              components.Pairwise fun front behind =>
                ∀ rule ∈ front.statements, ∀ statement ∈ behind.statements,
                  rule.holdsRule = true → statement.isImport = false) := by
  intro settings source components
  obtain ⟨legibly, each, -⟩ := legible_importingTwice
  have steady : ∀ component ∈ components, component.IsSteady settings.compiling
      (Placement.ofSource ⟨"/ws".toList⟩ settings.outDir source).places := by
    intro component listed
    obtain ⟨entry, found, rfl⟩ := List.mem_map.mp listed
    exact isSteady_of_definesLegibly legibly found
  have scopes (_ : settings.compiling.scoping = true) (component : Component)
      (listed : component ∈ components) : component.ScopesToNames :=
    (each component listed).1
  exact ⟨⟨steady, scopes⟩, importsLead_written_iff steady scopes⟩

/-- The import of the second component stands behind the rule of the first one. -/
theorem not_importsLead_importingTwice :
    let source : Path := ⟨"x.html".toList⟩
    let components := (Template.parse source.text importingTwice).tree.components.1
    let read := Stylesheet.parse []
      (compileSource ⟨"/ws".toList⟩ (.ofArguments {} {}) source importingTwice).outputs.sheet
    (∀ component ∈ components, ImportsLead component.statements) ∧
      ¬ ImportsLead read.tree.statements := by
  obtain ⟨-, each, behind⟩ := legible_importingTwice
  exact ⟨fun component listed => (each component listed).2, behind⟩

end ComponentStyles
