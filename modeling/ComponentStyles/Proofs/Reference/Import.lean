import ComponentStyles.Build.Outputs
import ComponentStyles.Proofs.Component.InPlace

/-!
# The imports of compiled components

Compiling a stylesheet touches neither its imports nor their order, so the imports of a compiled
component are those of its first stylesheet. Where a stylesheet is read from decides what its imports
name, but not which there are.
-/

namespace ComponentStyles

section Kept

variable {file : File} {source : Path} {onDeclaration onDefinition : List Term → List Term}

theorem importsOf_append (statements others : List Statement) :
    importsOf file source (statements ++ others) =
      importsOf file source statements ++ importsOf file source others := by
  induction statements with
  | nil => rfl
  | cons statement rest inductionHypothesis =>
      rw [List.cons_append, importsOf, importsOf, inductionHypothesis, List.append_assoc]

mutual

theorem Statement.imports_mapTerms : ∀ statement : Statement,
    (statement.mapTerms onDeclaration onDefinition).imports file source =
      statement.imports file source
  | .rule _ _ _ => rfl
  | .definition _ => rfl
  | .importing _ _ _ => rfl
  | .conditional _ _ statements _ => importsOf_mapTermsOf statements
  | .atRule _ _ none _ => rfl
  | .atRule _ _ (some (.declarations _)) _ => rfl
  | .atRule _ _ (some (.raw _)) _ => rfl
  | .comment _ _ => rfl

theorem importsOf_mapTermsOf : ∀ statements : List Statement,
    importsOf file source (mapTermsOf onDeclaration onDefinition statements) =
      importsOf file source statements
  | [] => rfl
  | statement :: rest => by
      rw [mapTermsOf, importsOf, importsOf, statement.imports_mapTerms, importsOf_mapTermsOf rest]

end

mutual

theorem Statement.imports_withoutDefinitions : ∀ statement : Statement,
    importsOf file source statement.withoutDefinitions?.toList = statement.imports file source
  | .rule _ _ _ => rfl
  | .definition _ => rfl
  | .importing _ _ _ => rfl
  | .conditional _ _ statements _ =>
      (List.append_nil _).trans (importsOf_withoutDefinitionsOf statements)
  | .atRule _ _ none _ => rfl
  | .atRule _ _ (some (.declarations _)) _ => rfl
  | .atRule _ _ (some (.raw _)) _ => rfl
  | .comment _ _ => rfl

theorem importsOf_withoutDefinitionsOf : ∀ statements : List Statement,
    importsOf file source (withoutDefinitionsOf statements) = importsOf file source statements
  | [] => rfl
  | statement :: rest => by
      rw [withoutDefinitionsOf, importsOf_append, importsOf, statement.imports_withoutDefinitions,
        importsOf_withoutDefinitionsOf rest]

end

end Kept

section Source

variable {file : File} {source : Path}

theorem resolveReference_eq_some_iff {reference : Text} {resolved : Path} :
    resolveReference source reference = some resolved ↔
      ReferenceKind.of reference = .file ∧
        (source.parent.join ⟨reference⟩).normalize = resolved := by
  rw [resolveReference, Option.ite_none_right_eq_some, Option.some.injEq]

/-- The import as it is when its stylesheet is read from another place. -/
def Import.readFrom (source : Path) (i : Import) : Import :=
  { i with source := source, resolved := resolveReference source i.target }

mutual

theorem Statement.imports_readFrom (source other : Path) : ∀ statement : Statement,
    (statement.imports file source).map (Import.readFrom other) = statement.imports file other
  | .rule _ _ _ => rfl
  | .definition _ => rfl
  | .importing _ _ _ => rfl
  | .conditional _ _ statements _ => importsOf_readFrom source other statements
  | .atRule _ _ _ _ => rfl
  | .comment _ _ => rfl

theorem importsOf_readFrom (source other : Path) : ∀ statements : List Statement,
    (importsOf file source statements).map (Import.readFrom other) = importsOf file other statements
  | [] => rfl
  | statement :: rest => by
      rw [importsOf, importsOf, List.map_append, statement.imports_readFrom source other,
        importsOf_readFrom source other rest]

end

theorem mem_imports_iff_readFrom (source other : Path) {sheet : Stylesheet} {i : Import} :
    i ∈ sheet.imports other ↔ ∃ j ∈ sheet.imports source, j.readFrom other = i := by
  rw [Stylesheet.imports, ← importsOf_readFrom source other, List.mem_map]
  rfl

/-- What an import names is told by its reference and the place of its stylesheet. -/
theorem named_of_mem_imports {sheet : Stylesheet} {i : Import} (listed : i ∈ sheet.imports source) :
    i.source = source ∧ i.resolved = resolveReference source i.target := by
  obtain ⟨j, -, rfl⟩ := (mem_imports_iff_readFrom source source).mp listed
  exact ⟨rfl, rfl⟩

end Source

section Compiled

variable {options : CompileOptions} {places : Places} {i : Import}

theorem Component.imports_compile (component : Component) :
    (component.compile options places).result.imports =
      component.stylesheets.head?.elim [] (Stylesheet.imports places.source) := by
  obtain ⟨tag, stylesheets, template, span⟩ := component
  cases stylesheets with
  | nil => rfl
  | cons sheet rest =>
      change importsOf sheet.file places.source (mapTermsOf _ _ (withoutDefinitionsOf (mapTermsOf _ _
        sheet.statements))) = _
      rw [importsOf_mapTermsOf, importsOf_withoutDefinitionsOf, importsOf_mapTermsOf]
      rfl

/-- The imports of the compiled components are those of the first stylesheets. -/
theorem mem_imports_compileSource_iff {workspace source : Path} {settings : Settings} {text : Text} :
    i ∈ (compileSource workspace settings source text).components.flatMap (·.imports) ↔
      ∃ component ∈ (Template.parse source.text text).tree.components.1,
        ∃ sheet, component.stylesheets.head? = some sheet ∧
          i ∈ sheet.imports (Placement.ofSource workspace settings.outDir source).places.source := by
  have components : (compileSource workspace settings source text).components =
      (compileNodes _ settings.compiling (Placement.ofSource workspace settings.outDir source).places
        (Template.parse source.text text).tree.nodes).2.result := rfl
  rw [components, (fits_compileNodes _).result, List.flatMap_map]
  simp only [List.mem_flatMap, Component.imports_compile, Template.components, List.mem_map]
  constructor
  · rintro ⟨entry, found, listed⟩
    cases first : entry.1.stylesheets.head? with
    | none =>
        rw [first] at listed
        cases listed
    | some sheet =>
        rw [first] at listed
        exact ⟨entry.1, ⟨entry, found, rfl⟩, sheet, first, listed⟩
  · rintro ⟨_, ⟨entry, found, rfl⟩, sheet, first, listed⟩
    refine ⟨entry, found, ?_⟩
    rw [first]
    exact listed

end Compiled

end ComponentStyles
