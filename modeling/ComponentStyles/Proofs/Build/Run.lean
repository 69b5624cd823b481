import ComponentStyles.Build.Run

/-!
# Builds that give a result

The first fault ends a build. So when a build gives a result, each of its steps has given one, and
for each step that can fail there is one lemma about what it has done when it did not.
-/

namespace ComponentStyles

/-- One step after another gives a result just when both do. -/
theorem bind_eq_ok_iff {Fault Middle Result : Type} {step : Except Fault Middle}
    {onward : Middle → Except Fault Result} {result : Result} :
    step >>= onward = .ok result ↔ ∃ middle, step = .ok middle ∧ onward middle = .ok result := by
  cases step <;> simp [bind, Except.bind]

variable {workspace : Path} {settings : Settings} {tree after : FileTree} {source : Path}
  {sources : List Path} {log : List Text}

/-- What is done with one component file, and the report about it. -/
theorem buildSource_cases {report : FileReport}
    (built : buildSource workspace settings tree source = .ok (report, log, after)) :
    let compiled := compileSource workspace settings source report.source
    let imports := checkImports tree workspace compiled.placement
      (compiled.components.flatMap (·.imports))
    let raised := compiled.messages ++ imports.messages
    report.path = source ∧ tree.read? (sourcePath workspace source) = some report.source ∧
      report.imports = imports.result ∧
      report.messages = (if settings.failOnWarnings then raised.map Message.promote else raised) ∧
      compiled.write tree = .ok after := by
  rw [buildSource] at built
  cases read : tree.read? (sourcePath workspace source) with
  | none =>
      rw [read] at built
      cases built
  | some text =>
      rw [read] at built
      obtain ⟨written, stored, same⟩ := bind_eq_ok_iff.mp built
      cases same
      exact ⟨rfl, rfl, rfl, rfl, stored⟩

theorem buildSources_cons {reports : List FileReport}
    (built : buildSources workspace settings tree (source :: sources) = .ok (reports, log, after)) :
    ∃ report others early late between,
      buildSource workspace settings tree source = .ok (report, early, between) ∧
      buildSources workspace settings between sources = .ok (others, late, after) ∧
      reports = report :: others := by
  rw [buildSources] at built
  obtain ⟨⟨report, early, between⟩, first, built⟩ := bind_eq_ok_iff.mp built
  obtain ⟨⟨others, late, last⟩, more, same⟩ := bind_eq_ok_iff.mp built
  cases same
  exact ⟨report, others, early, late, between, first, more, rfl⟩

/-- All component files are compiled before the first imported file is copied. -/
theorem compileWorkspace_cases {reports : List FileReport}
    (ran : compileWorkspace workspace settings tree sources = .ok (reports, log, after)) :
    ∃ root early late built, outputRoot? workspace settings.outDir = some root ∧
      buildSources workspace settings tree sources = .ok (reports, early, built) ∧
      copyImports workspace root
        (reports.map fun report => report.path.withExtension "css".toList)
        (reports.flatMap (·.imports)) built = .ok (after, late) := by
  rw [compileWorkspace] at ran
  cases accepted : outputRoot? workspace settings.outDir with
  | none =>
      rw [accepted] at ran
      cases ran
  | some root =>
      rw [accepted] at ran
      obtain ⟨⟨others, early, built⟩, compiled, ran⟩ := bind_eq_ok_iff.mp ran
      obtain ⟨⟨last, late⟩, copied, same⟩ := bind_eq_ok_iff.mp ran
      cases same
      exact ⟨root, early, late, built, rfl, compiled, copied⟩

end ComponentStyles
