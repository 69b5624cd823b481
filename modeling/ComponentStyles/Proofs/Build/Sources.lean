import ComponentStyles.Proofs.Build.Placement
import ComponentStyles.Proofs.Build.Run
import ComponentStyles.Proofs.FileTree.Files
import ComponentStyles.Proofs.Glob.Literal

/-!
# What a build takes for its sources

A build skips its own outputs by a glob that is made from the path of the output directory as it is
written, while the outputs go where that path leads. The two agree only where the path is spelled
plainly, as names below the workspace: a dot, a doubled slash or a step up in it keeps the glob from
describing anything, and then what an earlier build has written is compiled again.
-/

namespace ComponentStyles

open ComponentStyles.Path

section Spelling

/-- A text without the slashes at its end. -/
def Text.withoutLastSlashes (text : Text) : Text :=
  (text.reverse.dropWhile (· = '/')).reverse

theorem Text.withoutLastSlashes_concat (text : Text) (c : Char) :
    withoutLastSlashes (text ++ [c]) = if c = '/' then withoutLastSlashes text else text ++ [c] := by
  rw [withoutLastSlashes, List.reverse_append, List.reverse_singleton, List.singleton_append,
    List.dropWhile_cons]
  by_cases slash : c = '/'
  · simp [slash, withoutLastSlashes]
  · simp [slash]

theorem named_withoutLastSlashes (text : Text) :
    Path.named ⟨text.withoutLastSlashes⟩ = Path.named ⟨text⟩ := by
  induction text using List.reverseRecOn with
  | nil => rfl
  | append_singleton text c inductionHypothesis =>
      rw [Text.withoutLastSlashes_concat]
      split
      case isTrue slash =>
        rw [inductionHypothesis, slash]
        simp [named, segments, Text.splitOn_append_cons, Text.splitOn, isFiller]
      case isFalse => rfl

/-- The path of an output directory is spelled plainly when it lies in the workspace as names with
one slash between any two of them. Slashes at its end do not count. -/
def IsSpelledPlainly (workspace outDir : Path) : Prop :=
  ∃ inside names, insideWorkspace? workspace outDir = some inside ∧ (∀ name ∈ names, IsName name) ∧
    inside.text.withoutLastSlashes = Text.join ['/'] names

variable {workspace outDir root inside : Path} {names : List Text}

theorem address_outputRoot (absolute : workspace.isAbsolute = true)
    (accepted : outputRoot? workspace outDir = some root)
    (found : insideWorkspace? workspace outDir = some inside)
    (proper : ∀ name ∈ names, IsName name)
    (spelled : inside.text.withoutLastSlashes = Text.join ['/'] names) :
    root.address = workspace.address ++ names := by
  have relative := isAbsolute_of_inside found
  have named : inside.named = names.map .name := by
    rw [← named_withoutLastSlashes, spelled]
    exact named_ofNames proper
  have place := address_join workspace absolute relative (canonical_of_named relative named)
  rw [(eq_normalize_of_outputRoot accepted).1, address_normalize, ← place, address, address,
    canonical_eq, canonical_eq, walk_join_of_inside absolute found]

end Spelling

section Joined

variable {names : List Text} {front : Text}

/-- A text and a slash stand in front of joined names when the text joins some names in front. -/
theorem prefix_join_iff (proper : ∀ name ∈ names, IsName name) :
    front ++ ['/'] <+: Text.join ['/'] names ↔
      ∃ before name rest, names = before ++ name :: rest ∧ before ≠ [] ∧
        front = Text.join ['/'] before := by
  constructor
  · rintro ⟨others, whole⟩
    have some : names ≠ [] := by
      rintro rfl
      simp [Text.join] at whole
    have apart : ∀ name ∈ names, '/' ∉ name := fun name listed => (proper name listed).2.2
    rw [List.append_assoc, List.singleton_append] at whole
    have split := Text.splitOn_append_cons '/' front others
    rw [whole, Text.splitOn_join some apart] at split
    obtain ⟨name, rest, behind⟩ := List.exists_cons_of_ne_nil (Text.splitOn_ne_nil '/' others)
    rw [behind] at split
    exact ⟨_, name, rest, split, Text.splitOn_ne_nil '/' front, (Text.join_splitOn '/' front).symm⟩
  · rintro ⟨before, name, rest, rfl, some, rfl⟩
    rw [Text.join_append ['/'] some (List.cons_ne_nil name rest), ← List.append_assoc]
    exact List.prefix_append _ _

end Joined

section Sources

variable {tree : FileTree} {workspace root source : Path} {settings : Settings} {sources : List Path}

/-- The glob that is always ignored. -/
def packageGlobs : List Glob :=
  ["**/node_modules/**".toList].filterMap fun text => (Glob.ofText text).toOption

/-- The globs for the outputs of a build. -/
def outputGlobs (workspace outDir : Path) : List Glob :=
  ((insideWorkspace? workspace outDir).map fun path =>
    Glob.insideText path.text.withoutLastSlashes).toList.filterMap
      fun text => (Glob.ofText text).toOption

theorem standardGlobs_eq (workspace outDir : Path) :
    standardGlobs workspace outDir = packageGlobs ++ outputGlobs workspace outDir :=
  List.filterMap_append

/-- A component file of a workspace, as seen from there, that is ignored neither by the settings nor
as part of a package. -/
structure FileTree.IsCandidate (tree : FileTree) (workspace : Path) (settings : Settings)
    (source : Path) : Prop where
  stands : ∃ inner entry, tree.find? workspace = some inner ∧ entry ∈ inner.files ∧
    source = ofNames entry.1
  isComponent : settings.isComponentFile ((sourcePath workspace source).fileName?.getD []) = true
  kept : ∀ globs, settings.globs = .ok globs → ∀ glob ∈ globs ++ packageGlobs,
    glob.describes source.text = false

theorem mem_findSources_iff (found : findSources tree workspace settings = .ok sources) :
    source ∈ sources ↔ tree.IsCandidate workspace settings source ∧
      ∀ glob ∈ outputGlobs workspace settings.outDir, glob.describes source.text = false := by
  obtain ⟨globs, read, same⟩ := bind_eq_ok_iff.mp found
  obtain rfl := Except.ok.inj same
  rw [List.mem_mergeSort, List.mem_filter, Bool.and_eq_true, Bool.not_eq_true',
    List.any_eq_false, standardGlobs_eq, ← List.append_assoc]
  constructor
  · rintro ⟨listed, isComponent, ignored⟩
    obtain ⟨entry, member, rfl⟩ := List.mem_map.mp listed
    cases at_ : tree.find? workspace with
    | none =>
        rw [at_] at member
        cases member
    | some inner =>
        rw [at_] at member
        refine ⟨⟨⟨inner, entry, at_, member, rfl⟩, isComponent, ?_⟩, ?_⟩
        · intro others same glob chosen
          obtain rfl := Except.ok.inj (read.symm.trans same)
          simpa using ignored glob (List.mem_append_left _ chosen)
        · intro glob chosen
          simpa using ignored glob (List.mem_append_right _ chosen)
  · rintro ⟨⟨⟨inner, entry, at_, member, rfl⟩, isComponent, kept⟩, outside⟩
    refine ⟨?_, isComponent, ?_⟩
    · rw [at_]
      exact List.mem_map_of_mem member
    · intro glob chosen
      rcases List.mem_append.mp chosen with first | last
      · simp [kept globs read glob first]
      · simp [outside glob last]

theorem text_ofNames_eq_nil_iff {names : List Text} (proper : ∀ name ∈ names, IsName name) :
    (ofNames names).text = [] ↔ names = [] := by
  constructor
  · intro empty
    have same : ofNames names = ofNames [] := congrArg Path.mk empty
    exact ofNames_injective proper (List.forall_mem_nil _) same
  · rintro rfl
    rfl

theorem address_sourcePath {names : List Text} (absolute : workspace.isAbsolute = true)
    (proper : ∀ name ∈ names, IsName name) :
    (sourcePath workspace (ofNames names)).address = workspace.address ++ names := by
  rw [sourcePath]
  split
  case isTrue empty =>
    rw [(text_ofNames_eq_nil_iff proper).mp (List.isEmpty_iff.mp empty), List.append_nil]
  case isFalse => exact address_join_ofNames absolute proper

theorem isAbsolute_sourcePath (absolute : workspace.isAbsolute = true) {names : List Text}
    (proper : ∀ name ∈ names, IsName name) :
    (sourcePath workspace (ofNames names)).isAbsolute = true := by
  rw [sourcePath]
  split
  · exact absolute
  · rw [isAbsolute_join workspace (isAbsolute_ofNames proper), absolute]

theorem FileTree.IsCandidate.exists_names (proper : tree.IsProper)
    (absolute : workspace.isAbsolute = true)
    (candidate : tree.IsCandidate workspace settings source) :
    ∃ names : List Text, (∀ name ∈ names, IsName name) ∧ source = ofNames names := by
  obtain ⟨inner, entry, found, listed, rfl⟩ := candidate.stands
  have innerProper := proper.at? (FileTree.at?_of_find? absolute found)
  exact ⟨entry.1, innerProper.names entry listed, rfl⟩

/-- The sources are found one by one, each by a path of names. -/
theorem findSources_distinct (proper : tree.IsProper) (absolute : workspace.isAbsolute = true)
    (found : findSources tree workspace settings = .ok sources) :
    sources.Nodup ∧ ∀ source ∈ sources, source.IsPlain := by
  refine ⟨?_, fun source listed => ?_⟩
  · obtain ⟨globs, -, same⟩ := bind_eq_ok_iff.mp found
    obtain rfl := Except.ok.inj same
    rw [(List.mergeSort_perm _ _).nodup_iff]
    refine List.Nodup.filter _ ?_
    cases at_ : tree.find? workspace with
    | none => exact List.nodup_nil
    | some inner =>
        have innerProper := proper.at? (FileTree.at?_of_find? absolute at_)
        change (inner.files.map (ofNames ∘ (·.1))).Nodup
        rw [← List.map_map]
        refine List.Nodup.map_on ?_ innerProper.apart
        intro names listed others otherListed same
        obtain ⟨entry, member, rfl⟩ := List.mem_map.mp listed
        obtain ⟨other, otherMember, rfl⟩ := List.mem_map.mp otherListed
        exact ofNames_injective (innerProper.names entry member)
          (innerProper.names other otherMember) same
  · exact ((mem_findSources_iff found).mp listed).1.exists_names proper absolute

/-- The output directory is never the workspace itself. -/
theorem address_outputRoot_ne {outDir : Path} (absolute : workspace.isAbsolute = true)
    (accepted : outputRoot? workspace outDir = some root) : root.address ≠ workspace.address := by
  intro same
  obtain ⟨rfl, other⟩ := eq_normalize_of_outputRoot accepted
  rw [address_normalize] at same
  exact other ((normalize_eq_iff_address (isAbsolute_join_of_isAbsolute absolute outDir)
    absolute).mpr same)

/-- The glob for the outputs reads the path of the output directory as it is written. -/
theorem outputGlobs_describe_iff {names : List Text} {outDir inside : Path}
    (found : insideWorkspace? workspace outDir = some inside)
    (literal : ∀ c ∈ inside.text.withoutLastSlashes, Glob.isLiteral c = true)
    (proper : ∀ name ∈ names, IsName name) :
    (∀ glob ∈ outputGlobs workspace outDir, glob.describes (ofNames names).text = false) ↔
      ¬ ∃ before name rest, names = before ++ name :: rest ∧ before ≠ [] ∧
        inside.text.withoutLastSlashes = Text.join ['/'] before := by
  have read := Glob.ofText_insideText literal
  have globs : outputGlobs workspace outDir =
      [⟨Glob.insideText inside.text.withoutLastSlashes,
        inside.text.withoutLastSlashes.map .character ++ [.inside]⟩] := by
    rw [outputGlobs, found, Option.map_some, Option.toList_some, List.filterMap_cons, read]
    rfl
  rw [globs, List.forall_mem_singleton, ← prefix_join_iff proper, Bool.eq_false_iff]
  exact not_congr (Glob.describes_insideText_iff literal read)

variable (absolute : workspace.isAbsolute = true) (proper : tree.IsProper)
  (literal : ∀ inside, insideWorkspace? workspace settings.outDir = some inside →
    ∀ c ∈ inside.text.withoutLastSlashes, Glob.isLiteral c = true)
  (accepted : outputRoot? workspace settings.outDir = some root)
  (found : findSources tree workspace settings = .ok sources)
include absolute proper literal accepted found

/-- All that lies below the output directory is skipped, or nothing for its sake. -/
theorem mem_findSources_iff_below : source ∈ sources ↔
    tree.IsCandidate workspace settings source ∧
      ¬ (IsSpelledPlainly workspace settings.outDir ∧
        (sourcePath workspace source).LiesBelow root) := by
  rw [mem_findSources_iff found]
  refine and_congr_right fun candidate => ?_
  obtain ⟨names, areNames, rfl⟩ := candidate.exists_names proper absolute
  have fromRoot := isAbsolute_outputRoot absolute accepted
  rw [liesBelow_iff_address (isAbsolute_sourcePath absolute areNames) fromRoot,
    address_sourcePath absolute areNames]
  cases seen : insideWorkspace? workspace settings.outDir with
  | none =>
      have globs : outputGlobs workspace settings.outDir = [] := by
        rw [outputGlobs, seen]
        rfl
      rw [globs]
      refine iff_of_true (List.forall_mem_nil _) ?_
      rintro ⟨⟨inside, _, same, -⟩, -⟩
      cases seen.symm.trans same
  | some inside =>
      rw [outputGlobs_describe_iff seen (literal inside seen) areNames]
      refine not_congr ⟨?_, ?_⟩
      · rintro ⟨before, name, rest, rfl, -, spelled⟩
        have beforeProper : ∀ name ∈ before, IsName name := fun name listed =>
          areNames name (List.mem_append_left _ listed)
        have place := address_outputRoot absolute accepted seen beforeProper spelled
        exact ⟨⟨inside, before, seen, beforeProper, spelled⟩, name, rest,
          by rw [place, List.append_assoc]⟩
      · rintro ⟨⟨other, before, same, beforeProper, spelled⟩, name, rest, whole⟩
        obtain rfl := Option.some.inj (seen.symm.trans same)
        have place := address_outputRoot absolute accepted seen beforeProper spelled
        rw [place, List.append_assoc] at whole
        refine ⟨before, name, rest, List.append_cancel_left whole, ?_, spelled⟩
        rintro rfl
        rw [List.append_nil] at place
        exact address_outputRoot_ne absolute accepted place

/-- A build takes none of its outputs for a source just when the output directory is spelled
plainly, or nothing there could be taken for a source at all. -/
theorem findSources_avoids_outputs_iff :
    (∀ source ∈ sources, ¬ (sourcePath workspace source).LiesBelow root) ↔
      IsSpelledPlainly workspace settings.outDir ∨
        ∀ source, tree.IsCandidate workspace settings source →
          ¬ (sourcePath workspace source).LiesBelow root := by
  have listed (source : Path) : source ∈ sources ↔ _ :=
    mem_findSources_iff_below absolute proper literal accepted found
  constructor
  · intro avoided
    by_cases plain : IsSpelledPlainly workspace settings.outDir
    · exact .inl plain
    · refine .inr fun source candidate => avoided source ?_
      exact (listed source).mpr ⟨candidate, fun both => plain both.1⟩
  · rintro (plain | nothing) source member below
    · exact ((listed source).mp member).2 ⟨plain, below⟩
    · exact nothing source ((listed source).mp member).1 below

end Sources

section Built

/-- A workspace with a component file and the template that was compiled from it. -/
def builtWorkspace : FileTree :=
  .directory [("ws".toList, .directory [
    ("x.html".toList, .file (.text [])),
    ("build".toList, .directory [("x.html".toList, .file (.text []))])])]

theorem findSources_avoids_outputs_iff_build :
    let workspace : Path := ⟨"/ws".toList⟩
    let settings := Settings.ofArguments {} {}
    let root : Path := ⟨"/ws/build".toList⟩
    let sources : List Path := [⟨"x.html".toList⟩]
    findSources builtWorkspace workspace settings = .ok sources ∧
      ∀ source ∈ sources, ¬ (sourcePath workspace source).LiesBelow root := by
  intro workspace settings root sources
  have proper : builtWorkspace.IsProper := ⟨by decide +kernel, by decide +kernel⟩
  have seen : insideWorkspace? workspace settings.outDir = some settings.outDir := rfl
  have found : findSources builtWorkspace workspace settings = .ok sources := by decide +kernel
  refine ⟨found, (findSources_avoids_outputs_iff rfl proper ?_ (by decide +kernel) found).mpr ?_⟩
  · intro inside same
    obtain rfl := Option.some.inj (seen.symm.trans same)
    decide +kernel
  · exact .inl ⟨settings.outDir, ["build".toList], seen, by decide +kernel, by decide +kernel⟩

/-- With a dot in front of the output directory, the template that was compiled before is found as a
component file. -/
theorem not_avoids_outputs_hereBuild :
    let workspace : Path := ⟨"/ws".toList⟩
    let settings := Settings.ofArguments { outDir := some ⟨"./build".toList⟩ } {}
    let root : Path := ⟨"/ws/build".toList⟩
    let source : Path := ⟨"build/x.html".toList⟩
    ∃ sources, findSources builtWorkspace workspace settings = .ok sources ∧
      outputRoot? workspace settings.outDir = some root ∧ source ∈ sources ∧
      (sourcePath workspace source).LiesBelow root := by
  intro workspace settings root source
  refine ⟨_, rfl, by decide +kernel, List.mem_mergeSort.mpr (by decide +kernel), ?_⟩
  exact ⟨.name "x.html".toList, [], by decide +kernel⟩

end Built

end ComponentStyles
