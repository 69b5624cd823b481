import ComponentStyles.Build.Imports
import ComponentStyles.Proofs.Build.Outputs
import Mathlib.Data.List.TakeWhile

/-!
# Copying imported stylesheets

The files to copy are taken one after the other; each names more of them. What is done with one file
is said once, and what holds after all of them follows along the run.
-/

namespace ComponentStyles

open ComponentStyles.Path

section WorkspaceFile

variable {tree : FileTree} {workspace path file : Path}

/-- A file in the workspace is given by the names that lead to it from there. -/
theorem workspaceFile?_eq_some_iff (absolute : workspace.isAbsolute = true) :
    workspaceFile? tree workspace path = some file ↔
      tree.isFile (workspace.join path).normalize = true ∧
        ∃ names, (workspace.join path).address = workspace.address ++ names ∧ file = ofNames names := by
  have joined := isAbsolute_join_of_isAbsolute absolute path
  rw [workspaceFile?]
  split
  case isTrue isFile =>
    rw [below?_normalize_eq_some_iff joined absolute, and_iff_right isFile]
  case isFalse noFile => simp [noFile]

theorem isPlain_of_workspaceFile? (absolute : workspace.isAbsolute = true)
    (found : workspaceFile? tree workspace path = some file) : file.IsPlain := by
  obtain ⟨-, names, place, rfl⟩ := (workspaceFile?_eq_some_iff absolute).mp found
  refine ⟨names, fun name listed => ?_, rfl⟩
  refine isName_of_mem_address (isAbsolute_join_of_isAbsolute absolute path) ?_
  rw [place]
  exact List.mem_append_right _ listed

/-- Seen from the workspace, a file stands where the path leads. -/
theorem stands_of_workspaceFile? (absolute : workspace.isAbsolute = true)
    (found : workspaceFile? tree workspace path = some file) :
    (workspace.join file).normalize = (workspace.join path).normalize ∧
      tree.isFile (workspace.join file).normalize = true := by
  obtain ⟨names, proper, rfl⟩ := isPlain_of_workspaceFile? absolute found
  obtain ⟨isFile, others, place, same⟩ := (workspaceFile?_eq_some_iff absolute).mp found
  have joined := isAbsolute_join_of_isAbsolute absolute path
  have here : (workspace.join (ofNames names)).normalize = (workspace.join path).normalize := by
    rw [normalize_eq_iff_address (isAbsolute_join_of_isAbsolute absolute _) joined,
      address_join_ofNames absolute proper, place, List.append_cancel_left_eq]
    refine ofNames_injective proper (fun name listed => ?_) same
    exact isName_of_mem_address joined (place ▸ List.mem_append_right _ listed)
  exact ⟨here, here ▸ isFile⟩

/-- Outside of the output directory, the same files of the workspace are found before and after. -/
theorem workspaceFile?_of_changesBelow {after : FileTree} {root : Address}
    (changes : FileTree.ChangesBelow root tree after) (absolute : workspace.isAbsolute = true)
    (outside : ¬ FileTree.Below root (workspace.join path).address) :
    workspaceFile? after workspace path = workspaceFile? tree workspace path := by
  have same := changes.isFile_normalize_iff (isAbsolute_join_of_isAbsolute absolute path) outside
  rw [workspaceFile?, workspaceFile?, Bool.eq_iff_iff.mpr same]

theorem mem_importsOfCopy_iff {copy : Path} {text : Text} :
    file ∈ (importsOfCopy tree workspace copy text).1 ↔
      ∃ i ∈ (Stylesheet.parse copy.text text).tree.imports copy, ∃ resolved,
        i.resolved = some resolved ∧ workspaceFile? tree workspace resolved = some file := by
  simp only [importsOfCopy, List.mem_filterMap, Option.map_eq_some_iff]
  constructor
  · rintro ⟨_, ⟨i, listed, resolved, same, rfl⟩, found⟩
    exact ⟨i, listed, resolved, same, found⟩
  · rintro ⟨i, listed, resolved, same, found⟩
    exact ⟨_, ⟨i, listed, resolved, same, rfl⟩, found⟩

theorem checkImport_eq_some_iff {placement : Placement} {i : Import} :
    (checkImport tree workspace placement i).result = some file ↔
      ∃ resolved, i.resolved = some resolved ∧
        tree.contains (placement.absolute resolved) = true ∧
        workspaceFile? tree workspace (placement.absolute resolved) = some file := by
  rw [checkImport]
  cases i.resolved with
  | none =>
      refine iff_of_false nofun ?_
      rintro ⟨_, none, -⟩
      cases none
  | some resolved =>
      dsimp only
      cases stands : tree.contains (placement.absolute resolved) with
      | false =>
          refine iff_of_false nofun ?_
          rintro ⟨_, same, contained, -⟩
          rw [← Option.some.inj same, stands] at contained
          cases contained
      | true =>
          rw [Bool.not_true, if_neg Bool.false_ne_true]
          constructor
          · intro found
            refine ⟨resolved, rfl, stands, ?_⟩
            split at found
            case h_1 inside => rw [inside]; exact found
            case h_2 => cases found
          · rintro ⟨_, same, -, found⟩
            rw [Option.some.inj same, found]

theorem mem_checkImports_iff {placement : Placement} {imports : List Import} :
    file ∈ (checkImports tree workspace placement imports).result ↔
      ∃ i ∈ imports, ∃ resolved, i.resolved = some resolved ∧
        tree.contains (placement.absolute resolved) = true ∧
        workspaceFile? tree workspace (placement.absolute resolved) = some file := by
  constructor
  · intro listed
    obtain ⟨outcome, member, found⟩ := List.mem_filterMap.mp listed
    obtain ⟨i, asked, rfl⟩ := List.mem_map.mp member
    exact ⟨i, asked, checkImport_eq_some_iff.mp found⟩
  · rintro ⟨i, asked, found⟩
    exact List.mem_filterMap.mpr ⟨_, List.mem_map_of_mem asked, checkImport_eq_some_iff.mpr found⟩

end WorkspaceFile

namespace Copying

variable {workspace root path : Path} {compiled visited : List Path} {state next last : Copying}

/-- What is done with one file: nothing when a component compiles to it, else it is read, written,
and asked for more files. -/
theorem copy_cases (copied : copy workspace root compiled state path = .ok next) :
    next.seen = state.seen ∧
      (path ∈ compiled ∧ next.tree = state.tree ∧ next.pending = state.pending ∨
        path ∉ compiled ∧ ∃ text, state.tree.read? (workspace.join path) = some text ∧
          state.tree.write? (root.join path) (.text text) = some next.tree ∧
          next.pending =
            (importsOfCopy next.tree workspace path text).1.reverse ++ state.pending) := by
  rw [copy] at copied
  split at copied
  case isTrue listed =>
    obtain rfl := Except.ok.inj copied
    exact ⟨rfl, .inl ⟨List.contains_iff_mem.mp listed, rfl, rfl⟩⟩
  case isFalse fresh =>
    dsimp only at copied
    split at copied
    case h_1 => cases copied
    case h_2 text read =>
      obtain ⟨tree, written, same⟩ := bind_eq_ok_iff.mp copied
      obtain rfl := Except.ok.inj same
      exact ⟨rfl, .inr ⟨fun listed => fresh (List.contains_iff_mem.mpr listed), text, read,
        FileTree.write_eq_ok_iff.mp written, rfl⟩⟩

/-- The files to copy that have not been seen, from the first one on. -/
def unseen (state : Copying) : List Path :=
  state.pending.dropWhile fun path => state.seen.contains path.sized

/-- Copying some files, one after the other. -/
inductive Copies (workspace root : Path) (compiled : List Path) :
    Copying → List Path → Copying → Prop where
  | stop (state : Copying) : Copies workspace root compiled state [] state
  | next {state between last : Copying} {path : Path} {pending visited : List Path}
      (first : state.unseen = path :: pending)
      (copied : copy workspace root compiled
        { state with seen := path.sized :: state.seen, pending := pending } path = .ok between)
      (others : Copies workspace root compiled between visited last) :
      Copies workspace root compiled state (path :: visited) last

/-- A run copies files until all are seen or the bound is reached. -/
theorem exists_copies_of_run {bound : Nat}
    (ran : run workspace root compiled bound state = .ok last) :
    ∃ visited reached, Copies workspace root compiled state visited reached ∧
      last = { reached with pending := [] } ∧ (reached.unseen = [] ∨ visited.length = bound) := by
  induction bound generalizing state with
  | zero =>
      rw [run.eq_def] at ran
      have stopped : { state with pending := [] } = last := by
        cases first : state.unseen <;>
          rw [unseen] at first <;> rw [first] at ran <;> exact Except.ok.inj ran
      exact ⟨[], state, .stop state, stopped.symm, .inr rfl⟩
  | succ bound inductionHypothesis =>
      rw [run.eq_def] at ran
      cases first : state.unseen with
      | nil =>
          rw [unseen] at first
          rw [first] at ran
          obtain rfl := Except.ok.inj ran
          exact ⟨[], state, .stop state, rfl, .inl first⟩
      | cons path pending =>
          have listed := first
          rw [unseen] at listed
          rw [listed] at ran
          obtain ⟨between, copied, ran⟩ := bind_eq_ok_iff.mp ran
          obtain ⟨visited, reached, others, rfl, ended⟩ := inductionHypothesis ran
          refine ⟨path :: visited, reached, .next first copied others, rfl, ?_⟩
          exact ended.imp_right (congrArg Nat.succ)

/-- Copying the imported files is a run, which ends early only when all are seen. -/
theorem exists_copies_of_copyImports {imports : List Path} {tree after : FileTree} {log : List Text}
    (copied : copyImports workspace root compiled imports tree = .ok (after, log)) :
    ∃ visited last, Copies workspace root compiled ⟨tree, [], imports.reverse, []⟩ visited last ∧
      last.tree = after ∧ (last.unseen = [] ∨ visited.length = bound tree) := by
  obtain ⟨final, ran, same⟩ := bind_eq_ok_iff.mp copied
  cases same
  obtain ⟨visited, last, copies, rfl, ended⟩ := exists_copies_of_run ran
  exact ⟨visited, last, copies, rfl, ended⟩

section Steps

/-- What is asked for by a copied file is a plain path again. -/
theorem isPlain_of_mem_pending (absolute : workspace.isAbsolute = true)
    (copied : copy workspace root compiled state path = .ok next)
    (plain : ∀ file ∈ state.pending, file.IsPlain) : ∀ file ∈ next.pending, file.IsPlain := by
  intro file listed
  rcases (copy_cases copied).2 with ⟨-, -, same⟩ | ⟨-, text, -, -, more⟩
  · exact plain file (same ▸ listed)
  · rw [more, List.mem_append, List.mem_reverse] at listed
    rcases listed with asked | before
    · obtain ⟨i, -, resolved, -, found⟩ := mem_importsOfCopy_iff.mp asked
      exact isPlain_of_workspaceFile? absolute found
    · exact plain file before

/-- A file stays what it is while another one is copied. -/
theorem read?_of_copy {other : Path} {text : Text} (fromRoot : root.isAbsolute = true)
    (copied : copy workspace root compiled state path = .ok next)
    (otherRoot : other.isAbsolute = true)
    (apart : path ∉ compiled → other.address ≠ (root.join path).address)
    (read : state.tree.read? other = some text) : next.tree.read? other = some text := by
  rcases (copy_cases copied).2 with ⟨-, same, -⟩ | ⟨fresh, _, -, written, -⟩
  · rwa [same]
  · have joined := isAbsolute_join_of_isAbsolute fromRoot path
    have writes := FileTree.writes_of_write? joined written
    exact FileTree.read?_of_find? (FileTree.find?_file_of_keeps otherRoot writes.directories
      ((writes.files _).trans (if_neg (apart fresh))) (FileTree.find?_of_read? read))

variable (fromRoot : root.isAbsolute = true) (plain : path.IsPlain)
include fromRoot plain

/-- A file is copied to a place below the output directory. -/
theorem below_of_write? {tree after : FileTree} {content : FileContent}
    (written : tree.write? (root.join path) content = some after) :
    FileTree.Below root.address (root.join path).address := by
  obtain ⟨names, proper, rfl⟩ := plain
  obtain ⟨front, last, segments, isName⟩ := FileTree.isName_of_write? written
  rw [address_join_ofNames fromRoot proper]
  obtain ⟨name, others, rfl⟩ := List.exists_cons_of_ne_nil (ne_nil_of_segments_join segments isName)
  exact ⟨name, others, rfl⟩

theorem changesBelow_of_copy (copied : copy workspace root compiled state path = .ok next) :
    FileTree.ChangesBelow root.address state.tree next.tree := by
  rcases (copy_cases copied).2 with ⟨-, same, -⟩ | ⟨-, text, -, written, -⟩
  · rw [same]
    exact .refl _ _
  · have joined := isAbsolute_join_of_isAbsolute fromRoot path
    exact (FileTree.writes_of_write? joined written).changesBelow
      (below_of_write? fromRoot plain written)

end Steps

section Runs

variable {pending : List Path}

theorem unseen_suffix (state : Copying) : state.unseen <:+ state.pending :=
  List.dropWhile_suffix _

theorem sized_notMem_of_unseen (first : state.unseen = path :: pending) :
    path.sized ∉ state.seen := by
  intro seen
  have stays := List.head?_dropWhile_not (fun path => state.seen.contains path.sized) state.pending
  rw [← unseen, first] at stays
  simp [seen] at stays

theorem eq_of_sized {other : Path} (same : path.sized = other.sized) : path = other :=
  congrArg Prod.snd same

theorem isPlain_of_unseen (first : state.unseen = path :: pending)
    (plain : ∀ file ∈ state.pending, file.IsPlain) :
    path.IsPlain ∧ ∀ file ∈ pending, file.IsPlain :=
  List.forall_mem_cons.mp fun file listed =>
    plain file ((first ▸ unseen_suffix state).subset listed)

/-- The paths to copy stay plain, and only the output directory changes. -/
theorem Copies.changesBelow (absolute : workspace.isAbsolute = true)
    (fromRoot : root.isAbsolute = true)
    (copies : Copies workspace root compiled state visited last)
    (plain : ∀ file ∈ state.pending, file.IsPlain) :
    (∀ path ∈ visited, path.IsPlain) ∧
      FileTree.ChangesBelow root.address state.tree last.tree := by
  induction copies with
  | stop state => exact ⟨List.forall_mem_nil _, .refl _ _⟩
  | @next state between last path pending visited first copied others inductionHypothesis =>
      obtain ⟨pathPlain, pendingPlain⟩ := isPlain_of_unseen first plain
      obtain ⟨visitedPlain, later⟩ :=
        inductionHypothesis (isPlain_of_mem_pending absolute copied pendingPlain)
      exact ⟨List.forall_mem_cons.mpr ⟨pathPlain, visitedPlain⟩,
        (changesBelow_of_copy fromRoot pathPlain copied).trans later⟩

/-- Each file is visited once, and none that has been seen before. -/
theorem Copies.nodup (copies : Copies workspace root compiled state visited last) :
    visited.Nodup ∧ ∀ path ∈ visited, path.sized ∉ state.seen := by
  induction copies with
  | stop state => exact ⟨List.nodup_nil, List.forall_mem_nil _⟩
  | @next state between last path pending visited first copied others inductionHypothesis =>
      obtain ⟨distinct, fresh⟩ := inductionHypothesis
      rw [(copy_cases copied).1] at fresh
      refine ⟨List.nodup_cons.mpr ⟨fun again => ?_, distinct⟩, List.forall_mem_cons.mpr ⟨?_, ?_⟩⟩
      · exact fresh path again List.mem_cons_self
      · exact sized_notMem_of_unseen first
      · exact fun other listed seen => fresh other listed (List.mem_cons_of_mem _ seen)

theorem Copies.seen (copies : Copies workspace root compiled state visited last) :
    state.seen ⊆ last.seen ∧ ∀ path ∈ visited, path.sized ∈ last.seen := by
  induction copies with
  | stop state => exact ⟨List.Subset.refl _, List.forall_mem_nil _⟩
  | @next state between last path pending visited first copied others inductionHypothesis =>
      obtain ⟨before, after⟩ := inductionHypothesis
      rw [(copy_cases copied).1] at before
      exact ⟨fun one seen => before (List.mem_cons_of_mem _ seen),
        List.forall_mem_cons.mpr ⟨before List.mem_cons_self, after⟩⟩

theorem mem_pending_cases (first : state.unseen = path :: pending) {file : Path}
    (asked : file ∈ state.pending) : file.sized ∈ state.seen ∨ file = path ∨ file ∈ pending := by
  rw [← List.takeWhile_append_dropWhile (l := state.pending)
    (p := fun path => state.seen.contains path.sized), List.mem_append] at asked
  rcases asked with passed | later
  · have seen := List.mem_takeWhile_imp passed
    exact .inl (List.contains_iff_mem.mp seen)
  · rw [← unseen, first] at later
    exact .inr (List.mem_cons.mp later)

theorem pending_subset_of_copy (copied : copy workspace root compiled state path = .ok next) :
    state.pending ⊆ next.pending := by
  rcases (copy_cases copied).2 with ⟨-, -, same⟩ | ⟨-, text, -, -, more⟩
  · rw [same]
    exact List.Subset.refl _
  · rw [more]
    exact List.subset_append_right _ _

/-- What has been seen behind a copied file is that file, or was seen before. -/
theorem mem_visited_or_seen_of_next
    (copied : copy workspace root compiled
      { state with seen := path.sized :: state.seen, pending := pending } path = .ok next)
    {file : Path} (found : file ∈ visited ∨ file.sized ∈ next.seen) :
    file ∈ path :: visited ∨ file.sized ∈ state.seen := by
  rcases found with visit | seen
  · exact .inl (List.mem_cons_of_mem _ visit)
  · rw [(copy_cases copied).1] at seen
    rcases List.mem_cons.mp seen with same | before
    · exact .inl (eq_of_sized same ▸ List.mem_cons_self)
    · exact .inr before

/-- When nothing unseen is left, all that was asked for has been visited. -/
theorem Copies.visits (copies : Copies workspace root compiled state visited last)
    (finished : last.unseen = []) {file : Path} (asked : file ∈ state.pending) :
    file ∈ visited ∨ file.sized ∈ state.seen := by
  induction copies with
  | stop state =>
      have seen := List.dropWhile_eq_nil_iff.mp finished file asked
      exact .inr (List.contains_iff_mem.mp seen)
  | @next state between last path pending visited first copied others inductionHypothesis =>
      rcases mem_pending_cases first asked with seen | rfl | later
      · exact .inr seen
      · exact .inl List.mem_cons_self
      · have found := inductionHypothesis finished (pending_subset_of_copy copied later)
        exact mem_visited_or_seen_of_next copied found

/-- A file stays what it is while others are copied. -/
theorem Copies.read? {other : Path} {text : Text} (fromRoot : root.isAbsolute = true)
    (copies : Copies workspace root compiled state visited last)
    (otherRoot : other.isAbsolute = true)
    (apart : ∀ path ∈ visited, path ∉ compiled → other.address ≠ (root.join path).address)
    (read : state.tree.read? other = some text) : last.tree.read? other = some text := by
  induction copies with
  | stop state => exact read
  | @next state between last path pending visited first copied others inductionHypothesis =>
      obtain ⟨now, later⟩ := List.forall_mem_cons.mp apart
      exact inductionHypothesis later (read?_of_copy fromRoot copied otherRoot now read)

/-- A visited file that no component compiles to is read and then written, and what it asks for is
visited as well. -/
theorem Copies.copied (absolute : workspace.isAbsolute = true) (fromRoot : root.isAbsolute = true)
    (copies : Copies workspace root compiled state visited last)
    (plain : ∀ file ∈ state.pending, file.IsPlain) {file : Path} (visit : file ∈ visited)
    (fresh : file ∉ compiled) :
    ∃ text during after, FileTree.ChangesBelow root.address state.tree during ∧
      FileTree.ChangesBelow root.address state.tree after ∧
      during.read? (workspace.join file) = some text ∧
      last.tree.read? (root.join file) = some text ∧
      (last.unseen = [] → ∀ other ∈ (importsOfCopy after workspace file text).1,
        other ∈ visited ∨ other.sized ∈ state.seen) := by
  induction copies with
  | stop state => cases visit
  | @next state between last path pending visited first copied others inductionHypothesis =>
      obtain ⟨pathPlain, pendingPlain⟩ := isPlain_of_unseen first plain
      have betweenPlain := isPlain_of_mem_pending absolute copied pendingPlain
      have changes := changesBelow_of_copy fromRoot pathPlain copied
      rcases List.mem_cons.mp visit with rfl | later
      · rcases (copy_cases copied).2 with ⟨listed, -, -⟩ | ⟨-, text, read, written, more⟩
        · exact absurd listed fresh
        · have joined := isAbsolute_join_of_isAbsolute fromRoot file
          refine ⟨text, state.tree, between.tree, .refl _ _, changes, read, ?_, ?_⟩
          · refine others.read? fromRoot joined (fun other listed _ same => ?_)
              (FileTree.read?_of_write? joined written)
            have otherPlain := (others.changesBelow absolute fromRoot betweenPlain).1 other listed
            have again := pathPlain.eq_of_address otherPlain fromRoot same
            exact (List.nodup_cons.mp (Copies.next first copied others).nodup.1).1 (again ▸ listed)
          · intro finished other asked
            refine mem_visited_or_seen_of_next copied (others.visits finished ?_)
            rw [more]
            exact List.mem_append_left _ (List.mem_reverse.mpr asked)
      · obtain ⟨text, during, after, before, behind, read, written, asks⟩ :=
          inductionHypothesis betweenPlain later
        exact ⟨text, during, after, changes.trans before, changes.trans behind, read, written,
          fun finished other asked => mem_visited_or_seen_of_next copied (asks finished other asked)⟩

end Runs

end Copying

end ComponentStyles
