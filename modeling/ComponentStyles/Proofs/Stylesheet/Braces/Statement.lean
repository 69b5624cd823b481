import ComponentStyles.Proofs.Stylesheet.Braces.Block
import ComponentStyles.Proofs.Stylesheet.Braces.Selector
import ComponentStyles.Proofs.Stylesheet.Parts

/-!
# Braces in statements

Every statement with a block is found where its block is read, and all strays inside of it are reported
there. A closing brace between the statements of the top level is dropped; only there the braces that
are read need not come back to their level.
-/

namespace ComponentStyles

open Token

/-- Whether a statement has a block. -/
def Statement.hasBlock : Statement → Bool
  | rule _ _ _ | conditional _ _ _ _ | atRule _ _ (some _) _ => true
  | _ => false

/-- The span from a block, or from the at-keyword that leads to it, to where it ends. -/
def Statement.blockSpan : Statement → Span
  | rule _ block _ => block.span
  | statement => statement.span

/-- A keyword and a prelude, which has no braces outside parentheses. -/
def LeadsAtRule (lead : List Token) : Prop :=
  ∃ keyword head, lead = keyword :: head ∧ keyword.kind = .atKeyword ∧
    Fence.ofPrelude.Encloses 0 (head.map Token.lexeme)

/-- What stands in this span in front of the block. -/
def Statement.IsLead : Statement → List Token → Prop
  | rule _ _ _, lead => lead = []
  | _, lead => LeadsAtRule lead

namespace Cursor

/-- A place where the parser that starts at another one reads a statement. -/
inductive Reaches (start : Cursor) : Cursor → Prop where
  | start : Reaches start start
  | onward {c : Cursor} (reached : Reaches start c) : Reaches start c.parseStatement.2
  /-- Into the block of an at-rule that holds statements. -/
  | inward {c : Cursor} (reached : Reaches start c) (isKeyword : c.kind = .atKeyword)
      (isConditional : conditionalNames.contains (Text.lower c.atName) = true)
      (opens : c.prelude.2.kind = .openBrace) : Reaches start c.prelude.2.advance

/-- Runs of tokens that are kept as written where a statement is read, without counting braces. -/
inductive UncountedRun (c : Cursor) : List Token → Prop where
  /-- From the keyword of an at-rule up to a block or a semicolon. -/
  | prelude (isKeyword : c.kind = .atKeyword) (notDefinition : ¬ c.AtDefinition)
      (notImport : Text.lower c.atName ≠ "import".toList) :
      UncountedRun c (run [.openBrace, .semicolon, .closeBrace] c.advance.skipTrivia.rest)
  /-- The media of an import, behind its target. -/
  | media (isKeyword : c.kind = .atKeyword) (isImport : Text.lower c.atName = "import".toList)
      (isTarget : c.advance.skipTrivia.kind ∈ [.string, .url]) :
      UncountedRun c (run [.semicolon, .openBrace, .closeBrace]
        c.advance.skipTrivia.advance.skipTrivia.rest)
  /-- A run in the selectors of a rule. -/
  | selector {ahead uncounted : List Token} (within : ahead <:+ c.rest)
      (read : (c.parseSelectorList .openBrace).2.rest.length < ahead.length)
      (isRun : SelectorRun ahead uncounted) : UncountedRun c uncounted

/-- Whatever is kept as written where a statement is read is balanced. -/
def KeepsRuns (c : Cursor) : Prop :=
  ∀ uncounted, c.UncountedRun uncounted → Balanced uncounted

end Cursor

/-- A block that is read inside a run of tokens, with what leads to it. The strays that are reported
outside of the block stand in front of it or behind it. -/
inductive ReadBlock (lead behind : List Token) : List Token → List ParseError → Span → Prop where
  | intro {outer run more : List Token} {opening : Token} {before inside after : List ParseError}
      {stop : Nat} (opens : opening.kind = .openBrace) (block : BlockRun (more ++ behind) run inside stop)
      (earlier : StraysIn before outer) (later : StraysIn after more) :
      ReadBlock lead behind (outer ++ (lead ++ opening :: (run ++ more)))
        (before ++ (inside ++ after)) ⟨(lead.headD opening).span.start, stop⟩

/-- The block of a statement, if it has one, is read inside a run of tokens. -/
def Statement.ReadIn (behind tokens : List Token) (errors : List ParseError) (statement : Statement) :
    Prop :=
  statement.hasBlock = true →
    ∃ lead, statement.IsLead lead ∧ ReadBlock lead behind tokens errors statement.blockSpan

section Runs

variable {behind front taken more : List Token} {before errors after : List ParseError}
  {statement : Statement}

/-- More tokens may be read in front of the run and behind it. -/
theorem ReadBlock.within {lead : List Token} {span : Span}
    (read : ReadBlock lead (more ++ behind) taken errors span) (earlier : StraysIn before front)
    (later : StraysIn after more) :
    ReadBlock lead behind (front ++ (taken ++ more)) (before ++ (errors ++ after)) span := by
  obtain @⟨outer, run, moreToo, opening, beforeToo, inside, afterToo, stop, opens, block, earlierToo,
    laterToo⟩ := read
  have earlierAll : StraysIn (before ++ beforeToo) (front ++ outer) :=
    straysIn_append.mpr ⟨earlier.mono (List.subset_append_left _ _),
      earlierToo.mono (List.subset_append_right _ _)⟩
  have laterAll : StraysIn (afterToo ++ after) (moreToo ++ more) :=
    straysIn_append.mpr ⟨laterToo.mono (List.subset_append_left _ _),
      later.mono (List.subset_append_right _ _)⟩
  rw [← List.append_assoc] at block
  have all : ReadBlock lead behind _ _ _ := .intro opens block earlierAll laterAll
  simpa only [List.append_assoc, List.cons_append] using all

theorem Statement.ReadIn.within (read : statement.ReadIn (more ++ behind) taken errors)
    (earlier : StraysIn before front) (later : StraysIn after more) :
    statement.ReadIn behind (front ++ (taken ++ more)) (before ++ (errors ++ after)) := by
  intro hasBlock
  obtain ⟨lead, isLead, block⟩ := read hasBlock
  exact ⟨lead, isLead, block.within earlier later⟩

theorem Statement.within_nil : ¬ statement.Within [] := by
  intro within
  cases within with
  | listed listed => cases listed
  | inside around => cases around

theorem Statement.within_append_iff {statements others : List Statement} :
    statement.Within (statements ++ others) ↔
      statement.Within statements ∨ statement.Within others := by
  constructor
  · intro within
    cases within with
    | listed listed => exact (List.mem_append.mp listed).imp .listed .listed
    | inside around inside =>
        exact (List.mem_append.mp around).imp (.inside · inside) (.inside · inside)
  · rintro (within | within)
    · exact within.mono (List.subset_append_left _ _)
    · exact within.mono (List.subset_append_right _ _)

theorem Statement.within_conditional_iff {name condition : Text} {inner : List Statement}
    {span : Span} : statement.Within [.conditional name condition inner span] ↔
      statement = .conditional name condition inner span ∨ statement.Within inner := by
  constructor
  · intro within
    cases within with
    | listed listed => exact .inl (List.mem_singleton.mp listed)
    | inside around inside =>
        cases List.mem_singleton.mp around
        exact .inr inside
  · rintro (rfl | inside)
    · exact .listed List.mem_cons_self
    · exact .inside List.mem_cons_self inside

end Runs

namespace Cursor

variable {c next last : Cursor} {nested : Bool} {statements others : List Statement}
  {taken front behind : List Token} {errors before after : List ParseError}

/-- What reading statements finds. -/
structure Found (nested : Bool) (next : Cursor) (statements : List Statement) (taken : List Token)
    (errors : List ParseError) : Prop where
  counted : nested = true → next.Counted taken errors
  straysIn : StraysIn errors taken
  blocks : ∀ statement : Statement, statement.Within statements →
    statement.ReadIn next.rest taken errors

section Finding

theorem Found.append (first : Found nested next statements front before)
    (whole : next.rest = behind ++ last.rest) (later : Found nested last others behind after) :
    Found nested last (statements ++ others) (front ++ behind) (before ++ after) where
  counted isNested := (first.counted isNested).append whole (later.counted isNested)
  straysIn := straysIn_append.mpr ⟨first.straysIn.mono (List.subset_append_left _ _),
    later.straysIn.mono (List.subset_append_right _ _)⟩
  blocks statement within := by
    rcases Statement.within_append_iff.mp within with within | within
    · have read := first.blocks statement within
      rw [whole] at read
      have none : StraysIn [] ([] : List Token) := straysIn_nil
      exact read.within none later.straysIn
    · have read : statement.ReadIn ([] ++ last.rest) behind after := later.blocks statement within
      have none : StraysIn [] ([] : List Token) := straysIn_nil
      simpa using read.within first.straysIn none

theorem found_nil (counted : next.Counted taken errors) : Found nested next [] taken errors :=
  ⟨fun _ => counted, counted.straysIn, fun _ within => absurd within Statement.within_nil⟩

/-- A statement without a block is found wherever its braces are counted. -/
theorem found_flat {statement? : Option Statement} (counted : next.Counted taken errors)
    (flat : ∀ statement ∈ statement?, statement.hasBlock = false) :
    Found nested next statement?.toList taken errors := by
  refine ⟨fun _ => counted, counted.straysIn, fun statement within hasBlock => ?_⟩
  cases within with
  | listed listed =>
      rw [flat statement (Option.mem_toList.mp listed)] at hasBlock
      cases hasBlock
  | inside around => cases flat _ (Option.mem_toList.mp around)

/-- A step reads a statement or none, and at least one token. -/
def TakesStatement (c : Cursor) (nested : Bool) (result : Option Statement × Cursor) : Prop :=
  c.Takes result.2 fun taken errors => taken ≠ [] ∧ Found nested result.2 result.1.toList taken errors

theorem TakesStatement.shorter {result : Option Statement × Cursor}
    (takes : c.TakesStatement nested result) (countable : Countable c.rest) :
    result.2.rest.length < c.rest.length := by
  obtain ⟨taken, _, whole, -, notEmpty, -⟩ := takes countable
  rw [whole, List.length_append]
  have := List.length_pos_iff.mpr notEmpty
  omega

theorem takesStatement_flat {statement? : Option Statement} (counts : c.Counts next)
    (shorter : Countable c.rest → next.rest.length < c.rest.length)
    (flat : ∀ statement ∈ statement?, statement.hasBlock = false) :
    c.TakesStatement nested (statement?, next) := by
  intro countable
  obtain ⟨taken, errors, whole, added, counted⟩ := counts countable
  refine ⟨taken, errors, whole, added, ?_, found_flat counted flat⟩
  rintro rfl
  have read := shorter countable
  rw [whole] at read
  exact Nat.lt_irrefl _ read

/-- What is read for a statement without a block goes on behind its first token. -/
theorem takesStatement_step {statement? : Option Statement} (isFlat : c.kind.weight = 0)
    (inside : c.kind ≠ .endOfInput) (counts : c.advance.Counts next)
    (flat : ∀ statement ∈ statement?, statement.hasBlock = false) :
    c.TakesStatement nested (statement?, next) :=
  takesStatement_flat ((counts_advance isFlat).trans counts)
    (fun countable => shorter_of_advance inside countable counts) flat

end Finding

section Rules

/-- Giving up on a rule, wherever in it, reads something. -/
theorem takesStatement_skip (counts : c.Counts last) (inside : c.kind ≠ .endOfInput)
    (notClosing : c.kind ≠ .closeBrace) (notSemicolon : c.kind ≠ .semicolon) :
    c.TakesStatement nested (none, last.skipStatement) := by
  refine takesStatement_flat (counts.trans last.counts_skipStatement) (fun countable => ?_) nofun
  obtain ⟨taken, -, whole, -⟩ := counts countable
  have behind : Countable last.rest := countable.later ⟨taken, whole.symm⟩
  cases taken with
  | nil =>
      have same := kind_congr whole inside
      rw [same] at inside notClosing notSemicolon
      rw [whole]
      exact shorter_skipStatement inside notClosing notSemicolon behind
  | cons token taken =>
      have skipped := last.counts_skipStatement.length_le behind
      rw [whole, List.length_append, List.length_cons]
      omega

/-- A block that is found is read behind whatever leads to it. -/
theorem FoundBlock.read {lead : List Token} (found : c.FoundBlock next taken errors)
    (opens : c.kind = .openBrace) (earlier : StraysIn before front) :
    ReadBlock lead next.rest (front ++ (lead ++ taken)) (before ++ errors)
      ⟨(lead.headD c.current).span.start, next.lastEnd⟩ := by
  obtain ⟨run, rfl, block⟩ := found
  have block : BlockRun ([] ++ next.rest) run errors next.lastEnd := block
  have read : ReadBlock lead next.rest _ _ _ := .intro opens block earlier straysIn_nil
  simpa using read

theorem takes_parseRule (c : Cursor) (keeps : c.KeepsRuns) (inside : c.kind ≠ .endOfInput)
    (notClosing : c.kind ≠ .closeBrace) (notSemicolon : c.kind ≠ .semicolon) :
    c.TakesStatement nested c.parseRule := by
  rw [parseRule]
  have keepsSelectors : KeepsSelectors c.rest (c.parseSelectorList .openBrace).2.rest :=
    fun ahead uncounted within read isRun => keeps _ (.selector within read isRun)
  obtain ⟨error, last, parsed, failed, quiet⟩ | ⟨selectors, last, parsed, through⟩ :=
    exists_counts_parseSelectorList keepsSelectors
  · rw [parsed]
    have recorded : last.Counts { last with errors := last.errors ++ [error] } :=
      takes_of_rest (List.nil_append _).symm rfl ⟨0, strays_single quiet ▸ .nil, .inl rfl⟩
    exact takesStatement_skip (failed.trans recorded) inside notClosing notSemicolon
  rw [parsed]
  dsimp only
  split
  case isTrue opens =>
    refine (Takes.trans through (takes_parseBlock opens)).imp ?_
    rintro _ _ ⟨front, taken, before, errors, rfl, rfl, -, whole, counted, block⟩
    have straysBefore := counted.straysIn
    have counted := counted.append whole (block.counted opens)
    refine ⟨?_, fun _ => counted, counted.straysIn, fun statement within _ => ?_⟩
    · obtain ⟨run, rfl, -⟩ := block
      simp
    cases within with
    | inside around => cases List.mem_singleton.mp around
    | listed listed =>
        cases List.mem_singleton.mp listed
        exact ⟨[], rfl, block.read opens straysBefore⟩
  case isFalse notOpening =>
    have absent : last.Counts (last.expect .openBrace) := by
      rw [expect, if_neg notOpening]
      split
      · exact counts_report _ (by simp [ParseError.IsStray])
      · exact counts_report _ (by simp [ParseError.IsStray])
    exact takesStatement_skip (through.trans absent) inside notClosing notSemicolon

end Rules

section AtRules

theorem encloses_trivia {trivia : List Token} {ls : List Lexeme}
    (all : ∀ token ∈ trivia, token.isTrivia = true) (encloses : Fence.ofPrelude.Encloses 0 ls) :
    Fence.ofPrelude.Encloses 0 (trivia.map Token.lexeme ++ ls) := by
  induction trivia with
  | nil => exact encloses
  | cons token rest inductionHypothesis =>
      rw [List.forall_mem_cons] at all
      obtain ⟨isTrivia, later⟩ := all
      have goesOn : token.kind ∉ Fence.ofPrelude.stops ∧ Fence.ofPrelude.step 0 token.kind = 0 := by
        rw [Token.isTrivia] at isTrivia
        revert isTrivia
        cases token.kind <;> simp [Kind.isTrivia, Fence.ofPrelude, Fence.outsideParens, Fence.parenDepth]
      refine .cons (fun stops => goesOn.1 stops.2) ?_
      rw [lexeme_kind, goesOn.2]
      exact inductionHypothesis later

/-- An at-rule reads its prelude from its keyword on, and reports nothing. -/
theorem takes_prelude (isKeyword : c.kind = .atKeyword)
    (balanced : Balanced (run [.openBrace, .semicolon, .closeBrace] c.advance.skipTrivia.rest)) :
    c.Takes c.prelude.2 fun taken errors => errors = [] ∧ c.prelude.2.Counted taken errors ∧
      ∃ head, taken = c.current :: head ∧
        (c.prelude.2.rest ≠ [] → Fence.ofPrelude.Encloses 0 (head.map Token.lexeme)) := by
  intro countable
  obtain ⟨keyword, tail, whole⟩ := exists_rest_of_kind (c := c) (by rw [isKeyword]; decide)
  have behind : c.advance.skipTrivia.rest = tail.dropWhile Token.isTrivia := by
    rw [skipTrivia, rest_advance whole]
  have counts : c.Counts c.prelude.2 :=
    (counts_step (by rw [isKeyword]; rfl)).trans (counts_readRaw (by decide) balanced)
  have left : c.prelude.2.rest = (Fence.ofPrelude.split 0 (tail.dropWhile Token.isTrivia)).2 := by
    rw [prelude, readRaw, behind, Fence.splitRaw_eq _ (by decide)]
    rfl
  obtain ⟨taken, errors, read, added, counted⟩ := counts countable
  refine ⟨taken, errors, read, added, List.self_eq_append_right.mp added, counted,
    tail.takeWhile Token.isTrivia ++ (Fence.ofPrelude.split 0 (tail.dropWhile Token.isTrivia)).1,
    ?_, fun notEnd => ?_⟩
  · have cut : taken ++ c.prelude.2.rest = (keyword :: (tail.takeWhile Token.isTrivia ++
        (Fence.ofPrelude.split 0 (tail.dropWhile Token.isTrivia)).1)) ++ c.prelude.2.rest := by
      rw [← read, whole, left, List.cons_append, List.append_assoc, Fence.split_append,
        List.takeWhile_append_dropWhile]
    rw [current_of_rest whole]
    exact List.append_cancel_right cut
  · rw [List.map_append]
    obtain ⟨stop, rest, stops⟩ := List.exists_cons_of_ne_nil notEnd
    exact encloses_trivia (fun _ => List.mem_takeWhile_imp)
      (Fence.encloses_of_split (left ▸ stops)).2

/-- An at-rule with a block is found with its prelude in front of it, and so is what the block holds. -/
theorem takesStatement_block {statement : Statement} {inner : List Statement}
    (isKeyword : c.kind = .atKeyword)
    (balanced : Balanced (run [.openBrace, .semicolon, .closeBrace] c.advance.skipTrivia.rest))
    (opens : c.prelude.2.kind = .openBrace)
    (block : c.prelude.2.Takes last fun taken errors => c.prelude.2.FoundBlock last taken errors ∧
      ∀ other : Statement, other.Within inner → other.ReadIn last.rest taken errors)
    (parts : ∀ other : Statement, other.Within [statement] → other = statement ∨ other.Within inner)
    (isLead : ∀ lead, LeadsAtRule lead → statement.IsLead lead)
    (spans : statement.blockSpan = ⟨c.current.span.start, last.lastEnd⟩) :
    c.TakesStatement nested (some statement, last) := by
  refine (Takes.trans (takes_prelude isKeyword balanced) block).imp ?_
  rintro _ _ ⟨_, taken, _, errors, rfl, rfl, -, whole, ⟨rfl, counted, head, rfl, encloses⟩, found,
    inside⟩
  have counted := counted.append whole (found.counted opens)
  have earlier : StraysIn [] (c.current :: head) := straysIn_nil
  refine ⟨List.cons_ne_nil _ _, fun _ => counted, counted.straysIn, fun other within => ?_⟩
  rcases parts other within with rfl | within
  · refine fun _ => ⟨c.current :: head, isLead _ ⟨_, _, rfl, isKeyword, encloses ?_⟩, ?_⟩
    · obtain ⟨run, rfl, -⟩ := found
      simp [whole]
    · rw [spans]
      have none : StraysIn [] ([] : List Token) := straysIn_nil
      exact found.read opens none
  · have read : other.ReadIn ([] ++ last.rest) taken errors := inside other within
    have none : StraysIn [] ([] : List Token) := straysIn_nil
    simpa using read.within earlier none

/-- An at-rule whose block holds no statements is found where its block is. -/
theorem takesStatement_atRule {name text : Text} {body : AtRuleBody} (isKeyword : c.kind = .atKeyword)
    (balanced : Balanced (run [.openBrace, .semicolon, .closeBrace] c.advance.skipTrivia.rest))
    (opens : c.prelude.2.kind = .openBrace)
    (block : c.prelude.2.Takes last (c.prelude.2.FoundBlock last)) :
    c.TakesStatement nested
      (some (.atRule name text (some body) ⟨c.current.span.start, last.lastEnd⟩), last) := by
  have found : c.prelude.2.Takes last fun taken errors => c.prelude.2.FoundBlock last taken errors ∧
      ∀ other : Statement, other.Within [] → other.ReadIn last.rest taken errors :=
    block.imp fun _ _ found => ⟨found, fun _ within => absurd within Statement.within_nil⟩
  refine takesStatement_block isKeyword balanced opens found (fun other within => ?_)
    (fun _ leads => leads) rfl
  cases within with
  | listed listed => exact .inl (List.mem_singleton.mp listed)
  | inside around => cases List.mem_singleton.mp around

theorem counts_parseImport (start : Nat) (c : Cursor)
    (keeps : c.skipTrivia.kind ∈ [.string, .url] →
      Balanced (run [.semicolon, .openBrace, .closeBrace] c.skipTrivia.advance.skipTrivia.rest)) :
    c.Counts (c.parseImport start).2 := by
  refine parseImport_cases ?media ?refused
  case media =>
    intro target isTarget
    have flat := Kind.weight_of_mem isTarget (by decide) (by decide)
    rw [parseMedia]
    exact ((c.counts_skipTrivia.trans (counts_step flat)).trans
      (counts_readRaw (by decide) (keeps isTarget))).trans (counts_expect rfl _)
  case refused =>
    exact (c.counts_skipTrivia.trans (counts_report _ (by simp [ParseError.IsStray]))).trans
      (counts_skipStatement _)

theorem parseImport_flat (start : Nat) (c : Cursor) :
    ∀ statement ∈ (c.parseImport start).1, statement.hasBlock = false := by
  refine parseImport_cases ?media ?refused
  case media =>
    rintro _ _ _ ⟨⟩
    rfl
  case refused => nofun

/-- A step reads statements up to the end of the block around them, if there is one. -/
def TakesStatements (c : Cursor) (nested : Bool) (result : List Statement × Cursor) : Prop :=
  c.Takes result.2 fun taken errors => Found nested result.2 result.1 taken errors ∧
    (nested = true → result.2.kind = .closeBrace ∨ result.2.rest = [])

/-- What a block holds is found around it. -/
theorem takes_nested (opens : c.kind = .openBrace) (countable : Countable c.rest)
    (inner : c.advance.TakesStatements true (statements, last)) :
    c.Takes (last.expect .closeBrace) fun taken errors =>
      c.FoundBlock (last.expect .closeBrace) taken errors ∧ ∀ other : Statement,
        other.Within statements → other.ReadIn (last.expect .closeBrace).rest taken errors := by
  obtain ⟨_, _, _, _, -, ends⟩ := inner (countable_advance countable)
  have body : c.advance.Takes last fun taken errors => last.Counted taken errors ∧
      ∀ other : Statement, other.Within statements → other.ReadIn last.rest taken errors :=
    Takes.imp inner fun _ _ found => ⟨found.1.counted rfl, found.1.blocks⟩
  refine (takes_block opens body (ends rfl)).imp ?_
  rintro _ _ ⟨found, taken, more, before, after, rfl, rfl, quiet, left, holds⟩
  refine ⟨found, fun other within => ?_⟩
  have read : other.ReadIn (more ++ (last.expect .closeBrace).rest) taken before := by
    rw [← left]
    exact holds other within
  have earlier : StraysIn [] [c.current] := straysIn_nil
  have later : StraysIn after more := by
    intro e listed isStray
    have stray : e.span ∈ strays after := mem_strays_iff.mpr ⟨e, listed, isStray, rfl⟩
    rw [quiet] at stray
    cases stray
  exact read.within earlier later

/-- Every kind of at-rule is found, where the statements of a nested block are. -/
theorem takesStatement_parseAtRule_of (keeps : c.KeepsRuns) (isKeyword : c.kind = .atKeyword)
    (inner : conditionalNames.contains (Text.lower c.atName) = true → c.prelude.2.kind = .openBrace →
      c.prelude.2.advance.rest.length < c.rest.length → c.prelude.2.advance.TakesStatements true
        (c.prelude.2.advance.parseStatements true)) : c.TakesStatement nested c.parseAtRule := by
  have inside : c.kind ≠ .endOfInput := by rw [isKeyword]; decide
  have isFlat : c.kind.weight = 0 := by rw [isKeyword]; rfl
  by_cases isDefinition : c.AtDefinition
  · rw [parseAtRule_definition isDefinition]
    refine takesStatement_step isFlat inside (counts_parseAssignment c) fun statement parsed => ?_
    obtain ⟨d, -, rfl⟩ := Option.map_eq_some_iff.mp parsed
    rfl
  by_cases isImport : Text.lower c.atName = "import".toList
  · rw [parseAtRule_import isImport]
    exact takesStatement_step isFlat inside
      (counts_parseImport _ _ fun isTarget => keeps _ (.media isKeyword isImport isTarget))
      (parseImport_flat _ _)
  refine Takes.given fun countable => ?_
  have balanced := keeps _ (.prelude isKeyword isDefinition isImport)
  have read := takes_prelude isKeyword balanced
  have prelude : c.Counts c.prelude.2 := read.imp fun _ _ found => found.2.1
  obtain ⟨_, _, whole, -, -, -, head, rfl, -⟩ := read countable
  have shorter : c.prelude.2.rest.length < c.rest.length := by
    rw [whole, List.cons_append, List.length_cons, List.length_append]
    omega
  have behind : Countable c.prelude.2.rest := countable.later ⟨_, whole.symm⟩
  refine parseAtRule_prelude_cases isDefinition isImport ?semicolon ?conditional ?declarations ?raw
    ?broken
  case semicolon =>
    intro semicolon
    have through : c.prelude.2.Counts c.prelude.2.advance := counts_advance (by rw [semicolon]; rfl)
    refine takesStatement_flat (prelude.trans through)
      (fun _ => (through.length_le behind).trans_lt shorter) ?_
    rintro _ ⟨⟩
    rfl
  case conditional =>
    intro opens isConditional shorter
    exact takesStatement_block isKeyword balanced opens
      (takes_nested opens behind (inner isConditional opens shorter))
      (fun _ => Statement.within_conditional_iff.mp)
      (fun _ leads => leads) rfl
  case declarations =>
    exact fun opens _ _ => takesStatement_atRule isKeyword balanced opens (takes_parseBlock opens)
  case raw =>
    exact fun opens _ _ => takesStatement_atRule isKeyword balanced opens (takes_readBlock opens)
  case broken =>
    have through : c.prelude.2.Counts (c.prelude.2.expect .semicolon) := counts_expect rfl _
    exact takesStatement_flat (prelude.trans through)
      (fun _ => (through.length_le behind).trans_lt shorter) (by rintro _ ⟨⟩)

end AtRules

section Statements

theorem takesStatement_parseStatement_of (keeps : c.KeepsRuns) (inside : c.kind ≠ .endOfInput)
    (notClosing : c.kind ≠ .closeBrace)
    (atRule : c.kind = .atKeyword → c.TakesStatement nested c.parseAtRule) :
    c.TakesStatement nested c.parseStatement := by
  refine parseStatement_cases ?separator ?comment ?stray ?atRule ?rule
  case separator =>
    intro separates
    have flat := Kind.weight_of_mem separates (by decide) (by decide)
    exact takesStatement_step flat inside (Counts.refl _) nofun
  case comment =>
    intro isComment
    refine takesStatement_step (by rw [isComment]; rfl) inside (Counts.refl _) ?_
    rintro _ ⟨⟩
    rfl
  case stray => exact fun closes => absurd closes notClosing
  case atRule => exact atRule
  case rule => exact fun notSemicolon _ => takes_parseRule c keeps inside notClosing notSemicolon

/-- A closing brace between the statements of the top level is reported and dropped. -/
theorem takesStatement_dropped (closes : c.kind = .closeBrace) :
    c.TakesStatement false c.parseStatement := by
  obtain ⟨closing, tail, whole⟩ := exists_rest_of_kind (c := c) (by rw [closes]; decide)
  have dropped : c.parseStatement = (none, (c.unexpected .statement).advance) := by
    rw [parseStatement, closes]
  have read : c.rest = [closing] ++ (c.unexpected .statement).advance.rest :=
    read_advance (c := c.unexpected .statement) whole
  rw [dropped]
  exact takes_of_rest read rfl ⟨List.cons_ne_nil _ _, fun isNested => absurd isNested Bool.false_ne_true,
    straysIn_single (by simp [ParseError.IsStray]), fun _ within => absurd within Statement.within_nil⟩

variable {start : Cursor}

mutual

theorem takes_parseStatements (keeps : ∀ c, start.Reaches c → c.KeepsRuns) (nested : Bool) (c : Cursor)
    (reached : start.Reaches c) : c.TakesStatements nested (c.parseStatements nested) := by
  refine Takes.given fun countable => ?_
  have first (inside : c.kind ≠ .endOfInput) (unclosed : nested = true → c.kind ≠ .closeBrace) :
      c.TakesStatement nested c.parseStatement := by
    by_cases dropped : c.kind = .closeBrace
    · obtain rfl : nested = false := by simpa using mt unclosed (not_not.mpr dropped)
      exact takesStatement_dropped dropped
    · exact takesStatement_parseStatement_of (keeps c reached) inside dropped
        (takes_parseAtRule keeps nested c reached)
  refine parseStatements_cases ?ends ?closes ?more ?stuck
  case ends =>
    intro ends
    have nothing := rest_of_end countable ends
    cases nested with
    | false => exact (Counts.refl c).imp fun _ _ counted => ⟨found_nil counted, nofun⟩
    | true =>
        exact (counts_report (.unexpectedEnd (.token .closeBrace)) (by simp [ParseError.IsStray])).imp
          fun _ _ counted => ⟨found_nil counted, fun _ => .inr nothing⟩
  case closes =>
    intro _ closes
    exact (Counts.refl c).imp fun _ _ counted => ⟨found_nil counted, fun _ => .inl closes⟩
  case more =>
    intro inside unclosed shorter
    have later := takes_parseStatements keeps nested c.parseStatement.2 (.onward reached)
    refine (Takes.trans (first inside unclosed) later).imp ?_
    rintro _ _ ⟨front, behind, before, after, rfl, rfl, -, whole, ⟨-, found⟩, later, ends⟩
    exact ⟨found.append whole later, ends⟩
  case stuck =>
    exact fun inside unclosed stuck => absurd ((first inside unclosed).shorter countable) stuck
termination_by 2 * c.rest.length + 1

theorem takes_parseAtRule (keeps : ∀ c, start.Reaches c → c.KeepsRuns) (nested : Bool) (c : Cursor)
    (reached : start.Reaches c) (isKeyword : c.kind = .atKeyword) :
    c.TakesStatement nested c.parseAtRule :=
  takesStatement_parseAtRule_of (keeps c reached) isKeyword fun isConditional opens _ =>
    takes_parseStatements keeps true c.prelude.2.advance (.inward reached isKeyword isConditional opens)
termination_by 2 * c.rest.length

end

end Statements

end Cursor

end ComponentStyles
