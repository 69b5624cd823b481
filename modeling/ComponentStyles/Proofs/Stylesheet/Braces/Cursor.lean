import ComponentStyles.Proofs.Stylesheet.Braces.Balance
import ComponentStyles.Proofs.Stylesheet.Parser.Statement
import Mathlib.Data.List.TakeWhile

/-!
# Steps that count braces

A step of the parser counts braces if the tokens that it reads are a walk that comes back to its level,
with the braces that it reports and forgets as strays. Only at the end of the text a block may be left
open. Runs that are kept as written are read without counting; they come back only where they are
balanced themselves.
-/

namespace ComponentStyles

open Token

/-- An opening brace where a value or a declaration is expected: it is reported and forgotten. -/
def ParseError.IsStray (e : ParseError) : Prop :=
  e.problem = .unexpectedToken .value .openBrace ∨ e.problem = .unexpectedToken .declaration .openBrace

instance (e : ParseError) : Decidable e.IsStray :=
  inferInstanceAs (Decidable (_ ∨ _))

/-- Where the errors put down strays. -/
def strays (errors : List ParseError) : List Span :=
  (errors.filter fun e => decide e.IsStray).map ParseError.span

/-- The strays of the errors are opening braces among the tokens. -/
def StraysIn (errors : List ParseError) (tokens : List Token) : Prop :=
  ∀ e ∈ errors, e.IsStray → ∃ token ∈ tokens, token.kind = .openBrace ∧ token.span = e.span

/-- The tokens in front of the first stop outside parentheses. -/
def run (stops : List Kind) (tokens : List Token) : List Token :=
  (Cursor.splitRaw stops 0 tokens).1

/-- Runs of tokens that are read in a usage without counting braces, with the tokens from the usage on. -/
inductive UsageRun : List Token → List Token → Prop where
  /-- The inside of a usage that does not start with a name. -/
  | unnamed {usage : Token} {rest : List Token} (isFunction : usage.kind = .function)
      (isVar : Text.sameLetters usage.text.dropLast "var".toList = true)
      (notName : ∀ token ∈ (rest.dropWhile Token.isTrivia).head?, token.kind ≠ .identifier) :
      UsageRun (usage :: rest)
        (run [.closeParen, .semicolon, .closeBrace] (rest.dropWhile Token.isTrivia))
  /-- A closing brace in the place of the fallback of a usage. -/
  | fallback {usage name comma brace : Token} {rest behind : List Token}
      (isFunction : usage.kind = .function)
      (isVar : Text.sameLetters usage.text.dropLast "var".toList = true)
      (inside : rest.filter (fun token => !token.isTrivia) = name :: comma :: brace :: behind)
      (isName : name.kind = .identifier) (isComma : comma.kind = .comma)
      (closes : brace.kind = .closeBrace) : UsageRun (usage :: rest) [brace]

/-- Whatever is read in a usage without counting braces is balanced. -/
def KeepsUsages (tokens : List Token) : Prop :=
  ∀ ahead uncounted, ahead <:+ tokens → UsageRun ahead uncounted → Balanced uncounted

/-- Tokens that can be read with their braces counted. The end of the text is not one of them. -/
structure Countable (tokens : List Token) : Prop where
  inside : ∀ token ∈ tokens, token.kind ≠ .endOfInput
  keeps : KeepsUsages tokens

section Strays

variable {errors more : List ParseError} {tokens others : List Token}

@[simp] theorem strays_nil : strays [] = [] := rfl

@[simp] theorem strays_append : strays (errors ++ more) = strays errors ++ strays more := by
  simp [strays]

theorem strays_single {e : ParseError} (quiet : ¬ e.IsStray) : strays [e] = [] := by
  simp [strays, quiet]

theorem strays_single_of_isStray {e : ParseError} (isStray : e.IsStray) : strays [e] = [e.span] := by
  simp [strays, isStray]

theorem mem_strays_iff {span : Span} :
    span ∈ strays errors ↔ ∃ e ∈ errors, e.IsStray ∧ e.span = span := by
  simp [strays, and_assoc]

theorem straysIn_nil : StraysIn [] tokens :=
  nofun

theorem straysIn_append :
    StraysIn (errors ++ more) tokens ↔ StraysIn errors tokens ∧ StraysIn more tokens :=
  List.forall_mem_append

theorem StraysIn.mono (straysIn : StraysIn errors tokens) (within : tokens ⊆ others) :
    StraysIn errors others := by
  intro e listed isStray
  obtain ⟨token, member, found⟩ := straysIn e listed isStray
  exact ⟨token, within member, found⟩

theorem straysIn_single {e : ParseError} (quiet : ¬ e.IsStray) : StraysIn [e] tokens := by
  intro other listed isStray
  obtain rfl := List.mem_singleton.mp listed
  exact absurd isStray quiet

theorem Countable.later (countable : Countable tokens) (suffix : others <:+ tokens) :
    Countable others where
  inside token listed := countable.inside token (suffix.subset listed)
  keeps ahead uncounted within := countable.keeps ahead uncounted (within.trans suffix)

end Strays

namespace Cursor

variable {c next last : Cursor} {found foundToo : List Token → List ParseError → Prop}

/-- A step from one cursor to another one reads tokens and records errors of which `found` holds,
provided that what lies ahead is countable. -/
def Takes (c next : Cursor) (found : List Token → List ParseError → Prop) : Prop :=
  Countable c.rest → ∃ taken errors, c.rest = taken ++ next.rest ∧
    next.errors = c.errors ++ errors ∧ found taken errors

/-- What is read comes back to its level, or goes on to the end of the text. -/
def Counted (next : Cursor) (taken : List Token) (errors : List ParseError) : Prop :=
  ∃ level, Walk 0 taken (strays errors) level ∧ (level = 0 ∨ next.rest = [])

/-- A step that counts the braces that it reads. -/
def Counts (c next : Cursor) : Prop :=
  c.Takes next next.Counted

section Takes

theorem Takes.imp (takes : c.Takes next found)
    (imp : ∀ taken errors, found taken errors → foundToo taken errors) : c.Takes next foundToo := by
  intro countable
  obtain ⟨taken, errors, whole, added, holds⟩ := takes countable
  exact ⟨taken, errors, whole, added, imp taken errors holds⟩

theorem Takes.given (takes : Countable c.rest → c.Takes next found) : c.Takes next found :=
  fun countable => takes countable countable

theorem Takes.trans (first : c.Takes next found) (second : next.Takes last foundToo) :
    c.Takes last fun taken errors => ∃ front behind before after,
      taken = front ++ behind ∧ errors = before ++ after ∧ c.rest = front ++ next.rest ∧
        next.rest = behind ++ last.rest ∧ found front before ∧ foundToo behind after := by
  intro countable
  obtain ⟨front, before, whole, added, holds⟩ := first countable
  obtain ⟨behind, after, wholeToo, addedToo, holdsToo⟩ :=
    second (countable.later ⟨front, whole.symm⟩)
  refine ⟨front ++ behind, before ++ after, ?_, ?_, front, behind, before, after, rfl, rfl, whole,
    wholeToo, holds, holdsToo⟩
  · rw [whole, wholeToo, List.append_assoc]
  · rw [addedToo, added, List.append_assoc]

theorem Takes.length_le (takes : c.Takes next found) (countable : Countable c.rest) :
    next.rest.length ≤ c.rest.length := by
  obtain ⟨taken, errors, whole, -⟩ := takes countable
  rw [whole, List.length_append]
  exact Nat.le_add_left _ _

theorem takes_of_rest {taken : List Token} {errors : List ParseError}
    (whole : c.rest = taken ++ next.rest) (added : next.errors = c.errors ++ errors)
    (holds : found taken errors) : c.Takes next found :=
  fun _ => ⟨taken, errors, whole, added, holds⟩

theorem read_advance {token : Token} {tail : List Token} (whole : c.rest = token :: tail) :
    c.rest = [token] ++ c.advance.rest := by
  rw [rest_advance whole]
  exact whole

theorem Counted.straysIn {taken : List Token} {errors : List ParseError}
    (counted : next.Counted taken errors) : StraysIn errors taken := by
  obtain ⟨level, walk, -⟩ := counted
  intro e listed isStray
  exact walk.mem_strays (mem_strays_iff.mpr ⟨e, listed, isStray, rfl⟩)

theorem Counted.append {front behind : List Token} {before after : List ParseError}
    (counted : next.Counted front before) (whole : next.rest = behind ++ last.rest)
    (later : last.Counted behind after) : last.Counted (front ++ behind) (before ++ after) := by
  obtain ⟨level, walk, back⟩ := counted
  obtain ⟨levelToo, walkToo, backToo⟩ := later
  rw [Counted, strays_append]
  rcases back with rfl | ends
  · exact ⟨levelToo, walk.append walkToo, backToo⟩
  · -- At the end of the text nothing is left to be read.
    rw [ends] at whole
    obtain ⟨rfl, rest⟩ := List.append_eq_nil_iff.mp whole.symm
    generalize strays after = later at walkToo
    cases walkToo
    refine ⟨level, ?_, .inr rest⟩
    simpa using walk

theorem Counts.refl (c : Cursor) : c.Counts c :=
  takes_of_rest (List.nil_append _).symm (List.append_nil _).symm ⟨0, .nil, .inl rfl⟩

theorem Counts.trans (first : c.Counts next) (second : next.Counts last) : c.Counts last := by
  refine (Takes.trans first second).imp ?_
  rintro _ _ ⟨front, behind, before, after, rfl, rfl, -, whole, counted, countedToo⟩
  exact counted.append whole countedToo

theorem counts_of_walk {taken : List Token} (whole : c.rest = taken ++ next.rest)
    (same : next.errors = c.errors) (walk : Walk 0 taken [] 0) : c.Counts next :=
  takes_of_rest whole (same.trans (List.append_nil _).symm) ⟨0, walk, .inl rfl⟩

end Takes

section Steps

theorem counts_flat {taken : List Token} (whole : c.rest = taken ++ next.rest)
    (same : next.errors = c.errors) (flat : ∀ token ∈ taken, token.kind.weight = 0) :
    c.Counts next :=
  counts_of_walk whole same (Walk.flat flat)

theorem counts_advance (flat : c.kind.weight = 0) : c.Counts c.advance := by
  refine counts_flat (List.take_append_drop 1 c.rest).symm rfl fun token listed => ?_
  cases whole : c.rest with
  | nil =>
      rw [whole] at listed
      cases listed
  | cons first tail =>
      rw [whole] at listed
      obtain rfl := List.mem_singleton.mp listed
      rwa [← kind_of_rest whole]

theorem weight_of_isTrivia {token : Token} (trivia : token.isTrivia = true) :
    token.kind.weight = 0 := by
  rw [Token.isTrivia] at trivia
  revert trivia
  cases token.kind <;> simp [Kind.isTrivia, Kind.weight]

theorem counts_skipTrivia (c : Cursor) : c.Counts c.skipTrivia :=
  counts_flat List.takeWhile_append_dropWhile.symm rfl fun _ listed =>
    weight_of_isTrivia (List.mem_takeWhile_imp listed)

theorem counts_step (flat : c.kind.weight = 0) : c.Counts c.advance.skipTrivia :=
  (counts_advance flat).trans (counts_skipTrivia _)

theorem counts_report (problem : Problem) (quiet : ¬ ParseError.IsStray ⟨problem, c.current.span⟩) :
    c.Counts (c.report problem) :=
  takes_of_rest (List.nil_append _).symm rfl ⟨0, strays_single quiet ▸ .nil, .inl rfl⟩

/-- A token that is reported where a value or a declaration is expected is read over. If it is an
opening brace, it is a stray. -/
theorem counts_refused {expected : Expectation} (forgets : expected = .value ∨ expected = .declaration)
    (notClosing : c.kind ≠ .closeBrace) : c.Counts (c.unexpected expected).advance := by
  by_cases opens : c.kind = .openBrace
  · obtain ⟨token, tail, whole⟩ := exists_rest_of_kind (c := c) (by rw [opens]; decide)
    have isStray : ParseError.IsStray ⟨.unexpectedToken expected c.kind, c.current.span⟩ := by
      rcases forgets with rfl | rfl
      · exact .inl (by rw [opens])
      · exact .inr (by rw [opens])
    have read : c.rest = [token] ++ (c.unexpected expected).advance.rest :=
      read_advance (c := c.unexpected expected) whole
    have walk : Walk 0 [token] [c.current.span] 0 := by
      rw [current_of_rest whole]
      exact .stray ((kind_of_rest whole).symm.trans opens) .nil
    exact takes_of_rest read rfl ⟨0, strays_single_of_isStray isStray ▸ walk, .inl rfl⟩
  · have quiet : ¬ ParseError.IsStray ⟨.unexpectedToken expected c.kind, c.current.span⟩ := by
      simp [ParseError.IsStray, opens]
    exact (counts_report _ quiet).trans (counts_advance (Kind.weight_eq_zero opens notClosing))

theorem counts_expect {kind : Kind} (flat : kind.weight = 0) (c : Cursor) :
    c.Counts (c.expect kind) := by
  rw [expect]
  split
  case isTrue same => exact counts_advance (same ▸ flat)
  case isFalse =>
    split
    · exact counts_report _ (by simp [ParseError.IsStray])
    · exact counts_report _ (by simp [ParseError.IsStray])

theorem counts_readRaw {stops : List Kind} (noBlank : Kind.whitespace ∉ stops)
    (balanced : Balanced (run stops c.rest)) : c.Counts (c.readRaw stops).2 := by
  refine counts_of_walk ?_ rfl balanced.walk
  rw [run, readRaw, Fence.splitRaw_eq stops noBlank]
  exact (Fence.split_append _ 0 c.rest).symm

/-- A run along which braces are counted. -/
theorem counts_goTo_split {fence : Fence} (counts : fence.step = Fence.braceDepth)
    (ends : .closeBrace ∈ fence.stops) :
    c.Counts (c.goTo (fence.split 0 c.rest).1 (fence.split 0 c.rest).2) := by
  obtain ⟨last, walk, left⟩ := fence.walk_split counts ends 0 c.rest
  exact takes_of_rest (fence.split_append 0 c.rest).symm (List.append_nil _).symm ⟨last, walk, left⟩

theorem counts_skipDeclaration (c : Cursor) : c.Counts c.skipDeclaration := by
  have moved : c.Counts (c.goTo (Fence.ofDeclaration.split 0 c.rest).1
      (Fence.ofDeclaration.split 0 c.rest).2) := counts_goTo_split rfl (by decide)
  simp only [skipDeclaration, Fence.splitDeclaration_eq]
  split
  case isTrue semicolon => exact moved.trans (counts_advance (by rw [semicolon]; rfl))
  case isFalse => exact moved

end Steps

end Cursor

end ComponentStyles
