import ComponentStyles.Proofs.Token.Plain
import ComponentStyles.Stylesheet.Parser.Cursor

/-!
# Moving through tokens

What lies ahead of a cursor is a row of lexemes. `Cursor.Reads` says of a step that it only moves
on and only adds errors, and what it has found out if it added none.
-/

namespace ComponentStyles.Cursor

open Token

variable {c next last : Cursor} {l : Lexeme} {ls : List Lexeme}

/-- The lexemes still to be read. -/
def lexemes (c : Cursor) : List Lexeme :=
  c.rest.map Token.lexeme

section Ahead

theorem exists_token (ahead : c.lexemes = l :: ls) :
    ∃ token rest, c.rest = token :: rest ∧ token.lexeme = l ∧ rest.map Token.lexeme = ls :=
  List.map_eq_cons_iff.mp ahead

theorem kind_of_ahead (ahead : c.lexemes = l :: ls) : c.kind = l.kind := by
  obtain ⟨token, rest, whole, rfl, _⟩ := exists_token ahead
  rw [kind, current, whole]
  rfl

theorem text_of_ahead (ahead : c.lexemes = l :: ls) : c.current.text = l.text := by
  obtain ⟨token, rest, whole, rfl, _⟩ := exists_token ahead
  rw [current, whole]
  rfl

theorem lexemes_advance (ahead : c.lexemes = l :: ls) : c.advance.lexemes = ls := by
  obtain ⟨token, rest, whole, _, rfl⟩ := exists_token ahead
  rw [lexemes, advance, goTo, whole]
  rfl

theorem lexemes_skipTrivia (c : Cursor) :
    c.skipTrivia.lexemes = c.lexemes.dropWhile Lexeme.isTrivia := by
  rw [lexemes, skipTrivia, lexemes, List.dropWhile_map]
  rfl

theorem lexemes_skipTrivia_of_solid (ahead : c.lexemes = l :: ls) (solid : l.isTrivia = false) :
    c.skipTrivia.lexemes = l :: ls := by
  rw [lexemes_skipTrivia, ahead, List.dropWhile_cons_of_neg (by simp [solid])]

theorem lexemes_skipTrivia_of_trivia (ahead : c.lexemes = l :: ls) (trivia : l.isTrivia = true) :
    c.skipTrivia.lexemes = ls.dropWhile Lexeme.isTrivia := by
  rw [lexemes_skipTrivia, ahead, List.dropWhile_cons_of_pos trivia]

theorem skipTrivia_skipTrivia (c : Cursor) : c.skipTrivia.skipTrivia = c.skipTrivia := by
  have again : (c.rest.dropWhile Token.isTrivia).dropWhile Token.isTrivia =
      c.rest.dropWhile Token.isTrivia := by
    have solid := List.head?_dropWhile_not Token.isTrivia c.rest
    cases whole : c.rest.dropWhile Token.isTrivia with
    | nil => rfl
    | cons token tail =>
        rw [whole] at solid
        exact List.dropWhile_cons_of_neg (by simpa using solid)
  rw [skipTrivia, skipTrivia, again]

theorem length_step_le (c : Cursor) : c.advance.skipTrivia.rest.length ≤ c.rest.length := by
  have := c.advance.length_skipTrivia
  have := c.length_advance
  omega

theorem expect_of_ahead (ahead : c.lexemes = l :: ls) : c.expect l.kind = c.advance :=
  if_pos (kind_of_ahead ahead)

@[simp] theorem errors_advance (c : Cursor) : c.advance.errors = c.errors := rfl

@[simp] theorem errors_skipTrivia (c : Cursor) : c.skipTrivia.errors = c.errors := rfl

@[simp] theorem errors_goTo (c : Cursor) (taken rest : List Token) :
    (c.goTo taken rest).errors = c.errors := rfl

end Ahead

section Reads

/-- A step from one cursor to another one reads tokens and may add errors. If it adds none, then
`found` holds. -/
structure Reads (c next : Cursor) (found : Prop) : Prop where
  suffix : next.rest <:+ c.rest
  errors : c.errors <+: next.errors
  found : Plain c.lexemes → next.errors = c.errors → found

variable {found foundToo : Prop}

theorem lexemes_suffix (suffix : next.rest <:+ c.rest) : next.lexemes <:+ c.lexemes :=
  suffix.map Token.lexeme

theorem Reads.imp (reads : c.Reads next found) (imp : Plain c.lexemes → found → foundToo) :
    c.Reads next foundToo :=
  ⟨reads.suffix, reads.errors, fun plain quiet => imp plain (reads.found plain quiet)⟩

theorem Reads.trans (first : c.Reads next found) (second : next.Reads last foundToo) :
    c.Reads last (found ∧ foundToo) := by
  refine ⟨second.suffix.trans first.suffix, first.errors.trans second.errors, ?_⟩
  intro plain quiet
  have quietFirst : next.errors = c.errors :=
    (first.errors.eq_of_length_le (quiet ▸ second.errors.length_le)).symm
  refine ⟨first.found plain quietFirst, second.found ?_ (quiet.trans quietFirst.symm)⟩
  exact plain.of_within (lexemes_suffix first.suffix).isInfix

theorem Reads.moves (reads : c.Reads next found) : c.Reads next True :=
  reads.imp fun _ _ => trivial

/-- Nothing is to be found out about a step that reports something. -/
theorem Reads.loud (failed : c.Reads next False) (goesOn : next.Reads last True) :
    c.Reads last found :=
  (failed.trans goesOn).imp fun _ impossible => impossible.1.elim

theorem Reads.refl (c : Cursor) : c.Reads c True :=
  ⟨List.suffix_refl _, List.prefix_refl _, fun _ _ => trivial⟩

theorem reads_of_rest (suffix : next.rest <:+ c.rest) (same : next.errors = c.errors) :
    c.Reads next True :=
  ⟨suffix, same ▸ List.prefix_refl _, fun _ _ => trivial⟩

theorem reads_advance (c : Cursor) : c.Reads c.advance True :=
  reads_of_rest (List.drop_suffix 1 c.rest) rfl

theorem reads_skipTrivia (c : Cursor) : c.Reads c.skipTrivia True :=
  reads_of_rest (List.dropWhile_suffix _) rfl

/-- A report is not quiet. -/
theorem reads_report (c : Cursor) (problem : Problem) : c.Reads (c.report problem) False := by
  refine ⟨List.suffix_refl _, List.prefix_append _ _, fun _ quiet => ?_⟩
  simp [report] at quiet

theorem reads_unexpected (c : Cursor) (expected : Expectation) :
    c.Reads (c.unexpected expected) False :=
  c.reads_report _

theorem reads_expect (c : Cursor) (kind : Kind) :
    c.Reads (c.expect kind) (c.kind = kind) := by
  rw [expect]
  split
  case isTrue same => exact c.reads_advance.imp fun _ _ => same
  case isFalse =>
    split
    · exact (c.reads_report _).imp fun _ => False.elim
    · exact (c.reads_unexpected _).imp fun _ => False.elim

variable {token : Token} {tail : List Token}

theorem kind_of_rest (whole : c.rest = token :: tail) : c.kind = token.kind := by
  rw [kind, current, whole]
  rfl

theorem current_of_rest (whole : c.rest = token :: tail) : c.current = token := by
  rw [current, whole]
  rfl

theorem rest_advance (whole : c.rest = token :: tail) : c.advance.rest = tail := by
  rw [advance, goTo, whole]
  rfl

theorem lexemes_of_rest (whole : c.rest = token :: tail) :
    c.lexemes = token.lexeme :: tail.map Token.lexeme := by
  rw [lexemes, whole, List.map_cons]

theorem exists_rest_of_kind (inside : c.kind ≠ .endOfInput) :
    ∃ token tail, c.rest = token :: tail := by
  refine List.exists_cons_of_ne_nil fun nothing => inside ?_
  rw [kind, current, nothing]
  rfl

theorem kind_congr (same : c.rest = next.rest) (inside : c.kind ≠ .endOfInput) :
    c.kind = next.kind := by
  obtain ⟨token, tail, whole⟩ := exists_rest_of_kind inside
  rw [kind_of_rest whole, kind_of_rest (same.symm.trans whole)]

theorem spells_of_cut {kind : Kind} (cut : IsCut c.lexemes) (whole : c.rest = token :: tail)
    (isKind : token.kind = kind) : kind.Spells token.text :=
  isKind ▸ cut.spells (lexemes_of_rest whole ▸ List.mem_cons_self : token.lexeme ∈ c.lexemes)

theorem tame_of_plain (plain : Plain c.lexemes) (whole : c.rest = token :: tail) :
    token.lexeme.IsTame :=
  plain.tame _ (lexemes_of_rest whole ▸ List.mem_cons_self)

end Reads

end ComponentStyles.Cursor
