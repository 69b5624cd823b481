import ComponentStyles.Json.Comment
import Mathlib.Data.List.Infix

/-!
# Comments in JSON text

Read from the left, a text consists of strings, comments and the characters in between: a comment
starts with two slashes or with a slash and a star, unless that stands in a string. Dropping comments
drops just these pieces. Nothing that is left can start a comment with what follows it now, so what is
left consists of the pieces that were kept.
-/

namespace ComponentStyles.Json

section Pieces

/-- What stands between the quotes of a string: a backslash keeps the character behind it from ending
the string. -/
inductive Quoted : Text → Prop where
  | nil : Quoted []
  | plain {c rest} : c ≠ '"' → c ≠ '\\' → Quoted rest → Quoted (c :: rest)
  | escape {c rest} : Quoted rest → Quoted ('\\' :: c :: rest)

/-- `IsLiteral text rest` says that a string is just `text` where `rest` follows. A string that does
not end reaches to the end of the whole text, maybe with a backslash that escapes nothing. -/
inductive IsLiteral : Text → Text → Prop where
  | closed {body rest} : Quoted body → IsLiteral ('"' :: (body ++ ['"'])) rest
  | unclosed {body} : Quoted body → IsLiteral ('"' :: body) []
  | unescaped {body} : Quoted body → IsLiteral ('"' :: (body ++ ['\\'])) []

/-- `IsComment text rest` says that a comment is just `text` where `rest` follows. -/
inductive IsComment : Text → Text → Prop where
  /-- Up to the next line feed or the end of the whole text. -/
  | line {body rest} : '\n' ∉ body → (∀ c ∈ rest.head?, c = '\n') →
      IsComment ('/' :: '/' :: body) rest
  /-- Through the next star and slash behind its own star. -/
  | block {body rest} : ¬ ['*', '/'] <:+: body ++ ['*'] →
      IsComment ('/' :: '*' :: (body ++ ['*', '/'])) rest
  | unclosed {body} : ¬ ['*', '/'] <:+: body → IsComment ('/' :: '*' :: body) []

/-- Whether a comment starts here, outside a string. -/
def StartsComment (text : Text) : Prop :=
  ['/', '/'] <+: text ∨ ['/', '*'] <+: text

/-- A character between strings and comments, a string or a comment. -/
inductive Piece where
  | plain (c : Char)
  | literal (text : Text)
  | comment (text : Text)
deriving DecidableEq, Repr

namespace Piece

def text : Piece → Text
  | plain c => [c]
  | literal text => text
  | comment text => text

def isLiteral : Piece → Bool
  | literal _ => true
  | _ => false

def isComment : Piece → Bool
  | comment _ => true
  | _ => false

/-- `piece.StandsBefore rest` says what the first piece of a text is, where `rest` follows it. -/
inductive StandsBefore : Piece → Text → Prop where
  | plain {c rest} : c ≠ '"' → ¬ StartsComment (c :: rest) → StandsBefore (plain c) rest
  | literal {text rest} : IsLiteral text rest → StandsBefore (literal text) rest
  | comment {text rest} : IsComment text rest → StandsBefore (comment text) rest

end Piece

/-- The pieces of a text, read from the left. -/
inductive Splits : Text → List Piece → Prop where
  | nil : Splits [] []
  | cons {piece rest pieces} : piece.StandsBefore rest → Splits rest pieces →
      Splits (piece.text ++ rest) (piece :: pieces)

/-- The pieces of a text that are no comments. -/
def kept (pieces : List Piece) : List Piece :=
  pieces.filter fun piece => !piece.isComment

end Pieces

variable {text rest body tail other : Text} {pieces others : List Piece}

theorem Splits.flatMap_text (splits : Splits text pieces) : pieces.flatMap Piece.text = text := by
  induction splits with
  | nil => rfl
  | cons _ _ inductionHypothesis => rw [List.flatMap_cons, inductionHypothesis]

theorem startsComment_cons_iff {c : Char} : StartsComment (c :: rest) ↔
    c = '/' ∧ (rest.head? = some '/' ∨ rest.head? = some '*') := by
  simp only [StartsComment, List.cons_prefix_cons, ← and_or_left, eq_comm (a := '/')]
  cases rest <;> simp [eq_comm]

theorem not_startsComment_of_ne {c : Char} (other : c ≠ '/') : ¬ StartsComment (c :: rest) := by
  rintro (starts | starts) <;> exact other (List.cons_prefix_cons.mp starts).1.symm

section Deterministic

/-- What may follow the inside of a string: a quote, or at most a backslash in front of the end. -/
def EndsQuoted (tail : Text) : Prop :=
  tail = [] ∨ tail = ['\\'] ∨ tail.head? = some '"'

theorem Quoted.eq_nil_of_ends (quoted : Quoted body) (ends : EndsQuoted other)
    (same : body ++ tail = other) : body = [] := by
  subst same
  cases quoted with
  | nil => rfl
  | plain notQuote notBackslash _ =>
      obtain nothing | backslash | quote := ends
      · cases nothing
      · exact absurd (List.cons.inj backslash).1 notBackslash
      · exact absurd (Option.some.inj quote) notQuote
  | escape _ =>
      obtain nothing | backslash | quote := ends
      · cases nothing
      · cases (List.cons.inj backslash).2
      · cases quote

theorem Quoted.unique {bodyToo tailToo : Text} (quoted : Quoted body) (quotedToo : Quoted bodyToo)
    (ends : EndsQuoted tail) (endsToo : EndsQuoted tailToo)
    (same : body ++ tail = bodyToo ++ tailToo) : body = bodyToo := by
  induction quoted generalizing bodyToo with
  | nil => exact (quotedToo.eq_nil_of_ends ends same.symm).symm
  | plain notQuote notBackslash more inductionHypothesis =>
      cases quotedToo with
      | nil => exact (Quoted.plain notQuote notBackslash more).eq_nil_of_ends endsToo same
      | plain _ _ more =>
          obtain ⟨rfl, later⟩ := List.cons.inj same
          rw [inductionHypothesis more later]
      | escape _ => exact absurd (List.cons.inj same).1 notBackslash
  | escape more inductionHypothesis =>
      cases quotedToo with
      | nil => exact (Quoted.escape more).eq_nil_of_ends endsToo same
      | plain _ notBackslash _ => exact absurd (List.cons.inj same).1.symm notBackslash
      | escape more =>
          obtain ⟨rfl, later⟩ := List.cons.inj (List.cons.inj same).2
          rw [inductionHypothesis more later]

/-- The inside of a string and what ends it. -/
theorem IsLiteral.exists_quoted (isLiteral : IsLiteral text rest) :
    ∃ body tail, Quoted body ∧ EndsQuoted tail ∧ text ++ rest = '"' :: (body ++ tail) ∧
      (tail = [] ∧ text = '"' :: body ∨ ∃ c more, tail = c :: more ∧ text = '"' :: (body ++ [c])) := by
  cases isLiteral with
  | closed quoted =>
      refine ⟨_, '"' :: rest, quoted, .inr (.inr rfl), by simp, .inr ⟨'"', rest, rfl, rfl⟩⟩
  | unclosed quoted => exact ⟨_, [], quoted, .inl rfl, by simp, .inl ⟨rfl, rfl⟩⟩
  | unescaped quoted =>
      exact ⟨_, ['\\'], quoted, .inr (.inl rfl), by simp, .inr ⟨'\\', [], rfl, rfl⟩⟩

theorem IsLiteral.unique {restToo : Text} (isLiteral : IsLiteral text rest)
    (isLiteralToo : IsLiteral other restToo) (same : text ++ rest = other ++ restToo) :
    text = other := by
  obtain ⟨body, tail, quoted, ends, whole, closing⟩ := isLiteral.exists_quoted
  obtain ⟨bodyToo, tailToo, quotedToo, endsToo, wholeToo, closingToo⟩ := isLiteralToo.exists_quoted
  have inside : body ++ tail = bodyToo ++ tailToo :=
    (List.cons.inj (whole.symm.trans (same.trans wholeToo))).2
  obtain rfl := quoted.unique quotedToo ends endsToo inside
  obtain rfl := List.append_cancel_left inside
  rcases closing with ⟨rfl, rfl⟩ | ⟨c, more, rfl, rfl⟩
  · obtain ⟨-, rfl⟩ | ⟨_, _, impossible, -⟩ := closingToo
    · rfl
    · cases impossible
  · obtain ⟨impossible, -⟩ | ⟨d, moreToo, sameToo, rfl⟩ := closingToo
    · cases impossible
    · rw [(List.cons.inj sameToo).1]

/-- Up to the first line feed a text can be cut in one way only. -/
theorem eq_of_line {bodyToo restToo : Text} (inLine : '\n' ∉ body) (inLineToo : '\n' ∉ bodyToo)
    (ends : ∀ c ∈ rest.head?, c = '\n') (endsToo : ∀ c ∈ restToo.head?, c = '\n')
    (same : body ++ rest = bodyToo ++ restToo) : body = bodyToo := by
  have line {body rest : Text} (inLine : '\n' ∉ body) (ends : ∀ c ∈ rest.head?, c = '\n') :
      (body ++ rest).takeWhile (· != '\n') = body := by
    rw [List.takeWhile_append_of_pos fun c listed => by
      simpa using fun feed : c = '\n' => inLine (feed ▸ listed)]
    cases rest with
    | nil => rw [List.takeWhile_nil, List.append_nil]
    | cons c rest => rw [ends c rfl, List.takeWhile_cons_of_neg (by simp), List.append_nil]
  rw [← line inLine ends, same, line inLineToo endsToo]

/-- Through the first star and slash a text can be cut in one way only. -/
theorem eq_of_block {bodyToo restToo : Text} (inside : ¬ ['*', '/'] <:+: body ++ ['*'])
    (insideToo : ¬ ['*', '/'] <:+: bodyToo ++ ['*'])
    (same : body ++ '*' :: '/' :: rest = bodyToo ++ '*' :: '/' :: restToo) : body = bodyToo := by
  -- A longer inside would hold the star and slash that end the shorter one.
  have nothing {body extra rest restToo : Text} (inside : ¬ ['*', '/'] <:+: (body ++ extra) ++ ['*'])
      (same : '*' :: '/' :: rest = extra ++ '*' :: '/' :: restToo) : extra = [] := by
    match extra with
    | [] => rfl
    | [c] => cases (List.cons.inj (List.cons.inj same).2).1
    | c :: d :: more =>
        obtain ⟨rfl, later⟩ := List.cons.inj same
        obtain ⟨rfl, -⟩ := List.cons.inj later
        exact absurd ⟨body, more ++ ['*'], by simp⟩ inside
  rcases List.append_eq_append_iff.mp same with ⟨extra, rfl, later⟩ | ⟨extra, rfl, later⟩
  · rw [nothing insideToo later, List.append_nil]
  · rw [nothing inside later, List.append_nil]

theorem IsComment.unique {restToo : Text} (isComment : IsComment text rest)
    (isCommentToo : IsComment other restToo) (same : text ++ rest = other ++ restToo) :
    text = other := by
  have unended {body bodyToo rest : Text} (inside : ¬ ['*', '/'] <:+: body) :
      body ≠ bodyToo ++ ['*', '/'] ++ rest := fun whole => inside ⟨bodyToo, rest, whole.symm⟩
  cases isComment with
  | line inLine ends =>
      cases isCommentToo with
      | line inLineToo endsToo =>
          rw [eq_of_line inLine inLineToo ends endsToo (List.cons.inj (List.cons.inj same).2).2]
      | block _ => cases (List.cons.inj (List.cons.inj same).2).1
      | unclosed _ => cases (List.cons.inj (List.cons.inj same).2).1
  | block inside =>
      cases isCommentToo with
      | line _ _ => cases (List.cons.inj (List.cons.inj same).2).1
      | block insideToo =>
          rw [eq_of_block inside insideToo (by simpa using same)]
      | unclosed insideToo => exact absurd (by simpa using same.symm) (unended insideToo)
  | unclosed inside =>
      cases isCommentToo with
      | line _ _ => cases (List.cons.inj (List.cons.inj same).2).1
      | block insideToo => exact absurd (by simpa using same) (unended inside)
      | unclosed _ => simpa using same

namespace Piece

variable {piece pieceToo : Piece} {restToo : Text}

theorem StandsBefore.startsComment_iff (stands : piece.StandsBefore rest) :
    StartsComment (piece.text ++ rest) ↔ piece.isComment = true := by
  cases stands with
  | plain _ notStart => simpa [text, isComment] using notStart
  | literal isLiteral =>
      cases isLiteral <;> simpa [text, isComment] using not_startsComment_of_ne (by decide)
  | comment isComment =>
      cases isComment <;> simp [text, Piece.isComment, startsComment_cons_iff]

theorem StandsBefore.head?_eq_iff (stands : piece.StandsBefore rest) :
    (piece.text ++ rest).head? = some '"' ↔ piece.isLiteral = true := by
  cases stands with
  | plain notQuote _ => simpa [text, isLiteral] using notQuote
  | literal isLiteral => cases isLiteral <;> simp [text, Piece.isLiteral]
  | comment isComment => cases isComment <;> simp [text, isLiteral]

/-- A text has only one first piece. -/
theorem StandsBefore.unique (stands : piece.StandsBefore rest)
    (standsToo : pieceToo.StandsBefore restToo)
    (same : piece.text ++ rest = pieceToo.text ++ restToo) : piece = pieceToo := by
  have comments : piece.isComment = pieceToo.isComment := by
    rw [Bool.eq_iff_iff, ← stands.startsComment_iff, same, standsToo.startsComment_iff]
  have literals : piece.isLiteral = pieceToo.isLiteral := by
    rw [Bool.eq_iff_iff, ← stands.head?_eq_iff, same, standsToo.head?_eq_iff]
  cases stands with
  | plain _ _ =>
      cases standsToo with
      | plain _ _ => exact congrArg Piece.plain (List.cons.inj same).1
      | literal _ => cases literals
      | comment _ => cases comments
  | literal isLiteral =>
      cases standsToo with
      | plain _ _ => cases literals
      | literal isLiteralToo => exact congrArg Piece.literal (isLiteral.unique isLiteralToo same)
      | comment _ => cases comments
  | comment isComment =>
      cases standsToo with
      | plain _ _ => cases comments
      | literal _ => cases comments
      | comment isCommentToo => exact congrArg Piece.comment (isComment.unique isCommentToo same)

theorem StandsBefore.text_ne_nil (stands : piece.StandsBefore rest) : piece.text ≠ [] := by
  cases stands with
  | plain _ _ => exact List.cons_ne_nil _ _
  | literal isLiteral => cases isLiteral <;> exact List.cons_ne_nil _ _
  | comment isComment => cases isComment <;> exact List.cons_ne_nil _ _

end Piece

/-- A text has no other pieces. -/
theorem Splits.unique (splits : Splits text pieces) (splitsToo : Splits text others) :
    pieces = others := by
  induction splits generalizing others with
  | nil =>
      generalize whole : ([] : Text) = text at splitsToo
      cases splitsToo with
      | nil => rfl
      | cons stands _ => exact absurd (List.append_eq_nil_iff.mp whole.symm).1 stands.text_ne_nil
  | @cons piece rest pieces stands _ inductionHypothesis =>
      generalize whole : piece.text ++ rest = text at splitsToo
      cases splitsToo with
      | nil => exact absurd (List.append_eq_nil_iff.mp whole).1 stands.text_ne_nil
      | cons standsToo more =>
          obtain rfl := stands.unique standsToo whole
          obtain rfl := List.append_cancel_left whole
          rw [inductionHypothesis more]

end Deterministic

section Dropping

theorem withoutComments_plain {c : Char} (notQuote : c ≠ '"') (notStart : ¬ StartsComment (c :: rest)) :
    withoutComments (c :: rest) = c :: withoutComments rest := by
  rw [withoutComments]
  · exact notQuote
  · rintro more rfl rfl
    exact notStart (startsComment_cons_iff.mpr ⟨rfl, .inl rfl⟩)
  · rintro more rfl rfl
    exact notStart (startsComment_cons_iff.mpr ⟨rfl, .inr rfl⟩)

theorem withoutCommentsFromString_append (quoted : Quoted body) (tail : Text) :
    withoutCommentsFromString (body ++ tail) = body ++ withoutCommentsFromString tail := by
  induction quoted with
  | nil => rfl
  | plain notQuote notBackslash _ inductionHypothesis =>
      rw [List.cons_append, withoutCommentsFromString, inductionHypothesis, List.cons_append]
      · exact fun _ _ isBackslash _ => notBackslash isBackslash
      · exact notQuote
  | escape _ inductionHypothesis =>
      rw [List.cons_append, List.cons_append, withoutCommentsFromString, inductionHypothesis,
        List.cons_append, List.cons_append]

theorem withoutComments_literal (isLiteral : IsLiteral text rest) :
    withoutComments (text ++ rest) = text ++ withoutComments rest := by
  have opened (body tail : Text) (quoted : Quoted body) :
      withoutComments ('"' :: (body ++ tail)) = '"' :: (body ++ withoutCommentsFromString tail) := by
    rw [withoutComments, withoutCommentsFromString_append quoted]
  cases isLiteral with
  | closed quoted =>
      rw [List.cons_append, List.append_assoc, opened _ _ quoted, List.singleton_append,
        withoutCommentsFromString]
      simp
  | unclosed quoted =>
      simpa [withoutComments, withoutCommentsFromString] using opened _ [] quoted
  | unescaped quoted =>
      simpa [withoutComments, withoutCommentsFromString] using opened _ ['\\'] quoted

theorem withoutCommentsFromLine_append (inLine : '\n' ∉ body) (ends : ∀ c ∈ rest.head?, c = '\n') :
    withoutCommentsFromLine (body ++ rest) = withoutComments rest := by
  induction body with
  | nil =>
      cases rest with
      | nil => rfl
      | cons c rest =>
          obtain rfl := ends c rfl
          rw [List.nil_append, withoutCommentsFromLine, withoutComments_plain (by decide)
            (not_startsComment_of_ne (by decide))]
  | cons c body inductionHypothesis =>
      obtain ⟨notFeed, inLine⟩ := not_or.mp (mt List.mem_cons.mpr inLine)
      rw [List.cons_append, withoutCommentsFromLine, inductionHypothesis inLine]
      exact fun isFeed => notFeed isFeed.symm

/-- A star and slash that are dropped do not end the comment. -/
theorem withoutCommentsFromBlock_cons {c : Char} (inside : ¬ ['*', '/'] <+: c :: rest) :
    withoutCommentsFromBlock (c :: rest) = withoutCommentsFromBlock rest := by
  rw [withoutCommentsFromBlock]
  rintro more rfl rfl
  exact inside (List.prefix_append ['*', '/'] more)

theorem withoutCommentsFromBlock_append (inside : ¬ ['*', '/'] <:+: body ++ ['*']) (rest : Text) :
    withoutCommentsFromBlock (body ++ '*' :: '/' :: rest) = withoutComments rest := by
  induction body with
  | nil => rw [List.nil_append, withoutCommentsFromBlock]
  | cons c body inductionHypothesis =>
      have later : ¬ ['*', '/'] <:+: body ++ ['*'] := fun within => inside (List.infix_cons within)
      rw [List.cons_append, withoutCommentsFromBlock_cons, inductionHypothesis later]
      cases body with
      | nil => simp
      | cons d more =>
          intro starts
          obtain ⟨rfl, behind⟩ := List.cons_prefix_cons.mp starts
          obtain ⟨rfl, -⟩ := List.cons_prefix_cons.mp behind
          exact inside ⟨[], more ++ ['*'], rfl⟩

theorem withoutCommentsFromBlock_unclosed (inside : ¬ ['*', '/'] <:+: body) :
    withoutCommentsFromBlock body = [] := by
  induction body with
  | nil => rw [withoutCommentsFromBlock]
  | cons c body inductionHypothesis =>
      rw [withoutCommentsFromBlock_cons fun starts => inside starts.isInfix]
      exact inductionHypothesis fun within => inside (List.infix_cons within)

theorem withoutComments_comment (isComment : IsComment text rest) :
    withoutComments (text ++ rest) = withoutComments rest := by
  cases isComment with
  | line inLine ends =>
      rw [List.cons_append, List.cons_append, withoutComments, withoutCommentsFromLine_append inLine ends]
  | block inside =>
      rw [List.cons_append, List.cons_append, withoutComments, List.append_assoc]
      exact withoutCommentsFromBlock_append inside rest
  | unclosed inside =>
      rw [List.append_nil]
      exact withoutCommentsFromBlock_unclosed inside

variable {piece : Piece}

theorem withoutComments_piece (stands : piece.StandsBefore rest) :
    withoutComments (piece.text ++ rest) =
      (if piece.isComment then [] else piece.text) ++ withoutComments rest := by
  cases stands with
  | plain notQuote notStart => exact withoutComments_plain notQuote notStart
  | literal isLiteral => exact withoutComments_literal isLiteral
  | comment isComment => exact withoutComments_comment isComment

theorem withoutComments_of_splits (splits : Splits text pieces) :
    withoutComments text = (kept pieces).flatMap Piece.text := by
  induction splits with
  | nil => rfl
  | @cons piece rest pieces stands _ inductionHypothesis =>
      rw [withoutComments_piece stands, inductionHypothesis, kept, kept, List.filter_cons]
      cases piece.isComment <;> rfl

/-- Dropping comments does not change what a text starts with, unless that may be a comment. -/
theorem head?_withoutComments (notSlash : text.head? ≠ some '/') :
    (withoutComments text).head? = text.head? := by
  cases text with
  | nil => rfl
  | cons c rest =>
      by_cases isQuote : c = '"'
      · subst isQuote
        rw [withoutComments]
        rfl
      · rw [withoutComments_plain isQuote (not_startsComment_of_ne fun isSlash => notSlash (isSlash ▸ rfl))]
        rfl

/-- A piece that is no comment stays a piece where the comments behind it are dropped. A slash does not
come to stand before another one: it is followed by what followed it, as that was no comment. -/
theorem Piece.StandsBefore.withoutComments (stands : piece.StandsBefore rest)
    (notComment : piece.isComment = false) : piece.StandsBefore (withoutComments rest) := by
  cases stands with
  | @plain c _ notQuote notStart =>
      refine .plain notQuote fun starts => notStart (startsComment_cons_iff.mpr ?_)
      obtain ⟨isSlash, sign⟩ := startsComment_cons_iff.mp starts
      by_cases slash : rest.head? = some '/'
      · exact ⟨isSlash, .inl slash⟩
      · exact ⟨isSlash, head?_withoutComments slash ▸ sign⟩
  | literal isLiteral =>
      cases isLiteral with
      | closed quoted => exact .literal (.closed quoted)
      | unclosed quoted => exact .literal (.unclosed quoted)
      | unescaped quoted => exact .literal (.unescaped quoted)
  | comment _ => cases notComment

theorem Splits.withoutComments (splits : Splits text pieces) :
    Splits (withoutComments text) (kept pieces) := by
  induction splits with
  | nil => exact .nil
  | @cons piece rest pieces stands _ inductionHypothesis =>
      rw [withoutComments_piece stands, kept, List.filter_cons]
      cases isComment : piece.isComment with
      | true => exact inductionHypothesis
      | false => exact .cons (stands.withoutComments isComment) inductionHypothesis

end Dropping

section Reading

theorem exists_quoted (text : Text) :
    ∃ body tail, text = body ++ tail ∧ Quoted body ∧ EndsQuoted tail := by
  induction text using List.twoStepInduction with
  | nil => exact ⟨[], [], rfl, .nil, .inl rfl⟩
  | singleton c =>
      by_cases isQuote : c = '"'
      · exact ⟨[], [c], rfl, .nil, .inr (.inr (congrArg some isQuote))⟩
      · by_cases isBackslash : c = '\\'
        · exact ⟨[], [c], rfl, .nil, .inr (.inl (congrArg (fun c => [c]) isBackslash))⟩
        · exact ⟨[c], [], rfl, .plain isQuote isBackslash .nil, .inl rfl⟩
  | cons_cons c d rest behindBoth behindFirst =>
      by_cases isQuote : c = '"'
      · exact ⟨[], c :: d :: rest, rfl, .nil, .inr (.inr (congrArg some isQuote))⟩
      · by_cases isBackslash : c = '\\'
        · subst isBackslash
          obtain ⟨body, tail, rfl, quoted, ends⟩ := behindBoth
          exact ⟨'\\' :: d :: body, tail, rfl, .escape quoted, ends⟩
        · obtain ⟨body, tail, whole, quoted, ends⟩ := behindFirst d
          exact ⟨c :: body, tail, congrArg (c :: ·) whole, .plain isQuote isBackslash quoted, ends⟩

/-- Behind a quote there is the rest of a string. -/
theorem exists_literal (text : Text) :
    ∃ inside rest, text = inside ++ rest ∧ IsLiteral ('"' :: inside) rest := by
  obtain ⟨body, tail, rfl, quoted, nothing | backslash | quote⟩ := exists_quoted text
  · exact ⟨body, tail, rfl, nothing ▸ .unclosed quoted⟩
  · exact ⟨body ++ ['\\'], [], by simp [backslash], .unescaped quoted⟩
  · obtain ⟨rest, rfl⟩ := List.head?_eq_some_iff.mp quote
    exact ⟨body ++ ['"'], rest, by simp, .closed quoted⟩

/-- Behind two slashes there is the rest of a comment. -/
theorem exists_line (text : Text) :
    ∃ inside rest, text = inside ++ rest ∧ IsComment ('/' :: '/' :: inside) rest := by
  refine ⟨text.takeWhile (· != '\n'), text.dropWhile (· != '\n'),
    List.takeWhile_append_dropWhile.symm, .line ?_ ?_⟩
  · intro listed
    have inLine := List.all_eq_true.mp (List.all_takeWhile (p := (· != '\n')) (l := text)) _ listed
    simp at inLine
  · intro c first
    have stopped := List.head?_dropWhile_not (· != '\n') text
    rw [first] at stopped
    simpa using stopped

/-- A text with a star and slash in it can be cut behind the first of them. -/
theorem exists_star_slash {text : Text} (ends : ['*', '/'] <:+: text) :
    ∃ body rest, text = body ++ '*' :: '/' :: rest ∧ ¬ ['*', '/'] <:+: body ++ ['*'] := by
  induction text with
  | nil => exact absurd (List.infix_nil.mp ends) (List.cons_ne_nil _ _)
  | cons c text inductionHypothesis =>
      by_cases here : ['*', '/'] <+: c :: text
      · obtain ⟨rest, whole⟩ := here
        exact ⟨[], rest, whole.symm, by decide⟩
      · obtain ⟨body, rest, rfl, inside⟩ :=
          inductionHypothesis ((List.infix_cons_iff.mp ends).resolve_left here)
        refine ⟨c :: body, rest, rfl, fun within => ?_⟩
        rcases List.infix_cons_iff.mp within with starts | later
        · refine here (starts.trans ?_)
          exact ⟨'/' :: rest, by simp⟩
        · exact inside later

/-- Behind a slash and a star there is the rest of a comment. -/
theorem exists_block (text : Text) :
    ∃ inside rest, text = inside ++ rest ∧ IsComment ('/' :: '*' :: inside) rest := by
  by_cases ends : ['*', '/'] <:+: text
  · obtain ⟨body, rest, rfl, inside⟩ := exists_star_slash ends
    exact ⟨body ++ ['*', '/'], rest, by simp, .block inside⟩
  · exact ⟨text, [], (List.append_nil text).symm, .unclosed ends⟩

theorem exists_first {text : Text} (filled : text ≠ []) :
    ∃ (piece : Piece) (rest : Text), piece.StandsBefore rest ∧ text = piece.text ++ rest := by
  obtain ⟨c, text, rfl⟩ := List.exists_cons_of_ne_nil filled
  by_cases isQuote : c = '"'
  · subst isQuote
    obtain ⟨inside, rest, rfl, isLiteral⟩ := exists_literal text
    exact ⟨.literal ('"' :: inside), rest, .literal isLiteral, rfl⟩
  · by_cases starts : StartsComment (c :: text)
    · obtain ⟨rfl, line | block⟩ := startsComment_cons_iff.mp starts
      · obtain ⟨behind, rfl⟩ := List.head?_eq_some_iff.mp line
        obtain ⟨inside, rest, rfl, isComment⟩ := exists_line behind
        exact ⟨.comment ('/' :: '/' :: inside), rest, .comment isComment, rfl⟩
      · obtain ⟨behind, rfl⟩ := List.head?_eq_some_iff.mp block
        obtain ⟨inside, rest, rfl, isComment⟩ := exists_block behind
        exact ⟨.comment ('/' :: '*' :: inside), rest, .comment isComment, rfl⟩
    · exact ⟨.plain c, text, .plain isQuote starts, rfl⟩

theorem exists_splits (text : Text) : ∃ pieces, Splits text pieces := by
  induction length : text.length using Nat.strong_induction_on generalizing text with
  | _ length inductionHypothesis =>
    by_cases nothing : text = []
    · exact ⟨[], nothing ▸ .nil⟩
    · obtain ⟨piece, rest, stands, rfl⟩ := exists_first nothing
      have filled := List.length_pos_iff.mpr stands.text_ne_nil
      have shorter : rest.length < (piece.text ++ rest).length := by
        rw [List.length_append]
        omega
      obtain ⟨pieces, splits⟩ := inductionHypothesis rest.length (length ▸ shorter) rest rfl
      exact ⟨piece :: pieces, .cons stands splits⟩

end Reading

/-- Of the pieces of a text just the comments are dropped, and what is left has no others than those
kept. So a text without comments stays as it is, as does one whose comments were dropped. -/
theorem withoutComments_drops_comments_only (text : Text) :
    ∃ pieces, Splits text pieces ∧ (∀ others, Splits text others → others = pieces) ∧
      pieces.flatMap Piece.text = text ∧
      withoutComments text = (kept pieces).flatMap Piece.text ∧
      Splits (withoutComments text) (kept pieces) ∧
      (withoutComments text = text ↔ ∀ piece ∈ pieces, piece.isComment = false) ∧
      withoutComments (withoutComments text) = withoutComments text := by
  obtain ⟨pieces, splits⟩ := exists_splits text
  have dropped := withoutComments_of_splits splits
  have left := splits.withoutComments
  have noComments : withoutComments text = text ↔ ∀ piece ∈ pieces, piece.isComment = false := by
    constructor
    · intro same piece listed
      rw [same] at left
      rw [splits.unique left] at listed
      simpa [kept] using (List.mem_filter.mp listed).2
    · intro none
      have all : kept pieces = pieces :=
        List.filter_eq_self.mpr fun piece listed => by simp [none piece listed]
      rw [dropped, all, splits.flatMap_text]
  refine ⟨pieces, splits, fun others splitsToo => splitsToo.unique splits, splits.flatMap_text,
    dropped, left, noComments, ?_⟩
  have again : kept (kept pieces) = kept pieces := List.filter_filter .. |>.trans (by simp [kept])
  rw [withoutComments_of_splits left, again, dropped]

/-- Two slashes in a string start no comment, and a star and slash right behind `/*` do not end one. -/
example : withoutComments "\"a//b\" /*/ c */ d // e\n/".toList = "\"a//b\"  d \n/".toList := by
  decide

end ComponentStyles.Json
