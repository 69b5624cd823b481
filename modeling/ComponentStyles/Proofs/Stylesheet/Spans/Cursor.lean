import ComponentStyles.Proofs.Stylesheet.Located.Cursor
import ComponentStyles.Proofs.Stylesheet.Spans.Tree
import ComponentStyles.Proofs.Token.Munch

/-!
# Reading on through a source

A node starts with the token that is next when its reading starts and stops with the last token
that is read for it and is not trivia. Whatever is skipped or refused in between, a cursor only goes
on to later tokens, so a node lies between the token that was ahead and the end of the last token
read.
-/

namespace ComponentStyles.Cursor

open Token

variable {before source text : Text} {c next last : Cursor} {token : Token} {tail : List Token}
  {found foundToo : Prop} {α : Type} {span : α → Span} {Good : α → Prop} {node : α}

/-- Where the next token starts, or the text ends. -/
def ahead (text : Text) (c : Cursor) : Nat :=
  (c.rest.head?.map fun token => token.span.start).getD (Text.size text)

theorem ahead_of_rest (whole : c.rest = token :: tail) : c.ahead text = token.span.start := by
  rw [ahead, whole]
  rfl

theorem le_ahead {stop offset : Nat} (placed : Placed text stop offset c.rest)
    (inside : offset ≤ Text.size text) : offset ≤ c.ahead text := by
  cases whole : c.rest with
  | nil =>
      rw [ahead, whole]
      exact inside
  | cons token tail =>
      rw [ahead_of_rest whole]
      cases whole ▸ placed with
      | cons behind _ _ => exact behind

theorem Stands.lastEnd_le_ahead (stands : c.Stands text) : c.lastEnd ≤ c.ahead text :=
  le_ahead stands.placed stands.lastEnd.le

/-- The end token behind the last one does not start behind the end of the text. -/
theorem Stands.current_le_ahead (stands : c.Stands text) :
    c.current.span.start ≤ c.ahead text := by
  cases whole : c.rest with
  | nil =>
      rw [ahead, Cursor.current, whole]
      exact stands.stop.le
  | cons token tail => rw [ahead_of_rest whole, current_of_rest whole]

/-- What is ahead of a cursor is ahead of the cursors behind it. -/
theorem Stands.ahead_le_of_suffix (stands : c.Stands text) (suffix : next.rest <:+ c.rest) :
    c.ahead text ≤ next.ahead text := by
  cases whole : c.rest with
  | nil =>
      have nothing : next.rest = [] := List.suffix_nil.mp (whole ▸ suffix)
      rw [ahead, ahead, whole, nothing]
  | cons token tail =>
      rw [ahead_of_rest whole]
      cases whole ▸ stands.placed with
      | cons _ covers later =>
          have placed : Placed text c.stop token.span.start (token :: tail) :=
            .cons (Nat.le_refl _) covers later
          exact le_ahead (placed.of_suffix (whole ▸ suffix)) covers.isWithin.start.le

theorem Stands.stop_le_ahead (stands : c.Stands text) (whole : c.rest = token :: tail) :
    token.span.stop ≤ c.advance.ahead text := by
  cases whole ▸ stands.placed with
  | cons _ covers later => exact le_ahead (rest_advance whole ▸ later) covers.isWithin.stop.le

/-- A later place in the same reading. -/
structure Follows (text : Text) (c next : Cursor) : Prop where
  suffix : next.rest <:+ c.rest
  goes : c.Goes text next True

theorem Reads.follows (reads : c.Reads next found) (goes : c.Goes text next foundToo) :
    c.Follows text next :=
  ⟨reads.suffix, goes.moves⟩

theorem Follows.trans (first : c.Follows text next) (second : next.Follows text last) :
    c.Follows text last :=
  ⟨second.suffix.trans first.suffix, (first.goes.trans second.goes).moves⟩

theorem follows_advance (c : Cursor) : c.Follows text c.advance :=
  c.reads_advance.follows c.goes_advance

theorem follows_skipTrivia (c : Cursor) : c.Follows text c.skipTrivia :=
  c.reads_skipTrivia.follows c.goes_skipTrivia

theorem follows_step (c : Cursor) : c.Follows text c.advance.skipTrivia :=
  c.follows_advance.trans (follows_skipTrivia _)

/-- Trivia are passed before a node is read. -/
theorem solid_skipTrivia (whole : c.skipTrivia.rest = token :: tail) : token.isTrivia = false := by
  have solid := List.head?_dropWhile_not Token.isTrivia c.rest
  rw [show c.rest.dropWhile Token.isTrivia = token :: tail from whole] at solid
  simpa using solid

theorem exists_solid {kind : Kind} (isKind : c.kind = kind)
    (solid : kind ≠ .endOfInput ∧ kind.isTrivia = false) :
    ∃ token tail, c.rest = token :: tail ∧ token.isTrivia = false := by
  obtain ⟨token, tail, whole⟩ := exists_rest_of_kind (c := c) (isKind ▸ solid.1)
  refine ⟨token, tail, whole, ?_⟩
  rw [Token.isTrivia, ← kind_of_rest whole, isKind]
  exact solid.2

/-- What has been read from a place on. -/
theorem Stands.liesIn_lastEnd {start : Nat} (stands : c.Stands (before ++ source))
    (low : Text.size before ≤ start) (starts : start ≤ c.lastEnd) :
    Span.LiesIn (Text.size before) source ⟨start, c.lastEnd⟩ where
  low := low
  ordered := starts
  high := Text.size_append before source ▸ stands.lastEnd.le

theorem lined_through (whole : c.rest = token :: tail)
    (same : span node = ⟨token.span.start, last.lastEnd⟩) (good : Good node) :
    Lined span Good (c.ahead text) last.lastEnd [node] := by
  refine lined_single ?_ ?_ good
  · rw [ahead_of_rest whole, same]
  · rw [same]

section Inside

/-- A cursor in the midst of reading a source that stands behind `before` in its file. -/
structure Within (before source : Text) (c : Cursor) : Prop where
  stands : c.Stands (before ++ source)
  low : Text.size before ≤ c.lastEnd
  joined : c.rest.IsChain fun token next => token.span.stop = next.span.start

theorem within_start (before source : Text) :
    (start (Text.size before) source (ofText (Text.size before) source)).Within before source where
  stands := stands_start (List.prefix_refl _)
  low := Nat.le_refl _
  joined := (tiles_ofText _ source).covers.goesOn

namespace Within

variable (inside : c.Within before source)

include inside

theorem goOn (follows : c.Follows (before ++ source) next) : next.Within before source where
  stands := follows.goes.stands inside.stands
  low := inside.low.trans (follows.goes.onward inside.stands)
  joined := inside.joined.suffix follows.suffix

/-- What a step finds stands in front of what is found from there on. -/
theorem lined_append {nodes rest : List α} (step : c.Follows (before ++ source) next)
    (goes : next.Goes (before ++ source) last found)
    (first : Lined span Good (c.ahead (before ++ source)) next.lastEnd nodes)
    (later : Lined span Good (next.ahead (before ++ source)) last.lastEnd rest) :
    Lined span Good (c.ahead (before ++ source)) last.lastEnd (nodes ++ rest) := by
  have behind := step.goes.stands inside.stands
  exact first.append later (inside.stands.ahead_le_of_suffix step.suffix) behind.lastEnd_le_ahead
    (goes.onward behind)

theorem low_current : Text.size before ≤ c.current.span.start := by
  cases whole : c.rest with
  | nil =>
      rw [current, whole]
      exact inside.low.trans inside.stands.placed.le_stop
  | cons token tail =>
      rw [current_of_rest whole, ← ahead_of_rest whole]
      exact inside.low.trans inside.stands.lastEnd_le_ahead

theorem low_token (whole : c.rest = token :: tail) : Text.size before ≤ token.span.start :=
  current_of_rest whole ▸ inside.low_current

theorem shows (whole : c.rest = token :: tail) :
    token.span.Shows (Text.size before) source token.text :=
  (inside.stands.covers whole).shows (inside.low_token whole)

/-- The source goes on from a token to the next one. -/
theorem shows_pair {nextToken : Token} (whole : c.rest = token :: nextToken :: tail) :
    Span.Shows (Text.size before) source (token.text ++ nextToken.text)
      ⟨token.span.start, nextToken.span.stop⟩ := by
  have first : Span.Covers ⟨token.span.start, token.span.stop⟩ (before ++ source) token.text :=
    inside.stands.covers whole
  have later := (c.goes_advance.stands inside.stands).covers (rest_advance whole)
  have meet : token.span.stop = nextToken.span.start := by
    have joined := inside.joined
    rw [whole] at joined
    exact (List.isChain_cons_cons.mp joined).1
  refine (first.append ?_).shows (inside.low_token whole)
  rw [meet]
  exact later

/-- Nothing is left to be shown behind the last token. -/
theorem shows_end (nothing : c.rest = []) : c.current.span.Shows (Text.size before) source [] := by
  have current : c.current.span = .emptyAt c.stop := by rw [current, nothing]; rfl
  obtain ⟨through, starts, size⟩ := inside.stands.stop
  refine Span.Covers.shows ⟨through, by rwa [List.append_nil], ?_⟩ inside.low_current
  rw [current, List.append_nil, size]
  rfl

theorem liesIn_emptyAt_current :
    (Span.emptyAt c.current.span.start).LiesIn (Text.size before) source where
  low := inside.low_current
  ordered := Nat.le_refl _
  high := Text.size_append before source ▸ inside.stands.current.start.le

variable (whole : c.rest = token :: tail) (solid : token.isTrivia = false)

include whole solid

theorem start_le_lastEnd (goes : c.advance.Goes (before ++ source) last found) :
    token.span.start ≤ last.lastEnd := by
  have onward := goes.onward (c.goes_advance.stands inside.stands)
  rw [lastEnd_advance whole solid] at onward
  exact (inside.stands.covers whole).isWithin.ordered.trans onward

/-- The span of a node that starts with the next token and goes on to what is read last. -/
theorem liesIn_through (goes : c.advance.Goes (before ++ source) last found) :
    Span.LiesIn (Text.size before) source ⟨token.span.start, last.lastEnd⟩ :=
  (goes.stands (c.goes_advance.stands inside.stands)).liesIn_lastEnd (inside.low_token whole)
    (inside.start_le_lastEnd whole solid goes)

theorem lined_from (goes : c.advance.Goes (before ++ source) last found)
    (same : span node = ⟨token.span.start, last.lastEnd⟩)
    (good : (span node).LiesIn (Text.size before) source → Good node) :
    Lined span Good (c.ahead (before ++ source)) last.lastEnd [node] :=
  lined_through whole same (good (same ▸ inside.liesIn_through whole solid goes))

end Within

end Inside

theorem lined_token (whole : c.rest = token :: tail) (solid : token.isTrivia = false)
    (same : span node = token.span) (good : Good node) :
    Lined span Good (c.ahead text) c.advance.lastEnd [node] := by
  refine lined_single ?_ ?_ good
  · rw [ahead_of_rest whole, same]
  · rw [lastEnd_advance whole solid, same]

end ComponentStyles.Cursor
