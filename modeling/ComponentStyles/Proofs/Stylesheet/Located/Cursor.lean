import ComponentStyles.Proofs.Stylesheet.Parser.Kept
import ComponentStyles.Proofs.Token.Placed

/-!
# Standing in a text

The parser moves through tokens, but what it records are offsets into a text. A cursor stands in the
text if the two agree: the tokens ahead are placed in the text, the end of the last token read is a
boundary that they lie behind, and every error so far points into the text. `Cursor.Goes` says of a
step that it keeps this, and that the end of the last token read only moves on.
-/

namespace ComponentStyles.Cursor

open Token

variable {text : Text} {c next last : Cursor} {token : Token} {tail taken rest : List Token}
  {found foundToo : Prop}

section Stands

/-- A cursor over tokens of a text that agrees with it. -/
structure Stands (text : Text) (c : Cursor) : Prop where
  cut : IsCut c.lexemes
  placed : Placed text c.stop c.lastEnd c.rest
  lastEnd : text.IsBoundary c.lastEnd
  stop : text.IsBoundary c.stop
  errors : ∀ e ∈ c.errors, e.span.IsWithin text

/-- The start of a part of a text stands in it. -/
theorem stands_start {before part : Text} (starts : before ++ part <+: text) :
    (start (Text.size before) part (ofText (Text.size before) part)).Stands text where
  cut := by
    rw [lexemes, start, lexemes_ofText]
    exact isCut_lexemes part
  placed := by
    rw [start, ← Text.size_append]
    exact placed_ofText _ before part starts rfl
  lastEnd := Text.isBoundary_size ((List.prefix_append _ _).trans starts)
  stop := by
    rw [start, ← Text.size_append]
    exact Text.isBoundary_size starts
  errors := nofun

theorem Stands.covers (stands : c.Stands text) (whole : c.rest = token :: tail) :
    token.span.Covers text token.text :=
  (whole ▸ stands.placed).covers_head

theorem Stands.spells (stands : c.Stands text) (whole : c.rest = token :: tail) :
    token.kind.Spells token.text :=
  stands.cut.spells (lexemes_of_rest whole ▸ List.mem_cons_self : token.lexeme ∈ c.lexemes)

/-- The next token, or the empty one behind the last, lies within the text. -/
theorem Stands.current (stands : c.Stands text) : c.current.span.IsWithin text := by
  cases whole : c.rest with
  | nil =>
      rw [Cursor.current, whole]
      exact Span.isWithin_emptyAt stands.stop
  | cons token tail =>
      rw [current_of_rest whole]
      exact (stands.covers whole).isWithin

/-- Only tokens that are not trivia move the end of the last token read. -/
theorem lastEnd_goTo_cons (c : Cursor) (token : Token) (taken rest : List Token) :
    (c.goTo (token :: taken) rest).lastEnd =
      ({ c with lastEnd := if token.isTrivia then c.lastEnd else token.span.stop }.goTo
        taken rest).lastEnd := by
  cases trivia : token.isTrivia with
  | true => simp [goTo, trivia]
  | false =>
      rw [goTo, goTo, List.filter_cons_of_pos (by simp [trivia]), List.getLast?_cons]
      cases (taken.filter fun t => !t.isTrivia).getLast? <;> rfl

theorem lastEnd_advance (whole : c.rest = token :: tail) (solid : token.isTrivia = false) :
    c.advance.lastEnd = token.span.stop := by
  rw [advance, whole]
  simp [solid, goTo]

/-- What is read of placed tokens leaves the others placed behind it. -/
theorem placed_goTo (placed : Placed text c.stop c.lastEnd (taken ++ rest))
    (boundary : text.IsBoundary c.lastEnd) : c.lastEnd ≤ (c.goTo taken rest).lastEnd ∧
      text.IsBoundary (c.goTo taken rest).lastEnd ∧
        Placed text c.stop (c.goTo taken rest).lastEnd rest := by
  induction taken generalizing c with
  | nil => exact ⟨Nat.le_refl _, boundary, placed⟩
  | cons token taken inductionHypothesis =>
      -- A token in front moves the end to its own, unless it is trivia.
      rw [lastEnd_goTo_cons]
      cases trivia : token.isTrivia with
      | true => exact inductionHypothesis placed.tail boundary
      | false =>
          cases placed with
          | cons behind covers later =>
              obtain ⟨onward, boundary, placed⟩ :=
                inductionHypothesis (c := { c with lastEnd := token.span.stop }) later
                  covers.isWithin.stop
              exact ⟨(behind.trans covers.isWithin.ordered).trans onward, boundary, placed⟩

end Stands

section Goes

/-- A step from one cursor to another one keeps standing in a text and does not go back; of a cursor
that stands there, `found` holds. -/
structure Goes (text : Text) (c next : Cursor) (found : Prop) : Prop where
  stands : c.Stands text → next.Stands text
  onward : c.Stands text → c.lastEnd ≤ next.lastEnd
  found : c.Stands text → found

theorem Goes.refl (c : Cursor) : c.Goes text c True :=
  ⟨id, fun _ => Nat.le_refl _, fun _ => trivial⟩

theorem Goes.imp (goes : c.Goes text next found) (imp : c.Stands text → found → foundToo) :
    c.Goes text next foundToo :=
  ⟨goes.stands, goes.onward, fun stands => imp stands (goes.found stands)⟩

theorem Goes.moves (goes : c.Goes text next found) : c.Goes text next True :=
  goes.imp fun _ _ => trivial

theorem Goes.trans (first : c.Goes text next found) (second : next.Goes text last foundToo) :
    c.Goes text last (found ∧ foundToo) where
  stands stands := second.stands (first.stands stands)
  onward stands := (first.onward stands).trans (second.onward (first.stands stands))
  found stands := ⟨first.found stands, second.found (first.stands stands)⟩

/-- Recording an error within the text. -/
theorem Goes.fail (error : ParseError) (goes : c.Goes text last (error.span.IsWithin text)) :
    c.Goes text { last with errors := last.errors ++ [error] } True where
  stands stands := by
    have standsLast := goes.stands stands
    refine { standsLast with errors := fun e listed => ?_ }
    rcases List.mem_append.mp listed with listed | listed
    · exact standsLast.errors e listed
    · rw [List.mem_singleton.mp listed]
      exact goes.found stands
  onward := goes.onward
  found _ := trivial

theorem goes_goTo (cut : taken ++ rest = c.rest) : c.Goes text (c.goTo taken rest) True where
  stands stands := by
    obtain ⟨_, boundary, placed⟩ := placed_goTo (cut ▸ stands.placed) stands.lastEnd
    have suffix : (c.goTo taken rest).rest <:+ c.rest := ⟨taken, cut⟩
    exact { stands with
      cut := stands.cut.of_within (lexemes_suffix suffix).isInfix
      placed := placed
      lastEnd := boundary }
  onward stands := (placed_goTo (cut ▸ stands.placed) stands.lastEnd).1
  found _ := trivial

theorem goes_advance (c : Cursor) : c.Goes text c.advance True :=
  goes_goTo (List.take_append_drop 1 c.rest)

theorem goes_skipTrivia (c : Cursor) : c.Goes text c.skipTrivia True where
  stands stands := by
    have suffix : c.skipTrivia.rest <:+ c.rest := List.dropWhile_suffix _
    exact { stands with
      cut := stands.cut.of_within (lexemes_suffix suffix).isInfix
      placed := stands.placed.of_suffix suffix }
  onward _ := Nat.le_refl _
  found _ := trivial

theorem goes_step (c : Cursor) : c.Goes text c.advance.skipTrivia True :=
  (c.goes_advance.trans (goes_skipTrivia _)).moves

theorem goes_report (c : Cursor) (problem : Problem) : c.Goes text (c.report problem) True :=
  ((Goes.refl c).imp fun stands _ => stands.current).fail ⟨problem, c.current.span⟩

theorem goes_unexpected (c : Cursor) (expected : Expectation) :
    c.Goes text (c.unexpected expected) True :=
  c.goes_report _

theorem goes_expect (c : Cursor) (kind : Kind) : c.Goes text (c.expect kind) True := by
  rw [expect]
  split
  · exact c.goes_advance
  split
  · exact c.goes_report _
  · exact c.goes_unexpected _

theorem goes_readRaw {stops : List Kind} (noBlank : Kind.whitespace ∉ stops) (c : Cursor) :
    c.Goes text (c.readRaw stops).2 True := by
  rw [readRaw, Fence.splitRaw_eq stops noBlank]
  exact goes_goTo (Fence.split_append _ 0 c.rest)

theorem goes_readBlock (c : Cursor) : c.Goes text c.readBlock.2 True := by
  simp only [readBlock, Fence.splitBlock_eq]
  have inside : c.Goes text (c.advance.goTo _ _) _ :=
    c.goes_advance.trans (goes_goTo (Fence.split_append Fence.ofBlock 0 c.advance.rest))
  split
  · exact (inside.trans (goes_report _ _)).moves
  · exact (inside.trans (goes_advance _)).moves

end Goes

end ComponentStyles.Cursor
