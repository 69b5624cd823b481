import ComponentStyles.Proofs.Stylesheet.Parser.Cursor
import ComponentStyles.Proofs.Token.Standing

/-!
# Texts kept as written

A run that the parser keeps as written ends at a stop outside of what has been opened before it. A
kept text can be read again: its own lexemes, with blanks around them, are the run that is kept.
-/

namespace ComponentStyles

open Token

/-- Where a run that is kept as written ends: at one of the `stops` at depth zero, where `step`
says how a token changes the depth. Blanks neither end a run nor change the depth. -/
structure Fence where
  stops : List Kind
  step : Nat → Kind → Nat
  skipsBlanks : .whitespace ∉ stops ∧ ∀ depth, step depth .whitespace = depth

namespace Fence

def parenDepth (depth : Nat) : Kind → Nat
  | .openParen | .function => depth + 1
  | .closeParen => depth - 1
  | _ => depth

def braceDepth (depth : Nat) : Kind → Nat
  | .openBrace => depth + 1
  | .closeBrace => depth - 1
  | _ => depth

/-- The fence of a block. -/
def ofBlock : Fence :=
  ⟨[.closeBrace], braceDepth, by decide, fun _ => rfl⟩

/-- The fence of a run that ends at a stop outside parentheses. -/
def outsideParens (stops : List Kind) (noBlank : Kind.whitespace ∉ stops) : Fence :=
  ⟨stops, parenDepth, noBlank, fun _ => rfl⟩

def ofPrelude : Fence :=
  outsideParens [.openBrace, .semicolon, .closeBrace] (by decide)

def ofMedia : Fence :=
  outsideParens [.semicolon, .openBrace, .closeBrace] (by decide)

def ofAttribute : Fence :=
  outsideParens [.closeBracket, .openBrace] (by decide)

def ofArgument : Fence :=
  outsideParens [.closeParen, .openBrace] (by decide)

variable (fence : Fence)

/-- A run goes through without a stop at depth zero, and ends there. -/
inductive Encloses : Nat → List Lexeme → Prop where
  | nil : Encloses 0 []
  | cons {depth l ls} : ¬ (depth = 0 ∧ l.kind ∈ fence.stops) →
      Encloses (fence.step depth l.kind) ls → Encloses depth (l :: ls)

/-- The tokens in front of the first stop at depth zero, and the tokens from there on. -/
def split : Nat → List Token → List Token × List Token
  | _, [] => ([], [])
  | depth, token :: rest =>
      if depth = 0 ∧ token.kind ∈ fence.stops then ([], token :: rest)
      else (token :: (split (fence.step depth token.kind) rest).1,
        (split (fence.step depth token.kind) rest).2)

theorem splitRaw_eq (stops : List Kind) (noBlank : Kind.whitespace ∉ stops) (depth : Nat)
    (tokens : List Token) :
    Cursor.splitRaw stops depth tokens = (outsideParens stops noBlank).split depth tokens := by
  induction tokens generalizing depth with
  | nil => rfl
  | cons token rest inductionHypothesis =>
      simp only [Cursor.splitRaw, split, inductionHypothesis, outsideParens, Bool.and_eq_true,
        decide_eq_true_eq, List.contains_iff_mem]
      rfl

theorem splitBlock_eq (depth : Nat) (tokens : List Token) :
    Cursor.splitBlock depth tokens = ofBlock.split depth tokens := by
  induction tokens generalizing depth with
  | nil => rfl
  | cons token rest inductionHypothesis =>
      simp only [Cursor.splitBlock, split, inductionHypothesis, ofBlock, List.mem_singleton]
      cases kind : token.kind <;> cases depth <;> simp [braceDepth]

variable {fence : Fence} {depth : Nat} {ls : List Lexeme}

/-- The parser keeps a run that is enclosed and in front of a stop. -/
theorem split_of_encloses {taken rest : List Token} {stop : Token}
    (encloses : fence.Encloses depth (taken.map Token.lexeme)) (stops : stop.kind ∈ fence.stops) :
    fence.split depth (taken ++ stop :: rest) = (taken, stop :: rest) := by
  induction taken generalizing depth with
  | nil =>
      cases encloses with
      | nil => exact if_pos ⟨rfl, stops⟩
  | cons token taken inductionHypothesis =>
      cases encloses with
      | cons goesOn later =>
          rw [lexeme_kind] at goesOn later
          rw [List.cons_append, split, if_neg goesOn, inductionHypothesis later]

theorem split_append (fence : Fence) (depth : Nat) (tokens : List Token) :
    (fence.split depth tokens).1 ++ (fence.split depth tokens).2 = tokens := by
  induction tokens generalizing depth with
  | nil => rfl
  | cons token rest inductionHypothesis =>
      rw [split]
      split
      · rfl
      · rw [List.cons_append, inductionHypothesis]

/-- What is kept in front of a stop is enclosed. -/
theorem encloses_of_split {tokens rest : List Token} {stop : Token}
    (left : (fence.split depth tokens).2 = stop :: rest) : stop.kind ∈ fence.stops ∧
      fence.Encloses depth ((fence.split depth tokens).1.map Token.lexeme) := by
  induction tokens generalizing depth with
  | nil => cases left
  | cons token tokens inductionHypothesis =>
      rw [split] at left ⊢
      split at left
      case isTrue stops =>
        rw [if_pos stops]
        obtain ⟨rfl, rfl⟩ := List.cons.inj left
        obtain ⟨rfl, stops⟩ := stops
        exact ⟨stops, .nil⟩
      case isFalse goesOn =>
        rw [if_neg goesOn]
        obtain ⟨stops, later⟩ := inductionHypothesis left
        exact ⟨stops, .cons goesOn later⟩

theorem encloses_cons_blank_iff {l : Lexeme} (blank : l.isBlank = true) :
    fence.Encloses depth (l :: ls) ↔ fence.Encloses depth ls := by
  have isBlank : l.kind = .whitespace := of_decide_eq_true blank
  constructor
  · intro encloses
    cases encloses with
    | cons _ later => rwa [isBlank, fence.skipsBlanks.2] at later
  · intro encloses
    refine .cons (fun stops => fence.skipsBlanks.1 (isBlank ▸ stops.2)) ?_
    rwa [isBlank, fence.skipsBlanks.2]

/-- Blanks around a run make no difference. -/
theorem encloses_pad_iff {before behind : List Lexeme} (blank : ∀ l ∈ before, l.isBlank = true)
    (blankToo : ∀ l ∈ behind, l.isBlank = true) :
    fence.Encloses depth (before ++ (ls ++ behind)) ↔ fence.Encloses depth ls := by
  induction before with
  | cons l before inductionHypothesis =>
      rw [List.forall_mem_cons] at blank
      rw [List.cons_append, encloses_cons_blank_iff blank.1, inductionHypothesis blank.2]
  | nil =>
      rw [List.nil_append]
      induction ls generalizing depth with
      | nil =>
          induction behind with
          | nil => rfl
          | cons l behind inductionHypothesis =>
              rw [List.forall_mem_cons] at blankToo
              rw [List.nil_append, encloses_cons_blank_iff blankToo.1]
              exact inductionHypothesis blankToo.2
      | cons l ls inductionHypothesis =>
          constructor
          · intro encloses
            cases encloses with
            | cons goesOn later => exact .cons goesOn (inductionHypothesis.mp later)
          · intro encloses
            cases encloses with
            | cons goesOn later => exact .cons goesOn (inductionHypothesis.mpr later)

/-- A text that can be kept as written behind a fence: plain, trimmed and enclosed. -/
structure Keeps (fence : Fence) (text : Text) : Prop where
  plain : Plain (Token.lexemes text)
  stripped : Stripped (Token.lexemes text)
  encloses : fence.Encloses 0 (Token.lexemes text)

/-- What the parser relies on to read a kept text from its lexemes. -/
structure Bounds (fence : Fence) (text : Text) : Prop where
  solid : ∀ l ∈ Token.lexemes text, l.IsSolid
  stripped : Stripped (Token.lexemes text)
  encloses : fence.Encloses 0 (Token.lexemes text)

/-- A text that can be kept as written where the given text follows it. -/
structure KeepsBefore (fence : Fence) (text behind : Text) : Prop where
  bounds : fence.Bounds text
  cut : Token.lexemes (text ++ behind) = Token.lexemes text ++ Token.lexemes behind

theorem Keeps.bounds {text : Text} (keeps : fence.Keeps text) : fence.Bounds text :=
  ⟨fun _ listed => keeps.plain.isSolid listed, keeps.stripped, keeps.encloses⟩

theorem Bounds.not_blank_last {text : Text} (bounds : fence.Bounds text) :
    ∀ l ∈ (Token.lexemes text).getLast?, l.kind ≠ .whitespace := by
  intro l last isBlank
  have notBlank := bounds.stripped.last l last
  simp [Lexeme.isBlank, isBlank] at notBlank

/-- A text kept behind a fence is cut as it is, in front of a delimiter. -/
theorem Keeps.lexemes_append {text rest : Text} (keeps : fence.Keeps text) {d : Char}
    (delimits : Delimits d) :
    Token.lexemes (text ++ d :: rest) = Token.lexemes text ++ Token.lexemes (d :: rest) := by
  have cut : Token.lexemes (textOf (Token.lexemes text) ++ d :: rest) = _ :=
    keeps.plain.lexemes_append delimits fun _ => keeps.bounds.not_blank_last
  rwa [textOf_lexemes] at cut

theorem Keeps.keepsBefore {text rest : Text} (keeps : fence.Keeps text) {d : Char}
    (delimits : Delimits d) : fence.KeepsBefore text (d :: rest) :=
  ⟨keeps.bounds, keeps.lexemes_append delimits⟩

theorem raw_eq (tokens : List Token) :
    Cursor.raw tokens = Text.trim (textOf (tokens.map Token.lexeme)) := by
  rw [Cursor.raw, textOf, List.flatMap_map]
  rfl

theorem lexemes_trim (cut : IsCut ls) (solid : ∀ l ∈ ls, l.IsSolid) :
    Token.lexemes (Text.trim (textOf ls)) = strip ls := by
  rw [trim_textOf solid]
  exact cut.of_within (strip_within ls)

theorem encloses_strip (encloses : fence.Encloses depth ls) : fence.Encloses depth (strip ls) := by
  obtain ⟨before, behind, whole, blank, blankToo⟩ := exists_strip ls
  rwa [whole, encloses_pad_iff blank blankToo] at encloses

theorem bounds_trim (cut : IsCut ls) (solid : ∀ l ∈ ls, l.IsSolid) (encloses : fence.Encloses 0 ls) :
    fence.Bounds (Text.trim (textOf ls)) := by
  constructor
  all_goals rw [lexemes_trim cut solid]
  · exact fun l listed => solid l ((strip_within ls).subset listed)
  · exact stripped_strip ls
  · exact encloses_strip encloses

/-- What the parser keeps of plain tokens can be kept again. -/
theorem keeps_trim (plain : Plain ls) (encloses : fence.Encloses 0 ls) :
    fence.Keeps (Text.trim (textOf ls)) := by
  have solid (l : Lexeme) (listed : l ∈ ls) : l.IsSolid := plain.isSolid listed
  have bounds := bounds_trim plain.cut solid encloses
  refine ⟨?_, bounds.stripped, bounds.encloses⟩
  rw [lexemes_trim plain.cut solid]
  exact plain.of_within (strip_within ls)

theorem keeps_raw {taken : List Token} (plain : Plain (taken.map Token.lexeme))
    (encloses : fence.Encloses 0 (taken.map Token.lexeme)) : fence.Keeps (Cursor.raw taken) := by
  rw [raw_eq]
  exact keeps_trim plain encloses

/-- A run that is a kept text with blanks around it ends where the text does. -/
theorem Bounds.encloses_pad {text : Text} {before behind : List Lexeme} (bounds : fence.Bounds text)
    (blank : ∀ l ∈ before ++ behind, l.isBlank = true ∧ l.IsSolid) :
    fence.Encloses 0 (before ++ (Token.lexemes text ++ behind)) := by
  rw [encloses_pad_iff]
  · exact bounds.encloses
  · exact fun l listed => (blank l (List.mem_append_left _ listed)).1
  · exact fun l listed => (blank l (List.mem_append_right _ listed)).1

/-- A kept text is read from its lexemes, whatever blanks stand around them. -/
theorem raw_of_bounds {text : Text} {taken : List Token} {before behind : List Lexeme}
    (bounds : fence.Bounds text)
    (whole : taken.map Token.lexeme = before ++ (Token.lexemes text ++ behind))
    (blank : ∀ l ∈ before ++ behind, l.isBlank = true ∧ l.IsSolid) : Cursor.raw taken = text := by
  have solid : ∀ l ∈ taken.map Token.lexeme, l.IsSolid := by
    intro l listed
    rw [whole] at listed
    simp only [List.mem_append] at listed blank
    rcases listed with listed | listed | listed
    · exact (blank l (.inl listed)).2
    · exact bounds.solid l listed
    · exact (blank l (.inr listed)).2
  simp only [List.forall_mem_append] at blank
  rw [raw_eq, trim_textOf solid, whole,
    strip_pad bounds.stripped (fun l listed => (blank.1 l listed).1)
      (fun l listed => (blank.2 l listed).1), textOf_lexemes]

/-- A kept text starts with what the run starts with, unless that is blank. -/
theorem head_of_trim {taken : List Lexeme} {l : Lexeme} (plain : Plain taken)
    (solid : ∀ l ∈ taken.head?, l.isBlank = false)
    (first : l ∈ (Token.lexemes (Text.trim (textOf taken))).head?) : l ∈ taken.head? := by
  rw [lexemes_trim plain.cut fun m listed => plain.isSolid listed] at first
  obtain ⟨before, behind, whole, blank, _⟩ := exists_strip taken
  cases before with
  | nil =>
      rw [whole, List.nil_append, List.head?_append, Option.mem_def.mp first]
      rfl
  | cons b before =>
      have blankFirst := blank b List.mem_cons_self
      rw [whole] at solid
      rw [solid b rfl] at blankFirst
      cases blankFirst

end Fence

namespace Cursor

variable {c : Cursor} {text : Text} {ls : List Lexeme} {stop : Lexeme}

/-- Keeping a run moves on behind it and reports nothing. -/
theorem readRaw_moves {stops : List Kind} (noBlank : Kind.whitespace ∉ stops) (c : Cursor) :
    (c.readRaw stops).2.rest <:+ c.rest ∧ (c.readRaw stops).2.errors = c.errors := by
  rw [readRaw, Fence.splitRaw_eq stops noBlank]
  exact ⟨⟨_, Fence.split_append _ 0 c.rest⟩, rfl⟩

/-- The run that is kept stands in front of a stop, and is enclosed. -/
theorem exists_taken_of_readRaw {stops : List Kind} (noBlank : Kind.whitespace ∉ stops) {c : Cursor}
    (inside : (c.readRaw stops).2.kind ≠ .endOfInput) : ∃ taken,
      c.lexemes = taken ++ (c.readRaw stops).2.lexemes ∧
        (c.readRaw stops).1 = Text.trim (textOf taken) ∧
        (Fence.outsideParens stops noBlank).Encloses 0 taken ∧ (c.readRaw stops).2.kind ∈ stops := by
  have cut := (Fence.outsideParens stops noBlank).split_append 0 c.rest
  simp only [readRaw, Fence.splitRaw_eq stops noBlank] at inside ⊢
  generalize split : (Fence.outsideParens stops noBlank).split 0 c.rest = parts at cut inside ⊢
  obtain ⟨taken, left⟩ := parts
  obtain ⟨stop, rest, rfl⟩ : ∃ stop rest, left = stop :: rest := exists_rest_of_kind inside
  have ends := Fence.encloses_of_split (congrArg Prod.snd split)
  rw [split] at ends
  refine ⟨taken.map Token.lexeme, ?_, Fence.raw_eq taken, ends.2, ends.1⟩
  rw [lexemes, ← cut, List.map_append]
  rfl

/-- What a run is kept as, and what comes next. -/
theorem reads_readRaw {stops : List Kind} (noBlank : Kind.whitespace ∉ stops) (c : Cursor) :
    c.Reads (c.readRaw stops).2 ((c.readRaw stops).2.kind ≠ .endOfInput →
      (Fence.outsideParens stops noBlank).Keeps (c.readRaw stops).1 ∧
        (c.readRaw stops).2.kind ∈ stops ∧
        ((∀ l ∈ c.lexemes.head?, l.isBlank = false) →
          ∀ l ∈ (Token.lexemes (c.readRaw stops).1).head?, l ∈ c.lexemes.head?)) := by
  obtain ⟨suffix, quiet⟩ := readRaw_moves noBlank c
  refine (reads_of_rest suffix quiet).imp fun plain _ inside => ?_
  obtain ⟨taken, whole, raw, encloses, ends⟩ := exists_taken_of_readRaw noBlank inside
  have plainTaken : Plain taken := plain.of_within ⟨[], _, whole.symm⟩
  rw [raw]
  refine ⟨Fence.keeps_trim plainTaken encloses, ends, fun solid l first => ?_⟩
  have within (m : Lexeme) (first : m ∈ taken.head?) : m ∈ c.lexemes.head? := by
    rw [whole, List.head?_append, Option.mem_def.mp first]
    rfl
  exact within l (Fence.head_of_trim plainTaken (fun m first => solid m (within m first)) first)

theorem reads_readBlock (c : Cursor) :
    c.Reads c.readBlock.2 (Fence.ofBlock.Keeps c.readBlock.1) := by
  have cut := Fence.ofBlock.split_append 0 c.advance.rest
  simp only [readBlock, Fence.splitBlock_eq]
  generalize split : Fence.ofBlock.split 0 c.advance.rest = parts at cut ⊢
  obtain ⟨taken, left⟩ := parts
  have through : c.Reads (c.advance.goTo taken left)
      (left ≠ [] → Fence.ofBlock.Keeps (raw taken)) := by
    have moved : c.advance.Reads (c.advance.goTo taken left) True := reads_of_rest ⟨taken, cut⟩ rfl
    refine (c.reads_advance.trans moved).imp fun plain _ inside => ?_
    obtain ⟨stop, rest, rfl⟩ := List.exists_cons_of_ne_nil inside
    have ends := Fence.encloses_of_split (congrArg Prod.snd split)
    rw [split] at ends
    refine Fence.keeps_raw ((plain.of_within (lexemes_suffix c.reads_advance.suffix).isInfix).of_within
      ⟨[], (stop :: rest).map Token.lexeme, ?_⟩) ends.2
    rw [List.nil_append, ← List.map_append, cut]
    rfl
  split
  case isTrue =>
    exact (through.trans (reads_report _ _)).imp fun _ found => found.2.elim
  case isFalse inside =>
    refine (through.trans (reads_advance _)).imp fun _ found => found.1 ?_
    obtain ⟨stop, rest, rfl⟩ : ∃ stop rest, left = stop :: rest := exists_rest_of_kind inside
    exact List.cons_ne_nil stop rest

/-- A kept text is read back from its lexemes. -/
theorem readRaw_of_bounds {stops : List Kind} (noBlank : Kind.whitespace ∉ stops)
    (bounds : (Fence.outsideParens stops noBlank).Bounds text) (before behind : List Lexeme)
    (ahead : c.lexemes = before ++ (Token.lexemes text ++ (behind ++ stop :: ls)))
    (blank : ∀ l ∈ before ++ behind, l.isBlank = true ∧ l.IsSolid) (ends : stop.kind ∈ stops) :
    (c.readRaw stops).1 = text ∧ (c.readRaw stops).2.lexemes = stop :: ls ∧
      (c.readRaw stops).2.errors = c.errors := by
  have regrouped : c.lexemes = (before ++ (Token.lexemes text ++ behind)) ++ stop :: ls := by
    simpa using ahead
  obtain ⟨taken, left, cut, whole, rest⟩ := List.map_eq_append_iff.mp regrouped
  obtain ⟨token, tail, rfl, rfl, rfl⟩ := List.map_eq_cons_iff.mp rest
  have encloses : (Fence.outsideParens stops noBlank).Encloses 0 (taken.map Token.lexeme) := by
    rw [whole]
    exact bounds.encloses_pad blank
  rw [readRaw, Fence.splitRaw_eq stops noBlank, cut, Fence.split_of_encloses encloses ends]
  exact ⟨Fence.raw_of_bounds bounds whole blank, rfl, rfl⟩

theorem readBlock_of_bounds (bounds : Fence.ofBlock.Bounds text) {opening : Lexeme}
    (before behind : List Lexeme)
    (ahead : c.lexemes =
      opening :: (before ++ (Token.lexemes text ++ (behind ++ ⟨.closeBrace, ['\x7d']⟩ :: ls))))
    (blank : ∀ l ∈ before ++ behind, l.isBlank = true ∧ l.IsSolid) :
    c.readBlock.1 = text ∧ c.readBlock.2.lexemes = ls ∧ c.readBlock.2.errors = c.errors := by
  have regrouped : c.advance.lexemes =
      (before ++ (Token.lexemes text ++ behind)) ++ ⟨.closeBrace, ['\x7d']⟩ :: ls := by
    simpa using lexemes_advance ahead
  obtain ⟨taken, left, cut, whole, rest⟩ := List.map_eq_append_iff.mp regrouped
  obtain ⟨token, tail, rfl, closing, rfl⟩ := List.map_eq_cons_iff.mp rest
  have isClosing : token.kind = .closeBrace := congrArg Lexeme.kind closing
  have encloses : Fence.ofBlock.Encloses 0 (taken.map Token.lexeme) := by
    rw [whole]
    exact bounds.encloses_pad blank
  have stops : token.kind ∈ Fence.ofBlock.stops := by simp [Fence.ofBlock, isClosing]
  rw [readBlock, Fence.splitBlock_eq, cut, Fence.split_of_encloses encloses stops]
  have inside : (c.advance.goTo taken (token :: tail)).kind ≠ .endOfInput := by
    rw [kind_of_rest (c := c.advance.goTo taken (token :: tail)) rfl, isClosing]
    decide
  simp only [if_neg inside]
  exact ⟨Fence.raw_of_bounds bounds whole blank, rfl, rfl⟩

end Cursor

end ComponentStyles
