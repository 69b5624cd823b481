import ComponentStyles.Proofs.Pattern.Letters
import ComponentStyles.Proofs.Token.Longest

/-!
# The shapes of tokens

What the pattern of each kind says about the texts of that kind, as far as it decides where a token
ends: the comment ends at the first closing sign, strings and urls end at the quote or parenthesis
that closes them, and no other token but a blank has a character behind its first one that is not
an inner one.
-/

namespace ComponentStyles.Token

open Kind

/-- The class of name characters. -/
def namePartClass : CharClass :=
  .within [('a', 'z'), ('A', 'Z'), ('0', '9'), ('_', '_'), ('-', '-')]

/-- The class of characters behind the first one of a name, a number or a function. -/
def innerClass : CharClass :=
  .within [('a', 'z'), ('A', 'Z'), ('0', '9'), ('_', '_'), ('-', '-'), ('(', '('), ('.', '.'),
    ('%', '%')]

def isNamePart (c : Char) : Bool :=
  namePartClass.contains c

def isInner (c : Char) : Bool :=
  innerClass.contains c

variable {c d : Char} {front rest text name : Text}

theorem contains_oneOf_iff {chars : List Char} :
    (CharClass.oneOf chars).contains c = true ↔ c ∈ chars := by
  simp only [CharClass.oneOf, CharClass.contains, Bool.false_bne, List.any_map, List.any_eq_true,
    Function.comp_apply, Bool.and_eq_true, decide_eq_true_eq, ← Nat.le_antisymm_iff]
  constructor
  · rintro ⟨d, listed, same⟩
    rwa [← Char.toNat_inj.mp same]
  · exact fun listed => ⟨c, listed, rfl⟩

theorem contains_noneOf_iff {chars : List Char} :
    (CharClass.noneOf chars).contains c = true ↔ c ∉ chars := by
  rw [← contains_oneOf_iff]
  simp [CharClass.noneOf, CharClass.oneOf, CharClass.contains]

/-- Two cuts of one text, each at the first character that is not in a set, are the same cut. -/
theorem cut_unique {P : Char → Prop} {a b : Text} (same : a ++ c :: front = b ++ d :: rest)
    (inside : ∀ e ∈ a, P e) (insideToo : ∀ e ∈ b, P e) (outside : ¬ P c) (outsideToo : ¬ P d) :
    a = b ∧ c = d ∧ front = rest := by
  induction a generalizing b with
  | nil =>
      cases b with
      | nil => exact ⟨rfl, List.cons.inj same⟩
      | cons e b =>
          obtain ⟨rfl, _⟩ := List.cons.inj same
          exact absurd (insideToo c List.mem_cons_self) outside
  | cons e a inductionHypothesis =>
      cases b with
      | nil =>
          obtain ⟨rfl, _⟩ := List.cons.inj same
          exact absurd (inside e List.mem_cons_self) outsideToo
      | cons f b =>
          obtain ⟨rfl, later⟩ := List.cons.inj same
          rw [List.forall_mem_cons] at inside insideToo
          obtain ⟨rfl, rest⟩ := inductionHypothesis later inside.2 insideToo.2
          exact ⟨rfl, rest⟩

theorem matches_oneOf_iff {chars : String} :
    (oneOf chars).Matches text ↔ ∃ c ∈ chars.toList, text = [c] := by
  simp only [oneOf, Pattern.matches_one_iff, contains_oneOf_iff]

theorem matches_noneOf_iff {chars : String} :
    (noneOf chars).Matches text ↔ ∃ c, c ∉ chars.toList ∧ text = [c] := by
  simp only [noneOf, Pattern.matches_one_iff, contains_noneOf_iff]

section PrefixFree

/-- No text of the pattern goes on as another one. -/
def PrefixFree (p : Pattern) : Prop :=
  ∀ {front rest}, p.Matches front → p.Matches (front ++ rest) → rest = []

/-- A text without a sign that closes a comment. -/
def StaysOpen (text : Text) : Prop :=
  ¬ ['*', '/'] <:+: text

theorem staysOpen_cons (other : c ≠ '*' ∨ front.head? ≠ some '/') (later : StaysOpen front) :
    StaysOpen (c :: front) := by
  intro within
  rcases List.infix_cons_iff.mp within with ⟨rest, leading⟩ | within
  · obtain ⟨rfl, rfl⟩ := List.cons.inj leading
    simp at other
  · exact later within

theorem staysOpen_stars (stars : ∀ c ∈ front, c = '*') (other : rest.head? ≠ some '/')
    (later : StaysOpen rest) : StaysOpen (front ++ rest) := by
  induction front with
  | nil => exact later
  | cons c front inductionHypothesis =>
      rw [List.forall_mem_cons] at stars
      refine staysOpen_cons (.inr ?_) (inductionHypothesis stars.2)
      cases front with
      | nil => exact other
      | cons d front =>
          rw [List.append_eq, List.cons_append, List.head?_cons, stars.2 d List.mem_cons_self]
          decide

/-- A comment ends with the first sign that closes it. -/
theorem exists_inside_of_matches_comment (matched : comment.pattern.Matches text) :
    ∃ inside, text = '/' :: '*' :: (inside ++ ['*', '/']) ∧ StaysOpen (inside ++ ['*']) := by
  let body : Pattern :=
    .either (noneOf "*") (.both (.some (oneOf "*")) (noneOf "*/"))
  have staysOpen_body {text rest : Text} (matched : body.Matches text) (later : StaysOpen rest) :
      StaysOpen (text ++ rest) := by
    rcases Pattern.matches_either_iff.mp matched with matched | matched
    · obtain ⟨c, contained, rfl⟩ := Pattern.matches_one_iff.mp matched
      exact staysOpen_cons (.inl (by simpa using contains_noneOf_iff.mp contained)) later
    · obtain ⟨stars, last, rfl, some, one⟩ := Pattern.matches_both_iff.mp matched
      obtain ⟨c, contained, rfl⟩ := Pattern.matches_one_iff.mp one
      have other : c ≠ '*' ∧ c ≠ '/' := by simpa using contains_noneOf_iff.mp contained
      rw [List.append_assoc]
      refine staysOpen_stars ?_ (by simpa using other.2) (staysOpen_cons (.inl other.1) later)
      intro c listed
      simpa using contains_oneOf_iff.mp ((Pattern.matches_some_one_iff.mp some).2 c listed)
  have staysOpen_many {text rest : Text} (matched : (Pattern.many body).Matches text)
      (later : StaysOpen rest) : StaysOpen (text ++ rest) := by
    generalize repeated : Pattern.many body = p at matched
    induction matched with
    | done => exact later
    | more once _ _ inductionHypothesis =>
        cases repeated
        rw [List.append_assoc]
        exact staysOpen_body once (inductionHypothesis rfl)
    | _ => cases repeated
  simp only [pattern, Pattern.inOrder, Pattern.matches_both_iff, Pattern.matches_word_iff,
    matches_oneOf_iff] at matched
  obtain ⟨_, _, rfl, rfl, inside, _, rfl, many, stars, _, rfl, some, _, slash, rfl⟩ := matched
  obtain ⟨notEmpty, starred⟩ := Pattern.matches_some_one_iff.mp some
  obtain ⟨stars, last, rfl⟩ := (List.eq_nil_or_concat stars).resolve_left notEmpty
  rw [List.concat_eq_append] at starred
  have starred (c : Char) (listed : c ∈ stars ++ [last]) : c = '*' := by
    simpa using contains_oneOf_iff.mp (starred c listed)
  obtain rfl := starred last (by simp)
  obtain rfl : _ = '/' := by simpa using slash
  refine ⟨inside ++ stars, by simp, ?_⟩
  rw [List.append_assoc]
  have stays : StaysOpen (stars ++ ['*'] ++ []) :=
    staysOpen_stars starred (by simp) (by simp [StaysOpen])
  rw [List.append_nil] at stays
  exact staysOpen_many many stays

theorem prefixFree_comment : PrefixFree comment.pattern := by
  intro front rest matched longer
  obtain ⟨inside, rfl, _⟩ := exists_inside_of_matches_comment matched
  obtain ⟨insideToo, whole, stays⟩ := exists_inside_of_matches_comment longer
  rcases List.eq_nil_or_concat rest with nothing | ⟨rest, last, rfl⟩
  · exact nothing
  · exfalso
    have ends : (inside ++ ['*', '/'] ++ rest) ++ [last] = (insideToo ++ ['*']) ++ ['/'] := by
      simpa using whole
    have same := List.append_inj_left' ends rfl
    exact stays ⟨inside, rest, same⟩

/-- A repetition in front of a sign that its body never starts with is cut in one way only. -/
theorem many_cut_unique {body : Pattern} {a b : Text} (prefixFree : PrefixFree body)
    (never : ∀ text, ¬ body.Matches (c :: text))
    (many : (Pattern.many body).Matches a) (manyToo : (Pattern.many body).Matches b)
    (same : a ++ c :: front = b ++ c :: rest) : front = rest := by
  cases a with
  | nil =>
      cases b with
      | nil => exact (List.cons.inj same).2
      | cons d b =>
          obtain ⟨rfl, _⟩ := List.cons.inj same
          obtain ⟨once, _, _, first, _⟩ := Pattern.matches_many_cons_iff.mp manyToo
          exact absurd first (never once)
  | cons d a =>
      obtain ⟨once, others, rfl, first, later⟩ := Pattern.matches_many_cons_iff.mp many
      cases b with
      | nil =>
          obtain ⟨rfl, _⟩ := List.cons.inj same
          exact absurd first (never once)
      | cons e b =>
          obtain ⟨onceToo, othersToo, rfl, firstToo, laterToo⟩ :=
            Pattern.matches_many_cons_iff.mp manyToo
          obtain ⟨rfl, behind⟩ := List.cons.inj same
          simp only [List.append_eq, List.append_assoc] at behind
          have sameOthers : others ++ c :: front = othersToo ++ c :: rest := by
            rcases List.append_eq_append_iff.mp behind with ⟨more, rfl, left⟩ | ⟨more, rfl, left⟩
            · obtain rfl := prefixFree first firstToo
              exact left
            · obtain rfl := prefixFree firstToo first
              exact left.symm
          exact many_cut_unique prefixFree never later laterToo sameOthers
termination_by a.length
decreasing_by
  subst_vars
  simp only [List.length_cons, List.length_append]
  omega

/-- One step through a text between quotes: a character, or a backslash and a character. -/
def quotedStep (quote : Char) : Pattern :=
  .either (.one (.noneOf [quote, '\\', '\n'])) (.both (oneOf "\\") (noneOf "\n"))

theorem matches_quotedStep_iff {quote : Char} : (quotedStep quote).Matches text ↔
    (∃ c, c ≠ quote ∧ c ≠ '\\' ∧ c ≠ '\n' ∧ text = [c]) ∨ ∃ c, c ≠ '\n' ∧ text = ['\\', c] := by
  rw [quotedStep, Pattern.matches_either_iff, Pattern.matches_both_iff]
  simp only [Pattern.matches_one_iff, contains_noneOf_iff, matches_oneOf_iff, matches_noneOf_iff]
  constructor
  · rintro (⟨c, other, rfl⟩ | ⟨_, _, rfl, ⟨b, backslash, rfl⟩, c, other, rfl⟩)
    · exact .inl ⟨c, by simpa using other⟩
    · obtain rfl : b = '\\' := by simpa using backslash
      exact .inr ⟨c, by simpa using other, rfl⟩
  · rintro (⟨c, notQuote, notBackslash, notBreak, rfl⟩ | ⟨c, notBreak, rfl⟩)
    · exact .inl ⟨c, by simp [notQuote, notBackslash, notBreak], rfl⟩
    · exact .inr ⟨['\\'], [c], rfl, ⟨'\\', by simp, rfl⟩, c, by simpa using notBreak, rfl⟩

theorem exists_inside_of_matches_quoted {quote : Char} (matched : (quoted quote).Matches text) :
    ∃ inside, text = quote :: (inside ++ [quote]) ∧
      (Pattern.many (quotedStep quote)).Matches inside := by
  simp only [quoted, Pattern.inOrder, Pattern.matches_both_iff] at matched
  obtain ⟨_, _, rfl, opening, inside, _, rfl, many, closing⟩ := matched
  obtain ⟨_, contained, rfl⟩ := Pattern.matches_one_iff.mp opening
  obtain ⟨_, containedToo, rfl⟩ := Pattern.matches_one_iff.mp closing
  rw [contains_oneOf_iff, List.mem_singleton] at contained containedToo
  subst contained containedToo
  exact ⟨inside, rfl, many⟩

theorem prefixFree_quoted {quote : Char} (plain : quote ≠ '\\') : PrefixFree (quoted quote) := by
  intro front rest matched longer
  obtain ⟨inside, rfl, many⟩ := exists_inside_of_matches_quoted matched
  obtain ⟨insideToo, whole, manyToo⟩ := exists_inside_of_matches_quoted longer
  have same : inside ++ quote :: rest = insideToo ++ quote :: [] := by simpa using whole
  refine many_cut_unique ?_ ?_ many manyToo same
  · intro once more matched longer
    rw [matches_quotedStep_iff] at matched longer
    rcases matched with ⟨c, _, notBackslash, _, rfl⟩ | ⟨c, _, rfl⟩ <;>
      rcases longer with ⟨d, _, other, _, same⟩ | ⟨d, _, same⟩ <;> simp_all
  · intro text matched
    rw [matches_quotedStep_iff] at matched
    rcases matched with ⟨c, notQuote, _, _, same⟩ | ⟨c, _, same⟩ <;> simp_all

theorem prefixFree_string : PrefixFree string.pattern := by
  intro front rest matched longer
  rcases Pattern.matches_either_iff.mp matched with matched | matched <;>
    rcases Pattern.matches_either_iff.mp longer with longer | longer
  · exact prefixFree_quoted (by decide) matched longer
  · obtain ⟨_, rfl, _⟩ := exists_inside_of_matches_quoted matched
    obtain ⟨_, same, _⟩ := exists_inside_of_matches_quoted longer
    cases same
  · obtain ⟨_, rfl, _⟩ := exists_inside_of_matches_quoted matched
    obtain ⟨_, same, _⟩ := exists_inside_of_matches_quoted longer
    cases same
  · exact prefixFree_quoted (by decide) matched longer

theorem toLower_eq_iff {small capital : Char} (lowers : capital.toLower = small)
    (stays : small.toLower = small) (different : capital ≠ small) :
    c.toLower = small ↔ c = small ∨ c = capital := by
  constructor
  · intro same
    unfold Char.toLower at same lowers
    split at same
    · split at lowers
      · refine .inr (Char.ext ?_)
        have values := congrArg Char.val (same.trans lowers.symm)
        exact UInt32.add_left_inj _ |>.mp values
      · exact absurd lowers different
    · exact .inl same
  · rintro (rfl | rfl)
    · exact stays
    · exact lowers

theorem sameLetters_url_iff {head : Text} : Text.sameLetters head "url".toList = true ↔
    ∃ u ∈ "uU".toList, ∃ r ∈ "rR".toList, ∃ l ∈ "lL".toList, head = [u, r, l] := by
  have isU {c : Char} : c.toLower = 'u' ↔ c = 'u' ∨ c = 'U' :=
    toLower_eq_iff (by decide) (by decide) (by decide)
  have isR {c : Char} : c.toLower = 'r' ↔ c = 'r' ∨ c = 'R' :=
    toLower_eq_iff (by decide) (by decide) (by decide)
  have isL {c : Char} : c.toLower = 'l' ↔ c = 'l' ∨ c = 'L' :=
    toLower_eq_iff (by decide) (by decide) (by decide)
  have lowered : Text.lower "url".toList = ['u', 'r', 'l'] := by decide
  rw [Text.sameLetters, beq_iff_eq, lowered, Text.lower]
  constructor
  · intro same
    obtain ⟨u, _, rfl, isu, same⟩ := List.map_eq_cons_iff.mp same
    obtain ⟨r, _, rfl, isr, same⟩ := List.map_eq_cons_iff.mp same
    obtain ⟨l, _, rfl, isl, same⟩ := List.map_eq_cons_iff.mp same
    rw [isU] at isu
    rw [isR] at isr
    rw [isL] at isl
    rw [List.map_eq_nil_iff.mp same]
    exact ⟨u, by simpa using isu, r, by simpa using isr, l, by simpa using isl, rfl⟩
  · rintro ⟨u, isu, r, isr, l, isl, rfl⟩
    simp only [List.map_cons, List.map_nil, List.cons.injEq, and_true, isU, isR, isL]
    exact ⟨by simpa using isu, by simpa using isr, by simpa using isl⟩

def IsUrlBlank (c : Char) : Prop :=
  c ∈ " \t\r\n".toList

/-- The target of a url as it is written. -/
inductive UrlTarget : Text → Prop where
  | bare {target : Text} : (∀ c ∈ target, c ∉ ")\"' \t\r\n".toList) → UrlTarget target
  | quoted {quote : Char} {target : Text} : quote ∈ ['"', '\''] → quote ∉ target →
      UrlTarget (quote :: (target ++ [quote]))

def urlBlanks : Pattern :=
  .many (oneOf " \t\r\n")

def quotedTarget (sign : String) : Pattern :=
  .inOrder [oneOf sign, .many (noneOf sign), oneOf sign]

def urlTarget : Pattern :=
  .either (.many (noneOf ")\"' \t\r\n")) (.either (quotedTarget "\"") (quotedTarget "'"))

theorem matches_urlBlanks_iff : urlBlanks.Matches text ↔ ∀ c ∈ text, IsUrlBlank c := by
  simp only [urlBlanks, oneOf, Pattern.matches_many_one_iff, contains_oneOf_iff, IsUrlBlank]

theorem matches_quotedTarget_iff (quote : Char) {sign : String} (single : sign.toList = [quote]) :
    (quotedTarget sign).Matches text ↔
      ∃ target, text = quote :: (target ++ [quote]) ∧ quote ∉ target := by
  simp only [quotedTarget, Pattern.inOrder, Pattern.matches_both_iff, matches_oneOf_iff, noneOf,
    Pattern.matches_many_one_iff, contains_noneOf_iff, single, List.mem_singleton]
  constructor
  · rintro ⟨_, _, rfl, ⟨_, rfl, rfl⟩, target, _, rfl, others, _, rfl, rfl⟩
    exact ⟨target, rfl, fun listed => others _ listed rfl⟩
  · rintro ⟨target, rfl, others⟩
    exact ⟨[quote], _, rfl, ⟨quote, rfl, rfl⟩, target, [quote], rfl,
      fun c listed same => others (same ▸ listed), quote, rfl, rfl⟩

theorem matches_urlTarget_iff : urlTarget.Matches text ↔ UrlTarget text := by
  rw [urlTarget, Pattern.matches_either_iff, Pattern.matches_either_iff, noneOf,
    Pattern.matches_many_one_iff]
  simp only [contains_noneOf_iff]
  constructor
  · rintro (bare | quoted | quoted)
    · exact .bare bare
    · obtain ⟨target, rfl, others⟩ := (matches_quotedTarget_iff '"' rfl).mp quoted
      exact .quoted (by simp) others
    · obtain ⟨target, rfl, others⟩ := (matches_quotedTarget_iff '\'' rfl).mp quoted
      exact .quoted (by simp) others
  · intro isTarget
    cases isTarget with
    | bare bare => exact .inl bare
    | quoted listed others =>
        simp only [List.mem_cons, List.not_mem_nil, or_false] at listed
        rcases listed with rfl | rfl
        · exact .inr (.inl ((matches_quotedTarget_iff '"' rfl).mpr ⟨_, rfl, others⟩))
        · exact .inr (.inr ((matches_quotedTarget_iff '\'' rfl).mpr ⟨_, rfl, others⟩))

theorem matches_url_iff : url.pattern.Matches text ↔
    ∃ head before target behind,
      text = head ++ '(' :: (before ++ (target ++ (behind ++ [')']))) ∧
      Text.sameLetters head "url".toList = true ∧ (∀ c ∈ before, IsUrlBlank c) ∧
      UrlTarget target ∧ ∀ c ∈ behind, IsUrlBlank c := by
  have inOrder : url.pattern = .both (oneOf "uU") (.both (oneOf "rR") (.both (oneOf "lL")
      (.both (oneOf "(") (.both urlBlanks (.both urlTarget (.both urlBlanks (oneOf ")"))))))) :=
    rfl
  simp only [inOrder, Pattern.matches_both_iff, matches_urlBlanks_iff, matches_urlTarget_iff,
    matches_oneOf_iff, sameLetters_url_iff]
  constructor
  · rintro ⟨_, _, rfl, ⟨u, isU, rfl⟩, _, _, rfl, ⟨r, isR, rfl⟩, _, _, rfl, ⟨l, isL, rfl⟩, _, _, rfl,
      ⟨opening, isOpening, rfl⟩, before, _, rfl, blanks, target, _, rfl, isTarget, behind, _, rfl,
      blanksToo, closing, isClosing, rfl⟩
    obtain rfl : opening = '(' := by simpa using isOpening
    obtain rfl : closing = ')' := by simpa using isClosing
    exact ⟨[u, r, l], before, target, behind, rfl, ⟨u, isU, r, isR, l, isL, rfl⟩, blanks, isTarget,
      blanksToo⟩
  · rintro ⟨_, before, target, behind, rfl, ⟨u, isU, r, isR, l, isL, rfl⟩, blanks, isTarget,
      blanksToo⟩
    exact ⟨[u], _, rfl, ⟨u, isU, rfl⟩, [r], _, rfl, ⟨r, isR, rfl⟩, [l], _, rfl, ⟨l, isL, rfl⟩, ['('],
      _, rfl, ⟨'(', by simp, rfl⟩, before, _, rfl, blanks, target, _, rfl, isTarget, behind, _, rfl,
      blanksToo, ')', by simp, rfl⟩

/-- A parenthesis or a quote: the first one in a url decides where the url ends. -/
def IsUrlSign (c : Char) : Prop :=
  c ∈ [')', '"', '\'']

/-- What follows the first sign in a url. -/
def UrlEnd (sign : Char) (text : Text) : Prop :=
  (sign = ')' ∧ text = []) ∨
    sign ≠ ')' ∧ ∃ inside behind, text = inside ++ sign :: (behind ++ [')']) ∧ sign ∉ inside ∧
      ∀ c ∈ behind, ¬ IsUrlSign c

theorem IsUrlBlank.not_isUrlSign (blank : IsUrlBlank c) : ¬ IsUrlSign c := by
  simp only [IsUrlBlank, String.reduceToList, List.mem_cons, List.not_mem_nil, or_false] at blank
  rcases blank with rfl | rfl | rfl | rfl <;> simp [IsUrlSign]

theorem exists_urlEnd_of_matches (matched : url.pattern.Matches text) :
    ∃ head before sign ending, text = head ++ '(' :: (before ++ sign :: ending) ∧
      head.length = 3 ∧ (∀ c ∈ before, ¬ IsUrlSign c) ∧ IsUrlSign sign ∧ UrlEnd sign ending := by
  obtain ⟨head, before, target, behind, rfl, isHead, blanks, isTarget, blanksToo⟩ :=
    matches_url_iff.mp matched
  obtain ⟨u, _, r, _, l, _, rfl⟩ := sameLetters_url_iff.mp isHead
  have plain (c : Char) (listed : c ∈ before) := (blanks c listed).not_isUrlSign
  have plainToo (c : Char) (listed : c ∈ behind) := (blanksToo c listed).not_isUrlSign
  cases isTarget with
  | bare bare =>
      have plainTarget (c : Char) (listed : c ∈ target) : ¬ IsUrlSign c := by
        intro sign
        refine bare c listed ?_
        simp only [IsUrlSign, List.mem_cons, List.not_mem_nil, or_false] at sign
        rcases sign with rfl | rfl | rfl <;> simp
      refine ⟨[u, r, l], before ++ (target ++ behind), ')', [], by simp, rfl, ?_, by simp [IsUrlSign],
        .inl ⟨rfl, rfl⟩⟩
      simpa only [List.forall_mem_append] using ⟨plain, plainTarget, plainToo⟩
  | @quoted quote target listed others =>
      refine ⟨[u, r, l], before, quote, target ++ quote :: (behind ++ [')']), by simp, rfl, plain,
        List.mem_cons_of_mem _ listed, .inr ⟨?_, target, behind, rfl, others, plainToo⟩⟩
      rintro rfl
      simp at listed

theorem prefixFree_url : PrefixFree url.pattern := by
  intro front rest matched longer
  obtain ⟨head, before, sign, ending, rfl, length, plain, isSign, ends⟩ :=
    exists_urlEnd_of_matches matched
  obtain ⟨headToo, beforeToo, signToo, endingToo, whole, lengthToo, plainToo, isSignToo, endsToo⟩ :=
    exists_urlEnd_of_matches longer
  simp only [List.append_assoc, List.cons_append] at whole
  obtain ⟨_, same⟩ := List.append_inj whole (length.trans lengthToo.symm)
  obtain ⟨_, rfl, sameEnding⟩ := cut_unique (List.cons.inj same).2 plain plainToo
    (not_not_intro isSign) (not_not_intro isSignToo)
  rcases ends with ⟨rfl, rfl⟩ | ⟨notClosing, inside, behind, rfl, others, plainBehind⟩
  · rcases endsToo with ⟨_, rfl⟩ | ⟨notClosing, _⟩
    · exact sameEnding
    · exact absurd rfl notClosing
  · obtain ⟨_, insideToo, behindToo, rfl, othersToo, plainBehindToo⟩ :=
      endsToo.resolve_left fun closing => notClosing closing.1
    simp only [List.append_assoc, List.cons_append] at sameEnding
    obtain ⟨_, _, sameBehind⟩ := cut_unique (P := (· ≠ sign)) sameEnding
      (fun c listed same => others (same ▸ listed)) (fun c listed same => othersToo (same ▸ listed))
      (not_not_intro rfl) (not_not_intro rfl)
    have closing : IsUrlSign ')' := List.mem_cons_self
    exact (cut_unique sameBehind plainBehind plainBehindToo (not_not_intro closing)
      (not_not_intro closing)).2.2

end PrefixFree

end ComponentStyles.Token
