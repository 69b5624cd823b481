import ComponentStyles.Proofs.Token.Boundary

/-!
# Plain runs of tokens

A run of tokens is plain when nothing in it depends on text far behind: no string is left open, no
parenthesis of a url either, no slash is followed by a star, and no blank hides in an invalid token.
In front of a delimiter a plain run is cut as it is on its own.
-/

namespace ComponentStyles.Token

open Kind

variable {kind : Kind} {c d : Char} {front rest text : Text}

/-- A token that stays what it is when the text behind it changes. -/
structure Lexeme.IsTame (l : Lexeme) : Prop where
  notOpen : l.kind = .invalid → ∀ c ∈ l.text.head?, c ∉ ['"', '\''] ∧ Text.isBlank c = false
  notUrl : l.kind = .function → Text.sameLetters l.text.dropLast "url".toList = false

instance (l : Lexeme) : Decidable l.IsTame :=
  decidable_of_iff
    ((l.kind = .invalid → ∀ c ∈ l.text.head?, c ∉ ['"', '\''] ∧ Text.isBlank c = false) ∧
      (l.kind = .function → Text.sameLetters l.text.dropLast "url".toList = false))
    ⟨fun ⟨notOpen, notUrl⟩ => ⟨notOpen, notUrl⟩, fun tame => ⟨tame.notOpen, tame.notUrl⟩⟩

structure Plain (ls : List Lexeme) : Prop where
  cut : IsCut ls
  tame : ∀ l ∈ ls, l.IsTame
  apart : ∀ {a b}, [a, b] <:+: ls → a.kind = .slash → b.kind ≠ .star

theorem Plain.of_within {ls others : List Lexeme} (plain : Plain others) (within : ls <:+: others) :
    Plain ls :=
  ⟨plain.cut.of_within within, fun l listed => plain.tame l (within.subset listed),
    fun neighbours => plain.apart (neighbours.trans within)⟩

/-- What a text without slashes is cut into is plain when every lexeme is tame. -/
theorem plain_of_no_slash (each : ∀ l ∈ lexemes text, l.IsTame ∧ l.kind ≠ .slash) :
    Plain (lexemes text) := by
  refine ⟨isCut_lexemes text, fun l listed => (each l listed).1, fun {a b} within isSlash => ?_⟩
  exact absurd isSlash (each a (within.subset List.mem_cons_self)).2

theorem Plain.spells {ls : List Lexeme} (plain : Plain ls) {l : Lexeme} (listed : l ∈ ls) :
    l.kind.Spells l.text :=
  plain.cut.spells listed

/-- A character that ends every token but a blank, a comment, a string and a url. -/
def Delimits (d : Char) : Prop :=
  isInner d = false ∧ d ≠ '*'

/-- Only blanks, comments, urls and strings have other characters than inner ones behind the first
one. -/
theorem inner_of_matches (listed : kind ∈ described) (matched : kind.pattern.Matches (c :: text)) :
    kind ∈ [whitespace, comment, url, string] ∨ ∀ d ∈ text, isInner d = true := by
  have within : ∀ kind ∈ described, kind ∈ [whitespace, comment, url, string] ∨
      kind.pattern.laters.all (·.within? innerClass) = true := by decide +kernel
  refine (within kind listed).imp_right fun within d behind => ?_
  exact Pattern.contains_of_laters_within within matched behind

section Delimiter

theorem mem_quotes_of_matches_string (matched : string.pattern.Matches (c :: text)) :
    c ∈ ['"', '\''] := by
  rcases Pattern.matches_either_iff.mp matched with matched | matched
  · obtain ⟨_, same, _⟩ := exists_inside_of_matches_quoted matched
    simp [(List.cons.inj same).1]
  · obtain ⟨_, same, _⟩ := exists_inside_of_matches_quoted matched
    simp [(List.cons.inj same).1]

theorem prefix_append_iff {a b : Text} : front <+: a ++ b ↔
    front <+: a ∨ ∃ more, more ≠ [] ∧ front = a ++ more ∧ more <+: b := by
  constructor
  · rintro ⟨rest, same⟩
    rcases List.append_eq_append_iff.mp same with ⟨more, rfl, _⟩ | ⟨more, rfl, rfl⟩
    · exact .inl (List.prefix_append front more)
    · cases more with
      | nil => exact .inl ⟨[], by simp⟩
      | cons c more =>
          exact .inr ⟨c :: more, List.cons_ne_nil c more, rfl, List.prefix_append _ rest⟩
  · rintro (within | ⟨more, _, rfl, within⟩)
    · exact within.trans (List.prefix_append a b)
    · exact (List.prefix_append_right_inj a).mpr within

/-- A token in front of which a described text stands is described itself. -/
theorem Leads.matches_of_described (leads : Leads kind front rest) {part : Text}
    (leading : part <+: front) (found : Kind.of? part ≠ none) :
    kind ∈ Kind.described ∧ kind.pattern.Matches front := by
  cases leads with
  | described found _ => exact ⟨mem_described_of_of? found, matches_of_of? found⟩
  | invalid _ undescribed => exact absurd (undescribed part leading) found

/-- A token is at least as long as every described text in front. -/
theorem Leads.prefix_of_described (leads : Leads kind front rest) {part : Text}
    (leading : part <+: front ++ rest) (found : Kind.of? part ≠ none) : part <+: front := by
  rcases prefix_append_iff.mp leading with short | ⟨more, notEmpty, rfl, within⟩
  · exact short
  · exfalso
    cases leads with
    | described _ longest => exact found (longest more notEmpty within)
    | invalid _ _ _ closed =>
        obtain ⟨c, more, rfl⟩ := List.exists_cons_of_ne_nil notEmpty
        obtain ⟨behind, rfl⟩ := within
        refine closed c rfl (IsOpen.of_append (b := more) ?_)
        obtain ⟨other, described⟩ := Option.ne_none_iff_exists'.mp found
        simpa using isOpen_of_of? described

theorem of?_ne_none (listed : kind ∈ Kind.described) (matched : kind.pattern.Matches text) :
    Kind.of? text ≠ none :=
  fun found => of?_eq_none_iff.mp found kind listed matched

/-- A blank takes in every blank behind it. -/
theorem Leads.not_whitespace_past (leads : Leads kind front rest)
    (solid : rest = [] → d ∈ blanks → kind ≠ whitespace) (more : Text) :
    ¬ whitespace.pattern.Matches (front ++ (rest ++ d :: more)) := by
  intro matched
  have blank := (matches_whitespace_iff.mp matched).2
  simp only [List.forall_mem_append, List.forall_mem_cons] at blank
  obtain ⟨blankFront, blankRest, blankDelimiter, _⟩ := blank
  have described : whitespace.pattern.Matches (front ++ rest) :=
    matches_whitespace_iff.mpr
      ⟨List.append_ne_nil_of_left_ne_nil leads.ne_nil rest,
        List.forall_mem_append.mpr ⟨blankFront, blankRest⟩⟩
  have whole := leads.prefix_of_described (List.prefix_refl _) (of?_ne_none (by decide) described)
  obtain rfl : rest = [] := by
    have short := whole.length_le
    rw [List.length_append] at short
    exact List.length_eq_zero_iff.mp (by omega)
  rw [List.append_nil] at described
  obtain ⟨isDescribed, matchedFront⟩ :=
    leads.matches_of_described (List.prefix_refl _) (of?_ne_none (by decide) described)
  obtain ⟨c, tail, rfl⟩ := List.exists_cons_of_ne_nil leads.ne_nil
  exact solid rfl blankDelimiter
    (eq_whitespace_of_matches_blank isDescribed matchedFront (blankFront c List.mem_cons_self))

/-- A comment opens with a slash and a star, and ends with a star and a slash. -/
theorem Leads.not_comment_past (leads : Leads kind front rest) {more : Text}
    (stays : kind = slash → rest.head? = some '*' → StaysOpen (rest.tail ++ d :: more))
    (notStar : d ≠ '*') : ¬ comment.pattern.Matches (front ++ (rest ++ d :: more)) := by
  intro matched
  obtain ⟨inside, same, _⟩ := exists_inside_of_matches_comment matched
  obtain ⟨c, tail, rfl⟩ := List.exists_cons_of_ne_nil leads.ne_nil
  obtain ⟨rfl, behind⟩ := List.cons.inj same
  have only : kindsFrom '/' = [comment, slash] := rfl
  obtain ⟨isDescribed, matchedFront⟩ :=
    leads.matches_of_described (List.prefix_append ['/'] tail)
      (of?_ne_none (show slash ∈ Kind.described by decide) (matches_oneOf_iff.mpr ⟨'/', by simp, rfl⟩))
  have few := mem_kindsFrom isDescribed matchedFront
  simp only [only, List.mem_cons, List.not_mem_nil, or_false] at few
  rcases few with rfl | rfl
  · cases rest <;> cases prefixFree_comment matchedFront matched
  · obtain ⟨_, _, single⟩ := matches_oneOf_iff.mp matchedFront
    obtain ⟨_, rfl⟩ := List.cons.inj single
    cases rest with
    | nil => exact notStar (List.cons.inj behind).1
    | cons e rest =>
        obtain ⟨rfl, ends⟩ := List.cons.inj behind
        refine stays rfl rfl ⟨inside, [], ?_⟩
        simpa using ends.symm

theorem isInner_of_isNamePart (part : isNamePart c = true) : isInner c = true :=
  CharClass.contains_of_within? (by decide) part

/-- A url opens with a function, which the delimiter cannot be part of. -/
theorem Leads.function_of_url_past (leads : Leads kind front rest) (notInner : isInner d = false)
    {more : Text} (matched : url.pattern.Matches (front ++ (rest ++ d :: more))) :
    kind = function ∧ Text.sameLetters front.dropLast "url".toList = true ∧
      ∃ before target behind, rest ++ d :: more = before ++ (target ++ (behind ++ [')'])) ∧
        (∀ c ∈ before, IsUrlBlank c) ∧ UrlTarget target ∧ ∀ c ∈ behind, IsUrlBlank c := by
  obtain ⟨head, before, target, behind, same, isUrl, blanks, isTarget, blanksToo⟩ :=
    matches_url_iff.mp matched
  have isFunction : function.pattern.Matches (head ++ ['(']) :=
    matches_function_iff.mpr ⟨head, rfl, matches_dashedName_of_sameLetters_url isUrl⟩
  have inner (e : Char) (listed : e ∈ head ++ ['(']) : isInner e = true := by
    rcases List.mem_append.mp listed with listed | listed
    · exact isInner_of_isNamePart (isNamePart_of_sameLetters_url isUrl listed)
    · obtain rfl := List.mem_singleton.mp listed
      decide
  have inFront : head ++ ['('] <+: front := by
    refine leads.prefix_of_described ?_ (of?_ne_none (by decide) isFunction)
    have leading : head ++ ['('] <+: (front ++ rest) ++ d :: more :=
      ⟨before ++ (target ++ (behind ++ [')'])), by simpa using same.symm⟩
    rcases prefix_append_iff.mp leading with short | ⟨past, notEmpty, through, within⟩
    · exact short
    · obtain ⟨e, past, rfl⟩ := List.exists_cons_of_ne_nil notEmpty
      obtain ⟨rfl, _⟩ := List.cons_prefix_cons.mp within
      have isInner := inner e (through ▸ by simp)
      rw [notInner] at isInner
      cases isInner
  obtain ⟨isDescribed, matchedFront⟩ :=
    leads.matches_of_described inFront (of?_ne_none (by decide) isFunction)
  obtain ⟨tail, rfl⟩ := inFront
  rcases kinds_of_call (matches_dashedName_of_sameLetters_url isUrl) isDescribed
    (by simpa using matchedFront) with ⟨rfl, rfl⟩ | ⟨rfl, _⟩
  · refine ⟨rfl, by simpa using isUrl, before, target, behind, ?_, blanks, isTarget, blanksToo⟩
    simpa using same
  · cases rest <;> cases prefixFree_url matchedFront matched

theorem Leads.not_url_past (leads : Leads kind front rest) (tame : Lexeme.IsTame ⟨kind, front⟩)
    (notInner : isInner d = false) (more : Text) :
    ¬ url.pattern.Matches (front ++ (rest ++ d :: more)) := by
  intro matched
  obtain ⟨isFunction, isUrl, -⟩ := leads.function_of_url_past notInner matched
  have notUrl := tame.notUrl isFunction
  rw [isUrl] at notUrl
  cases notUrl

/-- A string opens with a quote and ends where the token does. -/
theorem Leads.not_string_past (leads : Leads kind front rest)
    (notOpen : kind = .invalid → ∀ c ∈ front.head?, c ∉ ['"', '\'']) (more : Text) :
    ¬ string.pattern.Matches (front ++ (rest ++ d :: more)) := by
  intro matched
  obtain ⟨c, tail, rfl⟩ := List.exists_cons_of_ne_nil leads.ne_nil
  have quote := mem_quotes_of_matches_string matched
  cases leads with
  | invalid => exact notOpen rfl c rfl quote
  | described found _ =>
      have few := mem_kindsFrom (mem_described_of_of? found) (matches_of_of? found)
      rw [kindsFrom_quote quote, List.mem_singleton] at few
      subst few
      cases rest <;> cases prefixFree_string (matches_of_of? found) matched

/-- A name takes in the name behind it, so no two stand next to each other. -/
theorem IsCut.not_identifier_behind {l next : Lexeme} {ls : List Lexeme}
    (cut : IsCut (l :: next :: ls)) (name : l.kind = identifier ∨ l.kind = .hash) :
    next.kind ≠ identifier := by
  intro isName
  obtain ⟨leads, later⟩ := isCut_cons_iff.mp cut
  have spells : identifier.Spells next.text := isName ▸ later.spells List.mem_cons_self
  obtain ⟨c, tail, text, isHead⟩ :=
    exists_head_of_matches_dashedName (spells_identifier_iff.mp spells)
  have isPart : isNamePart c = true := CharClass.contains_of_within? (by decide) isHead
  have alone : l.kind.Spells l.text := cut.spells List.mem_cons_self
  have longer : Kind.of? (l.text ++ [c]) ≠ none := by
    rcases name with name | name
    · rw [name, spells_identifier_iff] at alone
      exact of?_ne_none (show identifier ∈ Kind.described by decide)
        (matches_dashedName_append alone (by simpa using isPart))
    · rw [name] at alone
      obtain ⟨hash, same⟩ := exists_hash_of_spells alone
      rw [same, spells_hash_iff] at alone
      rw [same]
      exact of?_ne_none (show .hash ∈ Kind.described by decide) (spells_hash_iff.mpr
        ⟨by simp, by simpa [or_imp, forall_and] using ⟨alone.2, isPart⟩⟩ |>.matches (by decide))
  have short := (leads.prefix_of_described ⟨tail ++ textOf ls, by simp [text]⟩ longer).length_le
  rw [List.length_append, List.length_singleton] at short
  omega

/-- No described text reaches past a delimiter if neither a comment nor a url does and no string is
left open. -/
theorem Leads.not_matches_past (leads : Leads kind front rest) {more : Text}
    (notOpen : kind = .invalid → ∀ c ∈ front.head?, c ∉ ['"', '\''])
    (noComment : ¬ comment.pattern.Matches (front ++ (rest ++ d :: more)))
    (noUrl : ¬ url.pattern.Matches (front ++ (rest ++ d :: more)))
    (delimits : Delimits d) (solid : rest = [] → d ∈ blanks → kind ≠ whitespace)
    {other : Kind} (listed : other ∈ Kind.described) :
    ¬ other.pattern.Matches (front ++ (rest ++ d :: more)) := by
  intro matched
  have few : other ∈ [whitespace, comment, url, string] := by
    obtain ⟨c, tail, rfl⟩ := List.exists_cons_of_ne_nil leads.ne_nil
    refine (inner_of_matches listed matched).resolve_right fun inner => ?_
    have isInner := inner d (by simp)
    rw [delimits.1] at isInner
    cases isInner
  simp only [List.mem_cons, List.not_mem_nil, or_false] at few
  rcases few with rfl | rfl | rfl | rfl
  · exact leads.not_whitespace_past solid more matched
  · exact noComment matched
  · exact noUrl matched
  · exact leads.not_string_past notOpen more matched

/-- A described token is cut in front of a delimiter as it is cut at the end, if no described text
reaches past the delimiter. -/
theorem Leads.of_described (leads : Leads kind front rest) (valid : kind ≠ .invalid) {behind : Text}
    (past : ∀ other ∈ Kind.described, ∀ more, more <+: behind →
      ¬ other.pattern.Matches (front ++ (rest ++ d :: more))) :
    Leads kind front (rest ++ d :: behind) := by
  cases leads with
  | invalid => exact absurd rfl valid
  | described found longest =>
      refine .described found fun more notEmpty leading => ?_
      rcases prefix_append_iff.mp leading with short | ⟨more, someMore, rfl, within⟩
      · exact longest more notEmpty short
      · obtain ⟨e, more, rfl⟩ := List.exists_cons_of_ne_nil someMore
        obtain ⟨rfl, later⟩ := List.cons_prefix_cons.mp within
        exact of?_eq_none_iff.mpr fun other listed => past other listed more later

/-- A token of a plain run is cut in front of a delimiter as it is cut at the end. -/
theorem Leads.of_delimiter (leads : Leads kind front rest)
    (tame : Lexeme.IsTame ⟨kind, front⟩) (apart : kind = slash → rest.head? ≠ some '*')
    (delimits : Delimits d) (solid : rest = [] → d ∈ blanks → kind ≠ whitespace) (behind : Text) :
    Leads kind front (rest ++ d :: behind) := by
  have past {other : Kind} (listed : other ∈ Kind.described) (more : Text) :
      ¬ other.pattern.Matches (front ++ (rest ++ d :: more)) :=
    leads.not_matches_past (fun invalid c first => (tame.notOpen invalid c first).1)
      (leads.not_comment_past (fun isSlash star => absurd star (apart isSlash)) delimits.2)
      (leads.not_url_past tame delimits.1 more) delimits solid listed
  by_cases valid : kind = .invalid
  case neg => exact leads.of_described valid fun other listed more _ => past listed more
  subst valid
  cases leads with
  | described found _ => exact absurd (mem_described_of_of? found) (by decide)
  | invalid notEmpty undescribed opened closed =>
      refine .invalid notEmpty undescribed opened fun e next => ?_
      cases rest with
      | cons _ _ => exact closed e next
      | nil =>
          obtain rfl : d = e := by simpa using next
          rintro ⟨other, listed, more, matched⟩
          exact past listed more (by simpa using matched)

theorem head?_textOf_ne_star {l : Lexeme} {ls : List Lexeme} (plain : Plain (l :: ls))
    (isSlash : l.kind = slash) : (textOf ls).head? ≠ some '*' := by
  intro star
  cases ls with
  | nil => cases star
  | cons next ls =>
      obtain ⟨leads, _⟩ := isCut_cons_iff.mp (isCut_cons_iff.mp plain.cut).2
      obtain ⟨c, tail, text⟩ := List.exists_cons_of_ne_nil leads.ne_nil
      obtain rfl : c = '*' := by simpa [text] using star
      have single : Leads Kind.star ['*'] (tail ++ textOf ls) := leads_single rfl
      have isStar := (leads.unique single (by simp [text])).1
      exact plain.apart (List.prefix_append [l, next] ls).isInfix isSlash isStar

/-- In front of a delimiter a plain run is cut as it is on its own. -/
theorem Plain.lexemes_append {ls : List Lexeme} (plain : Plain ls) (delimits : Delimits d)
    (solid : d ∈ blanks → ∀ l ∈ ls.getLast?, l.kind ≠ whitespace) :
    lexemes (textOf ls ++ d :: rest) = ls ++ lexemes (d :: rest) := by
  induction ls with
  | nil => rfl
  | cons l ls inductionHypothesis =>
      have later : Plain ls := plain.of_within (List.suffix_cons l ls).isInfix
      have leads : Leads l.kind l.text (textOf ls ++ d :: rest) := by
        refine (isCut_cons_iff.mp plain.cut).1.of_delimiter (plain.tame l List.mem_cons_self)
          (head?_textOf_ne_star plain) delimits (fun nothing blank => ?_) rest
        cases ls with
        | nil => exact solid blank l rfl
        | cons next ls =>
            have leads := (isCut_cons_iff.mp later.cut).1
            exact absurd (List.append_eq_nil_iff.mp nothing).1 leads.ne_nil
      rw [textOf_cons, List.append_assoc, Token.lexemes_append leads, inductionHypothesis later]
      · rfl
      · intro blank last isLast
        refine solid blank last ?_
        cases ls with
        | nil => cases isLast
        | cons next ls => exact isLast

end Delimiter

section Trim

theorem isBlank_of_mem_blanks (blank : c ∈ blanks) : Text.isBlank c = true := by
  have all : ∀ c ∈ blanks, Text.isBlank c = true := by decide
  exact all c blank

/-- The class of printing ASCII characters. -/
def printingClass : CharClass :=
  .within [('!', '~')]

theorem isBlank_of_printing (printing : printingClass.contains c = true) :
    Text.isBlank c = false := by
  simp [printingClass, CharClass.within, CharClass.contains] at printing
  simp [Text.isBlank]
  omega

theorem printing_of_isInner (inner : isInner c = true) : printingClass.contains c = true :=
  CharClass.contains_of_within? (by decide) inner

/-- Either all of the token is blank, or neither end of it is. -/
structure Lexeme.IsSolid (l : Lexeme) : Prop where
  blank : l.kind = .whitespace → ∀ c ∈ l.text, Text.isBlank c = true
  first : l.kind ≠ .whitespace → ∃ c tail, l.text = c :: tail ∧ Text.isBlank c = false
  last : l.kind ≠ .whitespace → ∃ c initial, l.text = initial ++ [c] ∧ Text.isBlank c = false

theorem printing_first (listed : kind ∈ described) (matched : kind.pattern.Matches (c :: text))
    (notBlank : kind ≠ whitespace) : printingClass.contains c = true := by
  have within : ∀ kind ∈ described, kind = whitespace ∨
      kind.pattern.firsts.all (·.within? printingClass) = true := by decide +kernel
  exact Pattern.contains_of_firsts_within ((within kind listed).resolve_left notBlank) matched

theorem printing_last (listed : kind ∈ described) (matched : kind.pattern.Matches (text ++ [c]))
    (notBlank : kind ≠ whitespace) : printingClass.contains c = true := by
  cases text with
  | nil => exact printing_first listed matched notBlank
  | cons first text =>
      rcases inner_of_matches listed matched with few | inner
      case inr => exact printing_of_isInner (inner c (by simp))
      simp only [List.mem_cons, List.not_mem_nil, or_false, notBlank, false_or] at few
      rcases few with rfl | rfl | rfl
      · obtain ⟨inside, same, _⟩ := exists_inside_of_matches_comment matched
        have ends : (first :: text) ++ [c] = ('/' :: '*' :: (inside ++ ['*'])) ++ ['/'] := by
          simpa using same
        obtain rfl := List.cons.inj (List.append_inj' ends rfl).2 |>.1
        decide
      · obtain ⟨head, before, target, behind, same, _⟩ := matches_url_iff.mp matched
        have ends : (first :: text) ++ [c] =
            (head ++ '(' :: (before ++ (target ++ behind))) ++ [')'] := by simpa using same
        obtain rfl := List.cons.inj (List.append_inj' ends rfl).2 |>.1
        decide
      · have closing {quote : Char} (quoted : (quoted quote).Matches (first :: text ++ [c])) :
            c = quote := by
          obtain ⟨inside, same, _⟩ := exists_inside_of_matches_quoted quoted
          have ends : (first :: text) ++ [c] = (quote :: inside) ++ [quote] := by simpa using same
          exact (List.cons.inj (List.append_inj' ends rfl).2).1
        rcases Pattern.matches_either_iff.mp matched with matched | matched
        · rw [closing matched]
          decide
        · rw [closing matched]
          decide

/-- Behind its first character an invalid token that opens no string has inner ones only. -/
theorem inner_of_invalid (spells : Kind.invalid.Spells (c :: text)) (notQuote : c ∉ ['"', '\''])
    (listed : d ∈ text) : isInner d = true := by
  cases spells with
  | described found _ => exact absurd (mem_described_of_of? found) (by decide)
  | invalid _ undescribed opened _ =>
      obtain ⟨kind, isDescribed, more, matched⟩ := opened.resolve_left fun single => by
        obtain rfl : text = [] := by simpa using single
        cases listed
      refine (inner_of_matches isDescribed matched).resolve_left (fun few => ?_) d
        (List.mem_append_left more listed)
      have nothing : Kind.of? [c] = none := undescribed [c] (List.prefix_append [c] text)
      have found : ∀ c ∈ blanks ++ ['/', 'u', 'U'], Kind.of? [c] ≠ none := by decide +kernel
      simp only [List.mem_cons, List.not_mem_nil, or_false] at few
      rcases few with rfl | rfl | rfl | rfl
      · have blank := (matches_whitespace_iff.mp matched).2 c List.mem_cons_self
        exact found c (List.mem_append_left _ blank) nothing
      · obtain ⟨_, same, _⟩ := exists_inside_of_matches_comment matched
        exact found c (by simp [(List.cons.inj same).1]) nothing
      · obtain ⟨head, _, _, _, same, isUrl, _⟩ := matches_url_iff.mp matched
        obtain ⟨u, isU, r, _, l, _, rfl⟩ := sameLetters_url_iff.mp isUrl
        obtain ⟨rfl, _⟩ := List.cons.inj same
        exact found c (by simp at isU ⊢; grind) nothing
      · exact notQuote (mem_quotes_of_matches_string matched)

theorem Lexeme.isSolid_of_notOpen {l : Lexeme} (spells : l.kind.Spells l.text)
    (notOpen : l.kind = .invalid → ∀ c ∈ l.text.head?, c ∉ ['"', '\''] ∧ Text.isBlank c = false) :
    l.IsSolid := by
  obtain ⟨kind, text⟩ := l
  have notEmpty : text ≠ [] := spells.ne_nil
  have ends (valid : kind ≠ .invalid) (notBlank : kind ≠ .whitespace) :
      kind ∈ described ∧ kind.pattern.Matches text := by
    cases spells with
    | described found _ => exact ⟨mem_described_of_of? found, matches_of_of? found⟩
    | invalid => exact absurd rfl valid
  constructor
  · rintro rfl c listed
    exact isBlank_of_mem_blanks ((matches_whitespace_iff.mp (spells.matches nofun)).2 c listed)
  · intro notBlank
    obtain ⟨c, tail, rfl⟩ := List.exists_cons_of_ne_nil notEmpty
    refine ⟨c, tail, rfl, ?_⟩
    by_cases valid : kind = .invalid
    · exact (notOpen valid c rfl).2
    · obtain ⟨listed, matched⟩ := ends valid notBlank
      exact isBlank_of_printing (printing_first listed matched notBlank)
  · intro notBlank
    obtain ⟨initial, c, rfl⟩ := (List.eq_nil_or_concat text).resolve_left notEmpty
    rw [List.concat_eq_append] at *
    refine ⟨c, initial, rfl, ?_⟩
    by_cases valid : kind = .invalid
    · cases initial with
      | nil => exact (notOpen valid c rfl).2
      | cons first initial =>
          subst valid
          have inner := inner_of_invalid spells (notOpen rfl first rfl).1 (d := c) (by simp)
          exact isBlank_of_printing (printing_of_isInner inner)
    · obtain ⟨listed, matched⟩ := ends valid notBlank
      exact isBlank_of_printing (printing_last listed matched notBlank)

theorem Plain.isSolid {ls : List Lexeme} (plain : Plain ls) {l : Lexeme} (listed : l ∈ ls) :
    l.IsSolid :=
  Lexeme.isSolid_of_notOpen (plain.spells listed) (plain.tame l listed).notOpen

def Lexeme.isBlank (l : Lexeme) : Bool :=
  l.kind = .whitespace

/-- A run of lexemes without the blanks around it. -/
def strip (ls : List Lexeme) : List Lexeme :=
  ((ls.dropWhile Lexeme.isBlank).reverse.dropWhile Lexeme.isBlank).reverse

theorem dropWhile_flatMap {ls : List Lexeme} {spelling : Lexeme → Text}
    (blank : ∀ l ∈ ls, l.kind = .whitespace → ∀ c ∈ spelling l, Text.isBlank c = true)
    (first : ∀ l ∈ ls, l.kind ≠ .whitespace →
      ∃ c tail, spelling l = c :: tail ∧ Text.isBlank c = false) :
    (ls.flatMap spelling).dropWhile Text.isBlank =
      (ls.dropWhile Lexeme.isBlank).flatMap spelling := by
  induction ls with
  | nil => rfl
  | cons l ls inductionHypothesis =>
      rw [List.forall_mem_cons] at blank first
      by_cases isBlank : l.kind = .whitespace
      · rw [List.flatMap_cons, List.dropWhile_append_of_pos (blank.1 isBlank),
          List.dropWhile_cons_of_pos (by simpa [Lexeme.isBlank] using isBlank)]
        exact inductionHypothesis blank.2 first.2
      · obtain ⟨c, tail, same, notBlank⟩ := first.1 isBlank
        rw [List.dropWhile_cons_of_neg (by simpa [Lexeme.isBlank] using isBlank),
          List.flatMap_cons, same, List.cons_append, List.dropWhile_cons_of_neg (by simp [notBlank])]

/-- Trimming the text of a run strips the run. -/
theorem trim_textOf {ls : List Lexeme} (solid : ∀ l ∈ ls, l.IsSolid) :
    Text.trim (textOf ls) = textOf (strip ls) := by
  have start : Text.trimStart (textOf ls) = textOf (ls.dropWhile Lexeme.isBlank) :=
    dropWhile_flatMap (fun l listed => (solid l listed).blank) (fun l listed => (solid l listed).first)
  have remaining {l : Lexeme} (listed : l ∈ (ls.dropWhile Lexeme.isBlank).reverse) : l.IsSolid :=
    solid l ((List.dropWhile_sublist _).subset (List.mem_reverse.mp listed))
  have turned (ls : List Lexeme) :
      (textOf ls).reverse = ls.reverse.flatMap fun l => l.text.reverse := by
    simp [textOf, List.reverse_flatMap]
    rfl
  rw [Text.trim, start, Text.trimEnd, turned, dropWhile_flatMap, strip]
  · rw [← List.reverse_reverse (textOf _), turned, List.reverse_reverse]
  · intro l listed isBlank c member
    exact (remaining listed).blank isBlank c (List.mem_reverse.mp member)
  · intro l listed notBlank
    obtain ⟨c, initial, same, notBlank⟩ := (remaining listed).last notBlank
    exact ⟨c, initial.reverse, by simp [same], notBlank⟩

/-- Neither the first nor the last lexeme is blank. -/
structure Stripped (ls : List Lexeme) : Prop where
  first : ∀ l ∈ ls.head?, l.isBlank = false
  last : ∀ l ∈ ls.getLast?, l.isBlank = false

theorem head?_dropWhile_isBlank {l : Lexeme} (ls : List Lexeme)
    (first : l ∈ (ls.dropWhile Lexeme.isBlank).head?) : l.isBlank = false := by
  have notBlank := List.head?_dropWhile_not Lexeme.isBlank ls
  rw [Option.mem_def.mp first] at notBlank
  simpa using notBlank

/-- Only blanks are stripped. -/
theorem exists_strip (ls : List Lexeme) : ∃ before behind, ls = before ++ (strip ls ++ behind) ∧
    (∀ l ∈ before, l.isBlank = true) ∧ ∀ l ∈ behind, l.isBlank = true := by
  refine ⟨ls.takeWhile Lexeme.isBlank,
    ((ls.dropWhile Lexeme.isBlank).reverse.takeWhile Lexeme.isBlank).reverse, ?_, ?_, ?_⟩
  · rw [strip, ← List.reverse_append, List.takeWhile_append_dropWhile, List.reverse_reverse,
      List.takeWhile_append_dropWhile]
  · exact List.all_eq_true.mp List.all_takeWhile
  · exact fun l listed => List.all_eq_true.mp List.all_takeWhile l (List.mem_reverse.mp listed)

theorem strip_within (ls : List Lexeme) : strip ls <:+: ls := by
  obtain ⟨before, behind, whole, _⟩ := exists_strip ls
  exact ⟨before, behind, by rw [List.append_assoc, ← whole]⟩

theorem stripped_strip (ls : List Lexeme) : Stripped (strip ls) := by
  constructor
  · intro l first
    rw [strip, List.head?_reverse] at first
    have suffix := List.dropWhile_suffix (l := (ls.dropWhile Lexeme.isBlank).reverse) Lexeme.isBlank
    obtain ⟨dropped, whole⟩ := suffix
    refine head?_dropWhile_isBlank ls ?_
    rw [← List.getLast?_reverse, ← whole, List.getLast?_append, Option.mem_def.mp first]
    rfl
  · intro l last
    rw [strip, List.getLast?_reverse] at last
    exact head?_dropWhile_isBlank _ last

/-- Blanks around a stripped run are stripped off again. -/
theorem strip_pad {before ls behind : List Lexeme} (stripped : Stripped ls)
    (blank : ∀ l ∈ before, l.isBlank = true) (blankToo : ∀ l ∈ behind, l.isBlank = true) :
    strip (before ++ (ls ++ behind)) = ls := by
  have dropFirst {ls behind : List Lexeme} (first : ∀ l ∈ ls.head?, l.isBlank = false)
      (notEmpty : ls ≠ []) : (ls ++ behind).dropWhile Lexeme.isBlank = ls ++ behind := by
    obtain ⟨l, ls, rfl⟩ := List.exists_cons_of_ne_nil notEmpty
    exact List.dropWhile_cons_of_neg (by simp [first l rfl])
  rw [strip, List.dropWhile_append_of_pos blank]
  by_cases notEmpty : ls = []
  · subst notEmpty
    rw [List.nil_append, ← List.append_nil behind, List.dropWhile_append_of_pos blankToo]
    rfl
  · rw [dropFirst stripped.first notEmpty, List.reverse_append,
      List.dropWhile_append_of_pos (fun l listed => blankToo l (List.mem_reverse.mp listed)),
      ← List.append_nil ls.reverse, dropFirst _ (by simpa using notEmpty), List.append_nil,
      List.reverse_reverse]
    intro l first
    rw [List.head?_reverse] at first
    exact stripped.last l first

end Trim

end ComponentStyles.Token
