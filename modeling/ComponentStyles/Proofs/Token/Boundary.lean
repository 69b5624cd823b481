import ComponentStyles.Proofs.Token.Lexeme
import ComponentStyles.Proofs.Token.Shape

/-!
# Where tokens end

A token stops in front of a character when no described text goes on with it. Which texts go on is
read off the first characters of the patterns: only few kinds start like a given token.
-/

namespace ComponentStyles.Token

open Kind

variable {kind : Kind} {c d : Char} {front rest text name : Text}

/-- The kinds with a text that may start with a character. -/
def kindsFrom (c : Char) : List Kind :=
  described.filter fun kind => kind.pattern.firsts.any (·.contains c)

theorem mem_kindsFrom (listed : kind ∈ described) (matched : kind.pattern.Matches (c :: text)) :
    kind ∈ kindsFrom c := by
  obtain ⟨cls, first, contained⟩ := Pattern.exists_first_of_matches matched
  exact List.mem_filter.mpr ⟨listed, List.any_eq_true.mpr ⟨cls, first, contained⟩⟩

theorem kindsFrom_quote (isQuote : c ∈ ['"', '\'']) : kindsFrom c = [string] := by
  simp only [List.mem_cons, List.not_mem_nil, or_false] at isQuote
  rcases isQuote with rfl | rfl <;> rfl

theorem stops_iff : Stops front rest ↔ ∀ c ∈ rest.head?, ∀ kind ∈ described, ∀ more,
    ¬ kind.pattern.Matches (front ++ c :: more) := by
  simp [Stops, IsOpen, List.append_assoc]

section Alone

/-- The characters that are tokens of their own, whatever follows. -/
def singles : List (Char × Kind) :=
  [('\x7b', openBrace), ('\x7d', closeBrace), ('(', openParen), (')', closeParen),
    ('[', openBracket), (']', closeBracket), (':', colon), (';', semicolon), (',', comma),
    ('>', greater), ('~', tilde), ('*', star), ('!', bang)]

theorem mem_singles (single : singles.lookup c = some kind) : (c, kind) ∈ singles := by
  obtain ⟨before, behind, whole, _⟩ := List.lookup_eq_some_iff.mp single
  simp [whole]

theorem solid_of_single (single : singles.lookup c = some kind) : kind.isTrivia = false := by
  have all : ∀ single ∈ singles, single.2.isTrivia = false := by decide
  exact all _ (mem_singles single)

theorem leads_single (single : singles.lookup c = some kind) : Leads kind [c] rest := by
  have alone : ∀ single ∈ singles, Kind.of? [single.1] = some single.2 ∧
      Race.start.advance single.1 = [(single.2, .empty)] := by decide +kernel
  obtain ⟨found, beyond⟩ := alone _ (mem_singles single)
  refine Leads.of_stops (.described found fun more notEmpty leading => ?_) ?_
  · exact absurd (List.prefix_nil.mp leading) notEmpty
  · rintro d - opened
    rw [← Race.start_isOpen_iff, List.singleton_append, Race.isOpen_cons, beyond] at opened
    obtain ⟨entry, racing, more, matched⟩ := opened
    obtain rfl := List.mem_singleton.mp racing
    cases matched

theorem lexemes_single (single : singles.lookup c = some kind) :
    lexemes (c :: rest) = ⟨kind, [c]⟩ :: lexemes rest :=
  lexemes_append (leads_single single)

end Alone

section Names

/-- The class of the characters that a name may start with. -/
def nameHeadClass : CharClass :=
  .within [('a', 'z'), ('A', 'Z'), ('_', '_'), ('-', '-')]

theorem isNamePart_of_matches_dashedName (matched : dashedName.Matches name) (listed : c ∈ name) :
    isNamePart c = true :=
  Pattern.contains_of_classes_within (by rfl) matched listed

theorem exists_head_of_matches_dashedName (matched : dashedName.Matches name) :
    ∃ c tail, name = c :: tail ∧ nameHeadClass.contains c = true := by
  cases name with
  | nil => exact absurd (Pattern.nullable_iff.mpr matched) (by decide)
  | cons c tail =>
      exact ⟨c, tail, rfl, Pattern.contains_of_firsts_within (by rfl) matched⟩

/-- The kinds with a text that starts like a name. -/
theorem mem_of_matches_nameHead (listed : kind ∈ described)
    (matched : kind.pattern.Matches (c :: text)) (isHead : nameHeadClass.contains c = true) :
    kind ∈ [identifier, function, url, number] := by
  have apart : ∀ kind ∈ described, kind ∈ [identifier, function, url, number] ∨
      kind.pattern.firsts.all (·.apart? nameHeadClass) = true := by decide +kernel
  refine (apart kind listed).resolve_right fun apart => ?_
  exact Pattern.not_contains_of_firsts_apart apart matched isHead

/-- No number goes on from a name. -/
theorem not_matches_number_of_name (isName : dashedName.Matches name) :
    ¬ number.pattern.Matches (name ++ rest) := by
  intro matched
  obtain ⟨c, tail, rfl, isHead⟩ := exists_head_of_matches_dashedName isName
  rw [List.cons_append] at matched
  obtain rfl : c = '-' := by
    have signed : (CharClass.within [('+', '+'), ('-', '-'), ('.', '.'), ('0', '9')]).contains c :=
      Pattern.contains_of_firsts_within (by rfl) matched
    simp [nameHeadClass, CharClass.within, CharClass.contains] at signed isHead
    refine Char.toNat_inj.mp ?_
    simp
    omega
  rw [← Pattern.matches_derivative_iff] at matched isName
  cases tail with
  | nil => exact absurd (Pattern.nullable_iff.mpr isName) (by decide)
  | cons d tail =>
      have inName : nameHeadClass.contains d = true :=
        Pattern.contains_of_firsts_within (by rfl) isName
      exact Pattern.not_contains_of_firsts_apart (by rfl) matched inName

theorem matches_function_iff :
    function.pattern.Matches text ↔ ∃ name, text = name ++ ['('] ∧ dashedName.Matches name := by
  rw [show function.pattern = .both dashedName (oneOf "(") from rfl, Pattern.matches_both_iff]
  simp only [matches_oneOf_iff]
  constructor
  · rintro ⟨name, _, rfl, isName, opening, isOpening, rfl⟩
    obtain rfl : opening = '(' := by simpa using isOpening
    exact ⟨name, rfl, isName⟩
  · rintro ⟨name, rfl, isName⟩
    exact ⟨name, ['('], rfl, isName, '(', by simp, rfl⟩

theorem not_isNamePart_paren : ¬ isNamePart '(' = true := by
  decide

theorem isNamePart_of_sameLetters_url {head : Text}
    (isHead : Text.sameLetters head "url".toList = true) (listed : c ∈ head) :
    isNamePart c = true := by
  obtain ⟨u, isU, r, isR, l, isL, rfl⟩ := sameLetters_url_iff.mp isHead
  have letters : ∀ c ∈ "uUrRlL".toList, isNamePart c = true := by decide
  refine letters c ?_
  simp at isU isR isL listed ⊢
  grind

theorem exists_front_of_paren {other behind : Text} (parts : ∀ c ∈ name, isNamePart c = true)
    (same : name ++ text = other ++ '(' :: behind) :
    ∃ front, other = name ++ front ∧ text = front ++ '(' :: behind := by
  rcases List.append_eq_append_iff.mp same with ⟨front, rfl, behindToo⟩ | ⟨past, rfl, behindToo⟩
  · exact ⟨front, rfl, behindToo⟩
  · cases past with
    | nil => exact ⟨[], by simp, by simpa using behindToo.symm⟩
    | cons c past =>
        obtain ⟨rfl, _⟩ := List.cons.inj behindToo
        exact absurd (parts '(' (by simp)) not_isNamePart_paren

/-- A text that starts with a name is a longer name, or a function or a url with a longer name. -/
theorem kinds_of_name (isName : dashedName.Matches name) (listed : kind ∈ described)
    (matched : kind.pattern.Matches (name ++ text)) :
    kind = identifier ∧ (∀ c ∈ text, isNamePart c = true) ∨
      ∃ front behind, text = front ++ '(' :: behind ∧ (∀ c ∈ front, isNamePart c = true) ∧
        (kind = function ∧ behind = [] ∨
          kind = url ∧ Text.sameLetters (name ++ front) "url".toList = true) := by
  have parts (c : Char) (listed : c ∈ name) := isNamePart_of_matches_dashedName isName listed
  obtain ⟨first, tail, rfl, isHead⟩ := exists_head_of_matches_dashedName isName
  have few := mem_of_matches_nameHead listed matched isHead
  simp only [List.mem_cons, List.not_mem_nil, or_false] at few
  rcases few with rfl | rfl | rfl | rfl
  · refine .inl ⟨rfl, fun c listed => ?_⟩
    exact isNamePart_of_matches_dashedName matched (List.mem_append_right _ listed)
  · obtain ⟨other, same, isOther⟩ := matches_function_iff.mp matched
    obtain ⟨front, rfl, rfl⟩ := exists_front_of_paren parts same
    refine .inr ⟨front, [], rfl, fun c listed => ?_, .inl ⟨rfl, rfl⟩⟩
    exact isNamePart_of_matches_dashedName isOther (List.mem_append_right _ listed)
  · obtain ⟨head, before, target, behind, same, isUrl, _⟩ := matches_url_iff.mp matched
    obtain ⟨front, rfl, rfl⟩ := exists_front_of_paren parts same
    refine .inr ⟨front, _, rfl, fun c listed => ?_, .inr ⟨rfl, isUrl⟩⟩
    exact isNamePart_of_sameLetters_url isUrl (List.mem_append_right _ listed)
  · exact absurd matched (not_matches_number_of_name isName)

/-- Only a url goes on behind a name and a parenthesis. -/
theorem kinds_of_call (isName : dashedName.Matches name) (listed : kind ∈ described)
    (matched : kind.pattern.Matches (name ++ '(' :: text)) :
    kind = function ∧ text = [] ∨
      kind = url ∧ Text.sameLetters name "url".toList = true := by
  rcases kinds_of_name isName listed matched with ⟨_, parts⟩ | ⟨front, behind, same, parts, kinds⟩
  · exact absurd (parts '(' List.mem_cons_self) not_isNamePart_paren
  · cases front with
    | nil =>
        obtain ⟨_, rfl⟩ := List.cons.inj same
        rwa [List.append_nil] at kinds
    | cons c front =>
        obtain ⟨rfl, _⟩ := List.cons.inj same
        exact absurd (parts '(' List.mem_cons_self) not_isNamePart_paren

/-- A name goes on only with a character of names or a parenthesis. -/
theorem stops_name (isName : dashedName.Matches name)
    (beyond : ∀ c ∈ rest.head?, isNamePart c = false ∧ c ≠ '(') : Stops name rest := by
  rw [stops_iff]
  intro c next kind listed more matched
  obtain ⟨notPart, notParen⟩ := beyond c next
  have isPart {others : Text} (parts : ∀ d ∈ c :: others, isNamePart d = true) : False := by
    rw [parts c List.mem_cons_self] at notPart
    cases notPart
  rcases kinds_of_name isName listed matched with ⟨_, parts⟩ | ⟨front, behind, same, parts, _⟩
  · exact isPart parts
  · cases front with
    | nil => exact notParen (List.cons.inj same).1
    | cons d front =>
        obtain ⟨rfl, _⟩ := List.cons.inj same
        exact isPart parts

/-- The parenthesis behind a name ends a function, unless it opens a url. -/
theorem stops_function (isName : dashedName.Matches name)
    (notUrl : Text.sameLetters name "url".toList = false) : Stops (name ++ ['(']) rest := by
  rw [stops_iff]
  intro c next kind listed more matched
  rw [List.append_assoc, List.singleton_append] at matched
  rcases kinds_of_call isName listed matched with ⟨_, nothing⟩ | ⟨_, isUrl⟩
  · cases nothing
  · rw [notUrl] at isUrl
    cases isUrl

theorem matches_dashedName_append (isName : dashedName.Matches name)
    (parts : ∀ c ∈ text, isNamePart c = true) : dashedName.Matches (name ++ text) := by
  simp only [dashedName, Pattern.inOrder, Pattern.matches_both_iff] at isName ⊢
  obtain ⟨a, _, rfl, first, b, _, rfl, second, start, tail, rfl, isStart, many⟩ := isName
  refine ⟨a, b ++ (start ++ (tail ++ text)), by simp, first, b, start ++ (tail ++ text), rfl, second,
    start, tail ++ text, rfl, isStart, ?_⟩
  exact Pattern.matches_many_append many (Pattern.matches_many_one_iff.mpr parts)

theorem matches_dashedName_of_sameLetters_url {head : Text}
    (isHead : Text.sameLetters head "url".toList = true) : dashedName.Matches head := by
  have parts (c : Char) (listed : c ∈ head) := isNamePart_of_sameLetters_url isHead listed
  obtain ⟨u, isU, r, _, l, _, rfl⟩ := sameLetters_url_iff.mp isHead
  have starts : ∀ u ∈ "uU".toList, dashedName.accepts [u] = true := by decide
  exact matches_dashedName_append (Pattern.accepts_iff.mp (starts u isU))
    fun c listed => parts c (List.mem_cons_of_mem u listed)

end Names

section Closed

theorem stops_string (matched : string.pattern.Matches text) : Stops text rest := by
  rw [stops_iff]
  intro c next kind listed more longer
  obtain ⟨quote, inside, isQuote, rfl⟩ : ∃ quote inside, quote ∈ ['"', '\''] ∧ text = quote :: inside := by
    rcases Pattern.matches_either_iff.mp matched with matched | matched
    · obtain ⟨inside, rfl, _⟩ := exists_inside_of_matches_quoted matched
      exact ⟨_, _, by simp, rfl⟩
    · obtain ⟨inside, rfl, _⟩ := exists_inside_of_matches_quoted matched
      exact ⟨_, _, by simp, rfl⟩
  have few := mem_kindsFrom listed longer
  rw [kindsFrom_quote isQuote, List.mem_singleton] at few
  subst few
  cases prefixFree_string matched longer

theorem stops_comment (matched : comment.pattern.Matches text) : Stops text rest := by
  rw [stops_iff]
  intro c next kind listed more longer
  have only : kindsFrom '/' = [comment, slash] := rfl
  obtain ⟨inside, rfl, _⟩ := exists_inside_of_matches_comment matched
  have few := mem_kindsFrom listed longer
  simp only [only, List.mem_cons, List.not_mem_nil, or_false] at few
  rcases few with rfl | rfl
  · cases prefixFree_comment matched longer
  · obtain ⟨_, _, same⟩ := matches_oneOf_iff.mp longer
    simp at same

theorem stops_url (matched : url.pattern.Matches text) : Stops text rest := by
  rw [stops_iff]
  intro c next kind listed more longer
  obtain ⟨head, before, target, behind, rfl, isUrl, _⟩ := matches_url_iff.mp matched
  have isCall := longer
  rw [List.append_assoc, List.cons_append] at isCall
  rcases kinds_of_call (matches_dashedName_of_sameLetters_url isUrl) listed isCall with
    ⟨_, nothing⟩ | ⟨rfl, _⟩
  · simp at nothing
  · cases prefixFree_url matched longer

end Closed

section Signs

/-- What only one kind starts with goes on only with what that kind goes on with. -/
theorem stops_sign {sign : Char} {tail : Text} (only : kindsFrom sign = [kind])
    (within : kind.pattern.laters.all (·.within? namePartClass) = true)
    (beyond : ∀ c ∈ rest.head?, isNamePart c = false) : Stops (sign :: tail) rest := by
  rw [stops_iff]
  intro c next other listed more matched
  have few := mem_kindsFrom listed matched
  rw [only, List.mem_singleton] at few
  subst few
  have part : namePartClass.contains c = true :=
    Pattern.contains_of_laters_within within matched (by simp)
  have notPart := beyond c next
  rw [isNamePart, part] at notPart
  cases notPart

theorem stops_slash (notStar : rest.head? ≠ some '*') : Stops ['/'] rest := by
  rw [stops_iff]
  rintro c next kind listed more matched
  have only : kindsFrom '/' = [comment, slash] := rfl
  have few := mem_kindsFrom listed matched
  simp only [only, List.mem_cons, List.not_mem_nil, or_false] at few
  rcases few with rfl | rfl
  · obtain ⟨inside, same, _⟩ := exists_inside_of_matches_comment matched
    obtain ⟨rfl, _⟩ := List.cons.inj (List.cons.inj same).2
    exact notStar next
  · obtain ⟨_, _, same⟩ := matches_oneOf_iff.mp matched
    simp at same

def digitClass : CharClass :=
  .within [('0', '9')]

theorem stops_dot (noDigit : ∀ c ∈ rest.head?, digitClass.contains c = false) :
    Stops ['.'] rest := by
  rw [stops_iff]
  rintro c next kind listed more matched
  have only : kindsFrom '.' = [dot, number] := rfl
  have few := mem_kindsFrom listed matched
  simp only [only, List.mem_cons, List.not_mem_nil, or_false] at few
  rcases few with rfl | rfl
  · obtain ⟨_, _, same⟩ := matches_oneOf_iff.mp matched
    simp at same
  · rw [List.singleton_append, ← Pattern.matches_derivative_iff] at matched
    have digit : digitClass.contains c = true :=
      Pattern.contains_of_firsts_within (by rfl) matched
    rw [noDigit c next] at digit
    cases digit

/-- The characters of blank tokens. -/
def blanks : Text :=
  " \t\r\n\x0c".toList

theorem matches_whitespace_iff :
    whitespace.pattern.Matches text ↔ text ≠ [] ∧ ∀ c ∈ text, c ∈ blanks := by
  rw [show whitespace.pattern = .some (.one (.oneOf blanks)) from rfl,
    Pattern.matches_some_one_iff]
  simp only [contains_oneOf_iff]

theorem eq_whitespace_of_matches_blank (listed : kind ∈ described)
    (matched : kind.pattern.Matches (c :: text)) (blank : c ∈ blanks) : kind = whitespace := by
  have only : kindsFrom c = [whitespace] := by
    have listedBlank : c ∈ [' ', '\t', '\r', '\n', '\x0c'] := blank
    simp only [List.mem_cons, List.not_mem_nil, or_false] at listedBlank
    rcases listedBlank with rfl | rfl | rfl | rfl | rfl <;> rfl
  have few := mem_kindsFrom listed matched
  rwa [only, List.mem_singleton] at few

theorem stops_whitespace (notEmpty : front ≠ []) (blank : ∀ c ∈ front, c ∈ blanks)
    (beyond : ∀ c ∈ rest.head?, c ∉ blanks) : Stops front rest := by
  rw [stops_iff]
  intro c next kind listed more matched
  obtain ⟨first, front, rfl⟩ := List.exists_cons_of_ne_nil notEmpty
  obtain rfl := eq_whitespace_of_matches_blank listed matched (blank first List.mem_cons_self)
  exact beyond c next ((matches_whitespace_iff.mp matched).2 c (by simp))

end Signs

section Spells

theorem spells_of_only (listed : kind ∈ described) (matched : kind.pattern.Matches text)
    (only : ∀ other ∈ described, other.pattern.Matches text → other = kind) : kind.Spells text := by
  refine .described ?_ fun more notEmpty leading => absurd (List.prefix_nil.mp leading) notEmpty
  cases found : Kind.of? text with
  | none => exact absurd matched (of?_eq_none_iff.mp found kind listed)
  | some other =>
      rw [only other (mem_described_of_of? found) (matches_of_of? found)]

theorem spells_identifier_iff : identifier.Spells name ↔ dashedName.Matches name := by
  refine ⟨fun spells => spells.matches (by decide), fun isName => ?_⟩
  refine spells_of_only (by decide) isName fun other listed matched => ?_
  rw [← List.append_nil name] at matched
  rcases kinds_of_name isName listed matched with ⟨rfl, _⟩ | ⟨front, behind, same, _⟩
  · rfl
  · simp at same

/-- A function token is a name and a parenthesis. -/
theorem IsCut.exists_name_of_function {ls : List Lexeme} (cut : IsCut ls) {l : Lexeme} (listed : l ∈ ls)
    (isFunction : l.kind = function) : ∃ name, l.text = name ++ ['('] ∧ identifier.Spells name := by
  have spells := cut.spells listed
  rw [isFunction] at spells
  obtain ⟨name, written, isName⟩ := matches_function_iff.mp (spells.matches (by decide))
  exact ⟨name, written, spells_identifier_iff.mpr isName⟩

theorem spells_url_iff : url.Spells text ↔ url.pattern.Matches text := by
  refine ⟨fun spells => spells.matches (by decide), fun isUrl => ?_⟩
  refine spells_of_only (by decide) isUrl fun other listed matched => ?_
  obtain ⟨head, before, target, behind, rfl, isUrlHead, _⟩ := matches_url_iff.mp isUrl
  rcases kinds_of_call (matches_dashedName_of_sameLetters_url isUrlHead) listed matched with
    ⟨_, nothing⟩ | ⟨rfl, _⟩
  · simp at nothing
  · rfl

theorem spells_hash_iff : hash.Spells ('#' :: name) ↔
    name ≠ [] ∧ ∀ c ∈ name, isNamePart c = true := by
  have matches_iff : hash.pattern.Matches ('#' :: name) ↔
      name ≠ [] ∧ ∀ c ∈ name, isNamePart c = true := by
    rw [show hash.pattern = .both (oneOf "#") (.some namePart) from rfl, Pattern.matches_both_iff]
    simp only [matches_oneOf_iff]
    constructor
    · rintro ⟨_, _, same, ⟨_, _, rfl⟩, some⟩
      obtain ⟨_, rfl⟩ := List.cons.inj same
      exact Pattern.matches_some_one_iff.mp some
    · intro parts
      exact ⟨['#'], name, rfl, ⟨'#', by simp, rfl⟩, Pattern.matches_some_one_iff.mpr parts⟩
  refine ⟨fun spells => matches_iff.mp (spells.matches (by decide)), fun parts => ?_⟩
  refine spells_of_only (by decide) (matches_iff.mpr parts) fun other listed matched => ?_
  have only : kindsFrom '#' = [hash] := rfl
  have few := mem_kindsFrom listed matched
  rwa [only, List.mem_singleton] at few

theorem slash_notMem_of_spells (isName : identifier.Spells name) : '/' ∉ name := by
  intro listed
  have isPart := isNamePart_of_matches_dashedName (spells_identifier_iff.mp isName) listed
  exact absurd isPart (by decide)

theorem slash_notMem_of_hash (isHash : hash.Spells ('#' :: name)) : '/' ∉ name := by
  intro listed
  have isPart := (spells_hash_iff.mp isHash).2 '/' listed
  exact absurd isPart (by decide)

theorem exists_hash_of_spells (spells : hash.Spells text) : ∃ name, text = '#' :: name := by
  have matched := spells.matches (by decide)
  rw [show hash.pattern = .both (oneOf "#") (.some namePart) from rfl,
    Pattern.matches_both_iff] at matched
  obtain ⟨_, name, rfl, sign, _⟩ := matched
  obtain ⟨c, isSign, rfl⟩ := matches_oneOf_iff.mp sign
  obtain rfl : c = '#' := by simpa using isSign
  exact ⟨name, rfl⟩

theorem exists_atKeyword_of_spells (spells : atKeyword.Spells text) : ∃ name, text = '@' :: name := by
  have matched := spells.matches (by decide)
  simp only [pattern, Pattern.inOrder, Pattern.matches_both_iff] at matched
  obtain ⟨_, name, rfl, sign, _⟩ := matched
  obtain ⟨c, isSign, rfl⟩ := matches_oneOf_iff.mp sign
  obtain rfl : c = '@' := by simpa using isSign
  exact ⟨name, rfl⟩

end Spells

end ComponentStyles.Token
