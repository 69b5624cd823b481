import ComponentStyles.Proofs.Token.Plain

/-!
# The tokens of a text written piece by piece

One lemma for each kind of piece says that the lexer cuts it off and goes on behind it, and what the
next character has to be for that.
-/

namespace ComponentStyles.Token

open Kind

variable {kind : Kind} {c d : Char} {front rest text name : Text}

/-- A blank is cut off in front of anything that is not blank. -/
theorem lexemes_blank (notEmpty : front ≠ []) (blank : ∀ c ∈ front, c ∈ blanks)
    (beyond : ∀ c ∈ rest.head?, c ∉ blanks) :
    lexemes (front ++ rest) = ⟨.whitespace, front⟩ :: lexemes rest := by
  refine lexemes_of_stops (spells_of_only (by decide)
    (matches_whitespace_iff.mpr ⟨notEmpty, blank⟩) fun other listed matched => ?_)
    (stops_whitespace notEmpty blank beyond)
  obtain ⟨c, front, rfl⟩ := List.exists_cons_of_ne_nil notEmpty
  exact eq_whitespace_of_matches_blank listed matched (blank c List.mem_cons_self)

theorem lexemes_space (beyond : ∀ c ∈ rest.head?, c ∉ blanks) :
    lexemes (' ' :: rest) = ⟨.whitespace, [' ']⟩ :: lexemes rest := by
  rw [← List.singleton_append]
  exact lexemes_blank (by simp) (by decide) beyond

/-- A tame token is cut off in front of a delimiter. -/
theorem lexemes_tame (spells : kind.Spells text) (tame : Lexeme.IsTame ⟨kind, text⟩)
    (delimits : Delimits d) (solid : kind ≠ whitespace) :
    lexemes (text ++ d :: rest) = ⟨kind, text⟩ :: lexemes (d :: rest) := by
  have leads : Leads kind text ([] ++ d :: rest) :=
    Leads.of_delimiter spells tame (fun _ => nofun) delimits (fun _ _ => solid) rest
  exact lexemes_append leads

theorem lexemes_name (isName : identifier.Spells name)
    (beyond : ∀ c ∈ rest.head?, isNamePart c = false ∧ c ≠ '(') :
    lexemes (name ++ rest) = ⟨.identifier, name⟩ :: lexemes rest :=
  lexemes_of_stops isName (stops_name (spells_identifier_iff.mp isName) beyond)

theorem spells_function (isName : identifier.Spells name)
    (notUrl : Text.sameLetters name "url".toList = false) : function.Spells (name ++ ['(']) := by
  rw [spells_identifier_iff] at isName
  refine spells_of_only (by decide) (matches_function_iff.mpr ⟨name, rfl, isName⟩) ?_
  intro other listed matched
  rcases kinds_of_call isName listed matched with ⟨rfl, _⟩ | ⟨_, isUrl⟩
  · rfl
  · rw [isUrl] at notUrl
    cases notUrl

theorem lexemes_function (isName : identifier.Spells name)
    (notUrl : Text.sameLetters name "url".toList = false) :
    lexemes (name ++ '(' :: rest) = ⟨.function, name ++ ['(']⟩ :: lexemes rest := by
  rw [List.append_cons]
  exact lexemes_of_stops (spells_function isName notUrl)
    (stops_function (spells_identifier_iff.mp isName) notUrl)

theorem lexemes_url (isUrl : url.pattern.Matches text) :
    lexemes (text ++ rest) = ⟨.url, text⟩ :: lexemes rest :=
  lexemes_of_stops (spells_url_iff.mpr isUrl) (stops_url isUrl)

theorem lexemes_string (isString : string.Spells text) :
    lexemes (text ++ rest) = ⟨.string, text⟩ :: lexemes rest :=
  lexemes_of_stops isString (stops_string (isString.matches (by decide)))

section Quoted

variable {body : Text}

/-- The parenthesis behind the quote that closes a target is the last character of the url. -/
theorem eq_nil_of_behind_target {inside behind more : Text} (others : '"' ∉ inside)
    (plain : ∀ c ∈ behind, ¬ IsUrlSign c)
    (same : inside ++ '"' :: (behind ++ [')']) = (body ++ ['"']) ++ ')' :: more) : more = [] := by
  rcases List.append_eq_append_iff.mp same with ⟨between, _, ending⟩ | ⟨between, rfl, _⟩
  · cases between with
    | nil => cases ending
    | cons quote between =>
        obtain ⟨rfl, ending⟩ := List.cons.inj ending
        rcases List.eq_nil_or_concat more with nothing | ⟨initial, last, rfl⟩
        · exact nothing
        · have ending : behind ++ [')'] = (between ++ ')' :: initial) ++ [last] := by
            simpa using ending
          obtain ⟨rfl, _⟩ := List.append_inj' ending rfl
          exact absurd (by simp [IsUrlSign]) (plain ')' (by simp))
  · exact absurd (by simp) others

/-- A url with a double quote behind its parenthesis goes on no further than to a parenthesis behind
a double quote. -/
theorem prefix_of_matches_url (matched : url.pattern.Matches ("url".toList ++ '(' :: text))
    (leading : text <+: '"' :: (body ++ '"' :: ')' :: rest)) :
    text <+: '"' :: (body ++ ['"', ')']) := by
  obtain ⟨head, before, sign, ending, same, length, plain, _, ends⟩ :=
    exists_urlEnd_of_matches matched
  obtain ⟨_, same⟩ := List.append_inj same length.symm
  obtain rfl : text = before ++ sign :: ending := (List.cons.inj same).2
  have split : '"' :: (body ++ '"' :: ')' :: rest) = '"' :: (body ++ ['"', ')']) ++ rest := by simp
  rw [split] at leading
  rcases prefix_append_iff.mp leading with short | ⟨more, notEmpty, whole, _⟩
  · exact short
  · exfalso
    cases before with
    | cons c before =>
        obtain ⟨rfl, _⟩ := List.cons.inj whole
        exact plain '"' List.mem_cons_self (by simp [IsUrlSign])
    | nil =>
        obtain ⟨rfl, behindQuote⟩ := List.cons.inj whole
        rcases ends with ⟨isParen, _⟩ | ⟨_, inside, behind, rfl, others, plain⟩
        · cases isParen
        · exact notEmpty (eq_nil_of_behind_target others plain (by simpa using behindQuote))

/-- A string behind `url(` that does not end a url there does not end one in front of more text. -/
theorem lexemes_url_string (alone : lexemes ("url(".toList ++ ('"' :: (body ++ ['"']) ++ [')'])) =
      [⟨.function, "url(".toList⟩, ⟨.string, '"' :: (body ++ ['"'])⟩, ⟨.closeParen, [')']⟩])
    (rest : Text) :
    lexemes ("url(".toList ++ ('"' :: (body ++ ['"']) ++ ')' :: rest)) =
      ⟨.function, "url(".toList⟩ :: ⟨.string, '"' :: (body ++ ['"'])⟩ :: ⟨.closeParen, [')']⟩ ::
        lexemes rest := by
  have isCut := isCut_lexemes ("url(".toList ++ ('"' :: (body ++ ['"']) ++ [')']))
  rw [alone] at isCut
  obtain ⟨leads, isCut⟩ := isCut_cons_iff.mp isCut
  have isString : string.Spells ('"' :: (body ++ ['"'])) := isCut.spells List.mem_cons_self
  have longer : Leads function "url(".toList ('"' :: (body ++ ['"']) ++ ')' :: rest) := by
    cases leads with
    | described found longest =>
        refine .described found fun more notEmpty leading => ?_
        refine of?_eq_none_iff.mpr fun kind listed matched => ?_
        obtain ⟨c, more, rfl⟩ := List.exists_cons_of_ne_nil notEmpty
        have isName : dashedName.Matches "url".toList := Pattern.accepts_iff.mp (by decide)
        rcases kinds_of_call isName listed matched with ⟨_, nothing⟩ | ⟨rfl, _⟩
        · cases nothing
        · have short := prefix_of_matches_url matched (by simpa using leading)
          exact of?_ne_none listed matched (longest (c :: more) notEmpty (by simpa using short))
  rw [lexemes_append longer, lexemes_string isString, lexemes_single (by rfl)]

end Quoted

theorem lexemes_comment (isComment : comment.Spells text) :
    lexemes (text ++ rest) = ⟨.comment, text⟩ :: lexemes rest :=
  lexemes_of_stops isComment (stops_comment (isComment.matches (by decide)))

theorem lexemes_hash (isHash : hash.Spells ('#' :: name))
    (beyond : ∀ c ∈ rest.head?, isNamePart c = false) :
    lexemes ('#' :: (name ++ rest)) = ⟨.hash, '#' :: name⟩ :: lexemes rest :=
  lexemes_of_stops isHash (stops_sign rfl rfl beyond)

theorem lexemes_atKeyword (isKeyword : atKeyword.Spells ('@' :: name))
    (beyond : ∀ c ∈ rest.head?, isNamePart c = false) :
    lexemes ('@' :: (name ++ rest)) = ⟨.atKeyword, '@' :: name⟩ :: lexemes rest :=
  lexemes_of_stops isKeyword (stops_sign rfl rfl beyond)

/-- A text that only the pattern of one kind describes. -/
theorem spells_of_accepts (only : (described.filter (·.pattern.accepts text)) = [kind]) :
    kind.Spells text := by
  have listed_iff (other : Kind) : other ∈ described ∧ other.pattern.Matches text ↔ other = kind := by
    rw [← Pattern.accepts_iff]
    simpa using Iff.of_eq (congrArg (other ∈ ·) only)
  obtain ⟨listed, matched⟩ := (listed_iff kind).mpr rfl
  exact spells_of_only listed matched fun other listed matched =>
    (listed_iff other).mp ⟨listed, matched⟩

theorem lexemes_slash (notStar : rest.head? ≠ some '*') :
    lexemes ('/' :: rest) = ⟨.slash, ['/']⟩ :: lexemes rest :=
  lexemes_of_stops (spells_of_accepts (by rfl)) (stops_slash notStar)

/-- A dot in front of a name. -/
theorem lexemes_dot (isName : identifier.Spells name) :
    lexemes ('.' :: (name ++ rest)) = ⟨.dot, ['.']⟩ :: lexemes (name ++ rest) := by
  refine lexemes_of_stops (spells_of_accepts (by rfl)) (stops_dot fun c next => ?_)
  obtain ⟨first, tail, rfl, isHead⟩ :=
    exists_head_of_matches_dashedName (spells_identifier_iff.mp isName)
  obtain rfl : first = c := by simpa using next
  refine Bool.eq_false_iff.mpr fun isDigit => ?_
  simp [digitClass, nameHeadClass, CharClass.within, CharClass.contains] at isDigit isHead
  omega

/-- A blank in front of a text is the start of a token of blanks. -/
theorem not_mem_blanks_of_spells (spells : kind.Spells text) (notBlank : kind ≠ .whitespace)
    (rest : Text) : ∀ c ∈ (text ++ rest).head?, c ∉ blanks := by
  intro c isFirst blank
  obtain ⟨first, tail, rfl⟩ := List.exists_cons_of_ne_nil spells.ne_nil
  obtain rfl : first = c := by simpa using isFirst
  have single : whitespace.pattern.Matches [first] :=
    matches_whitespace_iff.mpr ⟨by simp, by simpa using blank⟩
  obtain ⟨listed, matched⟩ := Leads.matches_of_described spells (List.prefix_append [first] tail)
    (of?_ne_none (by decide) single)
  exact notBlank (eq_whitespace_of_matches_blank listed matched blank)

end ComponentStyles.Token
