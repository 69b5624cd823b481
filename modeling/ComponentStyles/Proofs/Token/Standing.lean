import ComponentStyles.Proofs.Token.Plain

/-!
# Runs of tokens in their place

A run of valid tokens need not be plain: what reads like the start of a url may stand in it, and a
slash in front of a star that no comment ends behind. Such a run is cut the same way in front of
other text as long as its parentheses are closed and the other text ends no comment either.
-/

namespace ComponentStyles.Token

open Kind

variable {kind : Kind} {c d : Char} {front rest behind text : Text} {ls : List Lexeme}

section Comments

theorem StaysOpen.of_part (stays : StaysOpen text) {part : Text} (within : part <:+: text) :
    StaysOpen part :=
  fun ends => stays (ends.trans within)

theorem staysOpen_of_notMem (free : '/' ∉ front) (first : rest.head? ≠ some '/')
    (stays : StaysOpen rest) : StaysOpen (front ++ rest) := by
  induction front with
  | nil => exact stays
  | cons c front inductionHypothesis =>
      rw [List.mem_cons, not_or] at free
      apply staysOpen_cons (.inr ?_) (inductionHypothesis free.2)
      cases front with
      | nil => exact first
      | cons d front =>
          intro slash
          obtain rfl : d = '/' := by simpa using slash
          exact free.2 List.mem_cons_self

/-- Two texts that end no comment end none together, if the second one does not start with a slash. -/
theorem staysOpen_append (stays : StaysOpen front) (first : rest.head? ≠ some '/')
    (staysToo : StaysOpen rest) : StaysOpen (front ++ rest) := by
  induction front with
  | nil => exact staysToo
  | cons c front inductionHypothesis =>
      have later := inductionHypothesis (stays.of_part (List.suffix_cons c front).isInfix)
      apply staysOpen_cons ?_ later
      cases front with
      | nil => exact .inr first
      | cons d front =>
          by_cases isStar : c = '*'
          · apply Or.inr
            intro slash
            obtain rfl : d = '/' := by simpa using slash
            exact stays ⟨[], front, by rw [isStar]; rfl⟩
          · exact .inl isStar

/-- What may stand in a comment up to its end. -/
def commentBody : Pattern :=
  .either (noneOf "*") (.both (.some (oneOf "*")) (noneOf "*/"))

/-- How a comment goes on behind its first two characters. -/
def commentRest : Pattern :=
  .both (.many commentBody) (.both (.some (oneOf "*")) (oneOf "/"))

theorem commentRest_cons {once more : Text} (first : commentBody.Matches once)
    (later : commentRest.Matches more) : commentRest.Matches (once ++ more) := by
  unfold commentRest at later ⊢
  obtain ⟨inside, ending, rfl, many, ends⟩ := Pattern.matches_both_iff.mp later
  apply Pattern.matches_both_iff.mpr
  exact ⟨once ++ inside, ending, by simp, .more first many, ends⟩

theorem commentRest_star {more : Text} (later : commentRest.Matches ('*' :: more)) :
    commentRest.Matches ('*' :: '*' :: more) := by
  have isStar : ∀ {text : Text}, (Pattern.some (oneOf "*")).Matches text →
      (Pattern.some (oneOf "*")).Matches ('*' :: text) := by
    intro text some
    unfold oneOf at some ⊢
    rw [Pattern.matches_some_one_iff] at some ⊢
    exact ⟨List.cons_ne_nil _ _, List.forall_mem_cons.mpr ⟨by decide, some.2⟩⟩
  unfold commentRest at later ⊢
  obtain ⟨inside, ending, whole, many, ends⟩ := Pattern.matches_both_iff.mp later
  apply Pattern.matches_both_iff.mpr
  cases inside with
  | nil =>
      obtain ⟨stars, slash, rfl, some, isSlash⟩ := Pattern.matches_both_iff.mp ends
      refine ⟨[], '*' :: (stars ++ slash), ?_, .done, ?_⟩
      · rw [whole]
        rfl
      · exact Pattern.matches_both_iff.mpr ⟨'*' :: stars, slash, rfl, isStar some, isSlash⟩
  | cons c inside =>
      obtain ⟨rfl, rfl⟩ := List.cons.inj whole
      obtain ⟨a, b, rfl, once, many⟩ := Pattern.matches_many_cons_iff.mp many
      refine ⟨'*' :: '*' :: (a ++ b), ending, rfl, ?_, ends⟩
      refine .more (a := '*' :: '*' :: a) ?_ many
      rcases Pattern.matches_either_iff.mp once with other | starred
      · obtain ⟨c, notStar, same⟩ := matches_noneOf_iff.mp other
        obtain ⟨rfl, -⟩ := List.cons.inj same
        simp at notStar
      · obtain ⟨stars, last, same, some, isLast⟩ := Pattern.matches_both_iff.mp starred
        apply Pattern.Matches.right
        exact Pattern.matches_both_iff.mpr ⟨'*' :: stars, last, by rw [same]; rfl, isStar some, isLast⟩

/-- A sign that closes a comment is the end of what a comment may go on with. -/
theorem exists_commentRest : ∀ {text : Text}, ¬ StaysOpen text →
    ∃ part, part <+: text ∧ commentRest.Matches part
  | [], closes => absurd (by simp [StaysOpen]) closes
  | [c], closes => absurd (staysOpen_cons (.inr (by simp)) (by simp [StaysOpen])) closes
  | c :: d :: more, closes => by
      by_cases isStar : c = '*'
      case neg =>
        obtain ⟨part, leading, matched⟩ :=
          exists_commentRest (mt (staysOpen_cons (.inl isStar)) closes)
        have other : commentBody.Matches [c] :=
          .left (matches_noneOf_iff.mpr ⟨c, by simpa using isStar, rfl⟩)
        exact ⟨c :: part, List.cons_prefix_cons.mpr ⟨rfl, leading⟩, commentRest_cons other matched⟩
      subst isStar
      by_cases isSlash : d = '/'
      · subst isSlash
        have star : (Pattern.some (oneOf "*")).Matches ['*'] :=
          Pattern.matches_some_one_iff.mpr ⟨List.cons_ne_nil _ _, by decide⟩
        have slash : (oneOf "/").Matches ['/'] := matches_oneOf_iff.mpr ⟨'/', by simp, rfl⟩
        exact ⟨['*', '/'], ⟨more, rfl⟩, .both (a := []) .done (.both (a := ['*']) star slash)⟩
      have later : ¬ StaysOpen (d :: more) :=
        mt (staysOpen_cons (.inr (by simpa using isSlash))) closes
      by_cases again : d = '*'
      · subst again
        obtain ⟨part, leading, matched⟩ := exists_commentRest later
        obtain ⟨e, part, rfl⟩ : ∃ e others, part = e :: others := by
          apply List.exists_cons_of_ne_nil
          rintro rfl
          obtain ⟨_, _, same, _, ends⟩ := Pattern.matches_both_iff.mp matched
          obtain ⟨_, _, rfl, _, slash⟩ := Pattern.matches_both_iff.mp ends
          obtain ⟨_, _, rfl⟩ := matches_oneOf_iff.mp slash
          simp at same
        obtain ⟨rfl, -⟩ := List.cons_prefix_cons.mp leading
        exact ⟨_, List.cons_prefix_cons.mpr ⟨rfl, leading⟩, commentRest_star matched⟩
      · obtain ⟨part, leading, matched⟩ :=
          exists_commentRest (mt (staysOpen_cons (.inl again)) later)
        have star : (Pattern.some (oneOf "*")).Matches ['*'] :=
          Pattern.matches_some_one_iff.mpr ⟨List.cons_ne_nil _ _, by decide⟩
        have other : (noneOf "*/").Matches [d] :=
          matches_noneOf_iff.mpr ⟨d, by simpa using ⟨again, isSlash⟩, rfl⟩
        have once : commentBody.Matches ['*', d] := .right (.both (a := ['*']) star other)
        refine ⟨'*' :: d :: part, ?_, commentRest_cons once matched⟩
        exact List.cons_prefix_cons.mpr ⟨rfl, List.cons_prefix_cons.mpr ⟨rfl, leading⟩⟩

/-- No comment ends behind a slash that is cut off in front of a star. -/
theorem Leads.staysOpen (leads : Leads slash ['/'] ('*' :: rest)) : StaysOpen rest := by
  apply Classical.byContradiction
  intro closes
  obtain ⟨part, ⟨behind, rfl⟩, matched⟩ := exists_commentRest closes
  have isComment : comment.pattern.Matches ('/' :: '*' :: part) := by
    have word : (Pattern.word "/*".toList).Matches ['/', '*'] := Pattern.matches_word_iff.mpr rfl
    exact .both (a := ['/', '*']) word matched
  have ahead : '/' :: '*' :: part <+: ['/'] ++ '*' :: (part ++ behind) := ⟨behind, rfl⟩
  have short := leads.prefix_of_described ahead
    (of?_ne_none (by decide) isComment)
  simpa using short.length_le

end Comments

section Urls

theorem Leads.described_of_valid (leads : Leads kind front rest) (valid : kind ≠ .invalid) :
    kind ∈ Kind.described ∧ kind.pattern.Matches front := by
  cases leads with
  | described found _ => exact ⟨mem_described_of_of? found, matches_of_of? found⟩
  | invalid => exact absurd rfl valid

/-- A string has its quote at both ends. -/
theorem quote_mem_of_matches_string (matched : string.pattern.Matches (c :: text)) : c ∈ text := by
  rcases Pattern.matches_either_iff.mp matched with quoted | quoted
  all_goals
    obtain ⟨inside, same, _⟩ := exists_inside_of_matches_quoted quoted
    obtain ⟨rfl, rfl⟩ := List.cons.inj same
    simp

/-- Where a quote is the first character that is not blank, a string begins. -/
theorem textOf_ne_of_quote {before inside : Text} (cut : IsCut ls)
    (valid : ∀ l ∈ ls, l.kind ≠ .invalid) (isQuote : c ∈ ['"', '\''])
    (blank : ∀ d ∈ before, d ∈ blanks) (single : c ∉ inside) : textOf ls ≠ before ++ c :: inside := by
  intro whole
  have notBlank : c ∉ blanks := by
    revert isQuote
    simp only [List.mem_cons, List.not_mem_nil, or_false]
    rintro (rfl | rfl) <;> decide
  induction ls generalizing before with
  | nil => simp at whole
  | cons l ls inductionHypothesis =>
      rw [List.forall_mem_cons] at valid
      obtain ⟨leads, cutLater⟩ := isCut_cons_iff.mp cut
      obtain ⟨listed, matched⟩ := leads.described_of_valid valid.1
      obtain ⟨first, tail, same⟩ := List.exists_cons_of_ne_nil leads.ne_nil
      rw [same] at matched
      rw [textOf_cons] at whole
      cases before with
      | nil =>
          rw [same] at whole
          obtain ⟨rfl, rest⟩ := List.cons.inj whole
          have few := mem_kindsFrom listed matched
          rw [kindsFrom_quote isQuote, List.mem_singleton] at few
          rw [few] at matched
          apply single
          rw [← rest]
          exact List.mem_append_left _ (quote_mem_of_matches_string matched)
      | cons b before =>
          have isBlank : first ∈ blanks := by
            rw [same] at whole
            rw [(List.cons.inj whole).1]
            exact blank b List.mem_cons_self
          have isWhitespace := eq_whitespace_of_matches_blank listed matched isBlank
          rw [isWhitespace, ← same] at matched
          have allBlank := (matches_whitespace_iff.mp matched).2
          rcases List.append_eq_append_iff.mp whole with ⟨left, split, later⟩ | ⟨left, split, later⟩
          · rw [split, List.forall_mem_append] at blank
            exact inductionHypothesis cutLater valid.2 blank.2 later
          · cases left with
            | nil =>
                exact inductionHypothesis cutLater valid.2 (List.forall_mem_nil _) later.symm
            | cons d left =>
                obtain ⟨rfl, -⟩ := List.cons.inj later
                apply notBlank
                apply allBlank
                simp [split]

theorem IsUrlBlank.mem_blanks (blank : IsUrlBlank c) : c ∈ blanks := by
  unfold IsUrlBlank at blank
  simp only [String.reduceToList, List.mem_cons, List.not_mem_nil, or_false] at blank
  rcases blank with rfl | rfl | rfl | rfl <;> decide

/-- A character that stands neither in front of two quotes nor behind them stands between them. What
is in front of it has only one of the quotes. -/
theorem exists_inside_of_quoted {before target after : Text} {quote : Char}
    (split : front ++ c :: behind = before ++ quote :: (target ++ quote :: after))
    (apart : c ∉ before) (apartToo : c ∉ after) (different : c ≠ quote) :
    ∃ part others, front = before ++ quote :: part ∧ target = part ++ others := by
  rcases List.append_eq_append_iff.mp split with ⟨left, same, later⟩ | ⟨left, same, later⟩
  · cases left with
    | nil => exact absurd (List.cons.inj later).1 different
    | cons d left =>
        obtain ⟨rfl, -⟩ := List.cons.inj later
        simp [same] at apart
  · cases left with
    | nil => exact absurd (List.cons.inj later).1.symm different
    | cons d left =>
        obtain ⟨rfl, inside⟩ := List.cons.inj later
        rcases List.append_eq_append_iff.mp inside with ⟨more, same', last⟩ | ⟨more, same', last⟩
        · cases more with
          | nil => exact absurd (List.cons.inj last).1.symm different
          | cons d more =>
              obtain ⟨-, last⟩ := List.cons.inj last
              simp [last] at apartToo
        · exact ⟨left, more, same, same'⟩

/-- Once a parenthesis is closed, it closes no url behind. -/
theorem ne_url_of_closeParen {before target after : Text} (cut : IsCut ls)
    (valid : ∀ l ∈ ls, l.kind ≠ .invalid) (closed : ∃ l ∈ ls, l.kind = closeParen)
    (proper : rest ≠ []) (blank : ∀ c ∈ before, IsUrlBlank c) (isTarget : UrlTarget target)
    (blankToo : ∀ c ∈ after, IsUrlBlank c) :
    textOf ls ++ rest ≠ before ++ (target ++ (after ++ [')'])) := by
  intro whole
  obtain ⟨l, listed, isClose⟩ := closed
  obtain ⟨front, back, rfl⟩ := List.append_of_mem listed
  obtain ⟨initial, last, rfl⟩ := (List.eq_nil_or_concat rest).resolve_left proper
  rw [List.concat_eq_append] at whole
  have single : l.text = [')'] := by
    have spells : l.kind.Spells l.text := cut.spells listed
    rw [isClose] at spells
    obtain ⟨c, isParen, same⟩ := matches_oneOf_iff.mp (spells.matches (by decide))
    rw [same]
    simpa using isParen
  have inner : textOf front ++ ')' :: (textOf back ++ initial) = before ++ (target ++ after) := by
    have split : (textOf front ++ ')' :: (textOf back ++ initial)) ++ [last] =
        (before ++ (target ++ after)) ++ [')'] := by
      simpa [single] using whole
    exact List.append_inj_left' split rfl
  have apart : ')' ∉ before := fun member => (blank _ member).not_isUrlSign List.mem_cons_self
  have apartToo : ')' ∉ after := fun member => (blankToo _ member).not_isUrlSign List.mem_cons_self
  cases isTarget with
  | bare plain =>
      have member : ')' ∈ before ++ (target ++ after) := by simp [← inner]
      simp only [List.mem_append, apart, apartToo, or_false, false_or] at member
      exact plain _ member (by simp)
  | @quoted quote target isQuote single =>
      have different : quote ≠ ')' := by
        rintro rfl
        simp at isQuote
      have split : textOf front ++ ')' :: (textOf back ++ initial) =
          before ++ quote :: (target ++ quote :: after) := by simpa using inner
      obtain ⟨part, others, isFront, isTarget⟩ :=
        exists_inside_of_quoted split apart apartToo different.symm
      have singleToo : quote ∉ part := fun member => single (isTarget ▸ List.mem_append_left _ member)
      have areBlanks : ∀ d ∈ before, d ∈ blanks := fun d member => (blank d member).mem_blanks
      rw [List.forall_mem_append] at valid
      exact textOf_ne_of_quote cut.of_append_left valid.1 isQuote areBlanks singleToo isFront

end Urls

section Runs

variable {l : Lexeme}

/-- A run of valid tokens with closed parentheses, in front of a text in which no comment ends that
would begin in the run. -/
structure StandsBefore (behind : Text) (ls : List Lexeme) : Prop where
  cut : IsCut ls
  valid : ∀ l ∈ ls, l.kind ≠ .invalid
  closed : ∀ {before l after}, ls = before ++ l :: after → l.kind = function →
    ∃ p ∈ after, p.kind = closeParen
  stays : ∀ {before l after}, ls = before ++ l :: after → l.kind = slash →
    (textOf after).head? = some '*' → StaysOpen ((textOf after).tail ++ behind)

theorem StandsBefore.later (stands : StandsBefore behind (l :: ls)) : StandsBefore behind ls where
  cut := (isCut_cons_iff.mp stands.cut).2
  valid := fun m listed => stands.valid m (List.mem_cons_of_mem l listed)
  closed := fun {before m after} whole =>
    stands.closed (show l :: ls = (l :: before) ++ m :: after by rw [whole]; rfl)
  stays := fun {before m after} whole =>
    stands.stays (show l :: ls = (l :: before) ++ m :: after by rw [whole]; rfl)

/-- The first token of a run is cut off in front of a delimiter and what follows it. -/
theorem StandsBefore.leads (stands : StandsBefore (d :: behind) (l :: ls)) (delimits : Delimits d)
    (solid : d ∉ blanks) : Leads l.kind l.text (textOf ls ++ d :: behind) := by
  have leads := (isCut_cons_iff.mp stands.cut).1
  have valid := stands.valid l List.mem_cons_self
  have first : l :: ls = [] ++ l :: ls := rfl
  apply leads.of_described valid
  intro other listed more within
  have noComment : ¬ comment.pattern.Matches (l.text ++ (textOf ls ++ d :: more)) := by
    apply leads.not_comment_past ?_ delimits.2
    intro isSlash star
    apply (stands.stays first isSlash star).of_part
    apply List.IsPrefix.isInfix
    exact (List.prefix_append_right_inj _).mpr (List.cons_prefix_cons.mpr ⟨rfl, within⟩)
  have noUrl : ¬ url.pattern.Matches (l.text ++ (textOf ls ++ d :: more)) := by
    intro matched
    obtain ⟨isFunction, -, before, target, after, whole, blank, isTarget, blankToo⟩ :=
      leads.function_of_url_past delimits.1 matched
    have closed := stands.closed first isFunction
    exact ne_url_of_closeParen stands.later.cut stands.later.valid closed (List.cons_ne_nil d more)
      blank isTarget blankToo whole
  exact leads.not_matches_past (fun invalid => absurd invalid valid) noComment noUrl delimits
    (fun _ blank => absurd blank solid) listed

theorem StandsBefore.lexemes_append (stands : StandsBefore (d :: behind) ls) (delimits : Delimits d)
    (solid : d ∉ blanks) :
    lexemes (textOf ls ++ d :: behind) = ls ++ lexemes (d :: behind) := by
  induction ls with
  | nil => rfl
  | cons l ls inductionHypothesis =>
      rw [textOf_cons, List.append_assoc, Token.lexemes_append (stands.leads delimits solid),
        inductionHypothesis stands.later]
      rfl

end Runs

end ComponentStyles.Token
