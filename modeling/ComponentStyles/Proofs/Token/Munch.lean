import ComponentStyles.Proofs.Token.Standing
import Mathlib.Data.List.Chain

/-!
# Maximal munch

The lexer covers a text with tokens, one behind the other, and leaves nothing out. Each token is the
longest text in front that a pattern describes; where none describes any, it is the longest one that
a described text starts with. No text is described by the patterns of two kinds, so this leaves one
way to cover a text, whatever the order of the kinds. A comment is a token just when it ends at the
first sign that closes it.
-/

namespace ComponentStyles.Token

open Kind

/-- `Munches kind front rest`: what is cut off as a token from `front ++ rest` is `front`. -/
inductive Munches : Kind → Text → Text → Prop where
  /-- The text is described, and no longer text in front is, by a pattern of whatever kind. -/
  | described {kind : Kind} {front rest : Text} :
      kind.pattern.Matches front →
      (∀ (other : Kind) (longer : Text), longer <+: front ++ rest →
        other.pattern.Matches longer → longer.length ≤ front.length) →
      Munches kind front rest
  /-- No text in front is described, but some described text starts like this and none goes on. The
  first character is taken anyway. -/
  | invalid {front rest} :
      front ≠ [] →
      (∀ (other : Kind) (part : Text), part <+: front ++ rest → ¬ other.pattern.Matches part) →
      (front.length = 1 ∨ IsOpen front) →
      (∀ longer, longer <+: front ++ rest → IsOpen longer → longer.length ≤ front.length) →
      Munches .invalid front rest

/-- `Tiles offset text tokens`: the tokens cover a text that starts at an offset, each from where the
one before it ends. -/
inductive Tiles : Nat → Text → List Token → Prop where
  | nil {offset} : Tiles offset [] []
  | cons {offset kind front rest tokens} :
      Munches kind front rest →
      Tiles (offset + Text.size front) rest tokens →
      Tiles offset (front ++ rest)
        (⟨kind, front, ⟨offset, offset + Text.size front⟩⟩ :: tokens)

/-- Nothing is left out between an offset and the end of the text that starts there. -/
structure Covers (offset : Nat) (text : Text) (tokens : List Token) : Prop where
  texts : tokens.flatMap Token.text = text
  proper : ∀ token ∈ tokens, token.text ≠ [] ∧
    token.span.stop = token.span.start + Text.size token.text
  starts : ∀ token ∈ tokens.head?, token.span.start = offset
  goesOn : tokens.IsChain fun token next => token.span.stop = next.span.start
  stops : ∀ token ∈ tokens.getLast?, token.span.stop = offset + Text.size text

variable {kind other : Kind} {front rest text : Text}

section Kinds

/-- The pairs of kinds with texts that may start alike. -/
def rivals : List (Kind × Kind) :=
  [(slash, comment), (dot, number), (plus, number), (identifier, number), (function, number),
    (identifier, function), (identifier, url), (function, url)]

theorem Kind.mem_described_of_matches (matched : kind.pattern.Matches text) : kind ∈ described := by
  cases kind with
  | endOfInput | invalid => cases matched
  | _ => decide

theorem ne_nil_of_matches (matched : kind.pattern.Matches text) : text ≠ [] := by
  rintro rfl
  exact Kind.of?_eq_none_iff.mp Kind.of?_nil kind (Kind.mem_described_of_matches matched) matched

theorem mem_rivals (matched : kind.pattern.Matches text) (matchedToo : other.pattern.Matches text)
    (different : kind ≠ other) : (kind, other) ∈ rivals ∨ (other, kind) ∈ rivals := by
  have apart : ∀ kind ∈ described, ∀ other ∈ described, kind = other ∨
      ((kind, other) ∈ rivals ∨ (other, kind) ∈ rivals) ∨
      kind.pattern.firsts.all (fun cls => other.pattern.firsts.all (·.apart? cls)) = true := by
    decide +kernel
  obtain ⟨c, tail, rfl⟩ := List.exists_cons_of_ne_nil (ne_nil_of_matches matched)
  rcases apart kind (Kind.mem_described_of_matches matched) other
    (Kind.mem_described_of_matches matchedToo) with same | rival | apart
  · exact absurd same different
  · exact rival
  · obtain ⟨cls, listed, contained⟩ := Pattern.exists_first_of_matches matched
    exact absurd contained (Pattern.not_contains_of_firsts_apart
      (List.all_eq_true.mp apart cls listed) matchedToo)

theorem not_matches_of_rivals (rival : (kind, other) ∈ rivals)
    (matched : kind.pattern.Matches text) : ¬ other.pattern.Matches text := by
  intro matchedToo
  have noParen {name : Text} (isName : dashedName.Matches name) {before behind : Text} :
      name ≠ before ++ '(' :: behind := by
    rintro rfl
    exact not_isNamePart_paren (isNamePart_of_matches_dashedName isName (by simp))
  simp only [rivals, List.mem_cons, Prod.mk.injEq, List.not_mem_nil, or_false] at rival
  rcases rival with ⟨rfl, rfl⟩ | ⟨rfl, rfl⟩ | ⟨rfl, rfl⟩ | ⟨rfl, rfl⟩ | ⟨rfl, rfl⟩ | ⟨rfl, rfl⟩ |
    ⟨rfl, rfl⟩ | ⟨rfl, rfl⟩
  · obtain ⟨_, _, rfl⟩ := matches_oneOf_iff.mp matched
    obtain ⟨inside, same, -⟩ := exists_inside_of_matches_comment matchedToo
    simp at same
  · obtain ⟨c, isDot, rfl⟩ := matches_oneOf_iff.mp matched
    obtain rfl : c = '.' := by simpa using isDot
    exact absurd (Pattern.accepts_iff.mpr matchedToo) (by decide)
  · obtain ⟨c, isPlus, rfl⟩ := matches_oneOf_iff.mp matched
    obtain rfl : c = '+' := by simpa using isPlus
    exact absurd (Pattern.accepts_iff.mpr matchedToo) (by decide)
  · rw [← List.append_nil text] at matchedToo
    exact not_matches_number_of_name matched matchedToo
  · obtain ⟨name, rfl, isName⟩ := matches_function_iff.mp matched
    exact not_matches_number_of_name isName matchedToo
  · obtain ⟨name, rfl, -⟩ := matches_function_iff.mp matchedToo
    exact noParen matched rfl
  · obtain ⟨head, before, target, behind, rfl, -⟩ := matches_url_iff.mp matchedToo
    exact noParen matched rfl
  · obtain ⟨name, rfl, isName⟩ := matches_function_iff.mp matched
    obtain ⟨head, before, target, behind, same, -⟩ := matches_url_iff.mp matchedToo
    have whole : name ++ ['('] = (head ++ '(' :: (before ++ (target ++ behind))) ++ [')'] := by
      simpa using same
    cases (List.append_inj' whole rfl).2

/-- No text is of two kinds. -/
theorem Kind.eq_of_matches (matched : kind.pattern.Matches text)
    (matchedToo : other.pattern.Matches text) : kind = other := by
  apply Classical.byContradiction
  intro different
  rcases mem_rivals matched matchedToo different with rival | rival
  · exact not_matches_of_rivals rival matched matchedToo
  · exact not_matches_of_rivals rival matchedToo matched

theorem Kind.of?_eq_some_iff : Kind.of? text = some kind ↔ kind.pattern.Matches text := by
  constructor
  · exact Kind.matches_of_of?
  · intro matched
    cases found : Kind.of? text with
    | none =>
        exact absurd matched
          (Kind.of?_eq_none_iff.mp found kind (Kind.mem_described_of_matches matched))
    | some other => rw [Kind.eq_of_matches (Kind.matches_of_of? found) matched]

end Kinds

section Tiling

/-- A part in front of two texts ends in the first one or goes on into the second one. -/
theorem prefix_append_cases {part : Text} (leading : part <+: front ++ rest) :
    part <+: front ∨ ∃ c more, part = front ++ c :: more ∧ c :: more <+: rest := by
  rcases List.prefix_or_prefix_of_prefix leading (List.prefix_append front rest) with
    within | ⟨more, rfl⟩
  · exact .inl within
  · cases more with
    | nil => exact .inl ⟨[], by simp⟩
    | cons c more => exact .inr ⟨c, more, rfl, (List.prefix_append_right_inj front).mp leading⟩

theorem IsOpen.of_cons {c : Char} {more : Text} (opened : IsOpen (front ++ c :: more)) :
    IsOpen (front ++ [c]) := by
  refine IsOpen.of_append (b := more) ?_
  rwa [List.append_assoc, List.singleton_append]

theorem Munches.leads (munches : Munches kind front rest) : Leads kind front rest := by
  cases munches with
  | described matched longest =>
      refine .described (Kind.of?_eq_some_iff.mpr matched) fun more notEmpty leading => ?_
      refine Option.eq_none_iff_forall_ne_some.mpr fun other found => notEmpty ?_
      have short := longest other (front ++ more) ((List.prefix_append_right_inj front).mpr leading)
        (Kind.matches_of_of? found)
      rw [List.length_append] at short
      exact List.eq_nil_of_length_eq_zero (by omega)
  | invalid notEmpty undescribed opened longest =>
      refine .invalid notEmpty ?_ opened ?_
      · intro part leading
        exact Kind.of?_eq_none_iff.mpr fun other _ =>
          undescribed other part (leading.trans (List.prefix_append front rest))
      · intro c next openedToo
        obtain ⟨others, rfl⟩ := List.head?_eq_some_iff.mp next
        have short := longest (front ++ [c]) ⟨others, by simp⟩ openedToo
        rw [List.length_append, List.length_singleton] at short
        omega

theorem Leads.munches (leads : Leads kind front rest) : Munches kind front rest := by
  cases leads with
  | described found longest =>
      refine .described (Kind.matches_of_of? found) fun other longer leading matched => ?_
      rcases prefix_append_cases leading with within | ⟨c, more, rfl, leadingMore⟩
      · exact within.length_le
      · have undescribed := longest (c :: more) (List.cons_ne_nil c more) leadingMore
        rw [Kind.of?_eq_some_iff.mpr matched] at undescribed
        cases undescribed
  | invalid notEmpty undescribed opened closed =>
      have short {longer : Text} (leading : longer <+: front ++ rest) (openedToo : IsOpen longer) :
          longer <+: front := by
        rcases prefix_append_cases leading with within | ⟨c, more, rfl, leadingMore⟩
        · exact within
        · obtain ⟨others, rfl⟩ := leadingMore
          exact absurd openedToo.of_cons (closed c rfl)
      refine .invalid notEmpty (fun other part leading matched => ?_) opened
        fun longer leading openedToo => (short leading openedToo).length_le
      have found := Kind.of?_eq_some_iff.mpr matched
      cases found.symm.trans (undescribed part (short leading (isOpen_of_of? found)))

theorem tiles_ofText (offset : Nat) (text : Text) : Tiles offset text (ofText offset text) := by
  by_cases empty : text = []
  · rw [empty, ofText]
    exact .nil
  · obtain ⟨front, rest, whole, -, leads⟩ := leads_measure empty
    have shorter : rest.length < text.length := by
      have some := List.length_pos_iff.mpr leads.ne_nil
      rw [whole, List.length_append]
      omega
    have later := tiles_ofText (offset + Text.size front) rest
    rw [whole, ofText_append leads]
    exact .cons leads.munches later
termination_by text.length

variable {offset : Nat} {tokens : List Token}

/-- There is one way to cover a text. -/
theorem Tiles.eq_ofText (tiles : Tiles offset text tokens) : tokens = ofText offset text := by
  induction tiles with
  | nil => rw [ofText]
  | cons munches _ inductionHypothesis => rw [ofText_append munches.leads, inductionHypothesis]

theorem Tiles.covers (tiles : Tiles offset text tokens) : Covers offset text tokens := by
  induction tiles with
  | nil => exact ⟨rfl, nofun, nofun, .nil, nofun⟩
  | @cons offset kind front rest tokens munches later inductionHypothesis =>
      obtain ⟨texts, proper, starts, goesOn, stops⟩ := inductionHypothesis
      refine ⟨?_, ?_, ?_, ?_, ?_⟩
      · rw [List.flatMap_cons, texts]
      · exact List.forall_mem_cons.mpr ⟨⟨munches.leads.ne_nil, rfl⟩, proper⟩
      · rintro token ⟨⟩
        rfl
      · exact List.isChain_cons.mpr ⟨fun next first => (starts next first).symm, goesOn⟩
      · rw [Text.size_append]
        cases later with
        | nil =>
            rintro token ⟨⟩
            rfl
        | cons =>
            intro token last
            rw [stops token last, Nat.add_assoc]

end Tiling

section Comments

theorem matches_comment_iff : comment.pattern.Matches text ↔
    ∃ inside, text = "/*".toList ++ inside ++ "*/".toList ∧ StaysOpen (inside ++ ['*']) := by
  constructor
  · intro matched
    obtain ⟨inside, rfl, stays⟩ := exists_inside_of_matches_comment matched
    exact ⟨inside, by simp, stays⟩
  · rintro ⟨inside, rfl, stays⟩
    have closes : ¬ StaysOpen (inside ++ ['*', '/']) :=
      not_not_intro ⟨inside, [], by simp⟩
    obtain ⟨part, ⟨more, whole⟩, matched⟩ := exists_commentRest closes
    have word : (Pattern.word "/*".toList).Matches ['/', '*'] := Pattern.matches_word_iff.mpr rfl
    have isComment : comment.pattern.Matches ('/' :: '*' :: part) :=
      .both (a := ['/', '*']) word matched
    obtain ⟨shorter, same, -⟩ := exists_inside_of_matches_comment isComment
    obtain rfl : part = shorter ++ ['*', '/'] := by simpa using same
    rcases List.eq_nil_or_concat more with rfl | ⟨more, last, rfl⟩
    · rw [List.append_nil] at whole
      rw [whole] at isComment
      simpa using isComment
    · have ends : (shorter ++ ['*', '/'] ++ more) ++ [last] = (inside ++ ['*']) ++ ['/'] := by
        simpa using whole
      exact absurd ⟨shorter, more, List.append_inj_left' ends rfl⟩ stays

/-- A comment goes to the first sign that closes it, whatever stands behind. -/
theorem munches_comment_iff : Munches comment front rest ↔
    ∃ inside, front = "/*".toList ++ inside ++ "*/".toList ∧ StaysOpen (inside ++ ['*']) := by
  rw [← matches_comment_iff]
  constructor
  · intro munches
    cases munches with
    | described matched _ => exact matched
  · intro matched
    refine .described matched fun other longer leading matchedToo => ?_
    rcases prefix_append_cases leading with within | ⟨c, more, rfl, -⟩
    · exact within.length_le
    · have opened : IsOpen (front ++ c :: more) :=
        isOpen_of_of? (Kind.of?_eq_some_iff.mpr matchedToo)
      have stops : Stops front (c :: more) := stops_comment matched
      exact absurd opened.of_cons (stops c rfl)

end Comments

/-- The lexer is lossless and cuts as much as it can, and nothing else is. -/
theorem ofText_tiles_by_munching (offset : Nat) (text : Text) :
    Covers offset text (ofText offset text) ∧
    (∀ tokens, Tiles offset text tokens ↔ tokens = ofText offset text) ∧
    ∀ front rest, Munches comment front rest ↔
      ∃ inside, front = "/*".toList ++ inside ++ "*/".toList ∧ StaysOpen (inside ++ ['*']) := by
  refine ⟨(tiles_ofText offset text).covers, fun tokens => ⟨Tiles.eq_ofText, ?_⟩,
    fun _ _ => munches_comment_iff⟩
  rintro rfl
  exact tiles_ofText offset text

end ComponentStyles.Token
