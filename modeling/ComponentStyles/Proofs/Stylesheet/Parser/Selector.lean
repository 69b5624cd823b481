import ComponentStyles.Proofs.Stylesheet.Parser.Outlook
import ComponentStyles.Proofs.Stylesheet.Parser.Value

/-!
# Reading selectors

One equation for each kind of the next token says what the parser does. The selectors it reads meet
the demands of every outlook on the tokens: where two parts stand next to each other, the lexer has
told them apart. From plain tokens come well-formed selectors.
-/

namespace ComponentStyles.Cursor

open Token

section Equations

variable {c : Cursor} {token : Token} {tail : List Token}

theorem parseSimple_star (whole : c.rest = token :: tail) (kind : token.kind = .star) :
    c.parseSimple = (.ok (.universal token.span), c.advance) := by
  rw [parseSimple]
  split <;> simp_all

theorem parseSimple_element (whole : c.rest = token :: tail) (kind : token.kind = .identifier) :
    c.parseSimple = (.ok (.element token.text token.span), c.advance) := by
  rw [parseSimple]
  split <;> simp_all

theorem parseSimple_byId (whole : c.rest = token :: tail) (kind : token.kind = .hash) :
    c.parseSimple = (.ok (.byId (token.text.drop 1) token.span), c.advance) := by
  rw [parseSimple]
  split <;> simp_all

theorem parseSimple_byClass (whole : c.rest = token :: tail) (kind : token.kind = .dot)
    (isName : c.advance.kind = .identifier) :
    c.parseSimple =
      (.ok (.byClass c.advance.current.text ⟨token.span.start, c.advance.advance.lastEnd⟩),
        c.advance.advance) := by
  rw [parseSimple]
  split <;> simp_all

theorem parseSimple_attribute (whole : c.rest = token :: tail) (kind : token.kind = .openBracket)
    (closes : (c.advance.readRaw [.closeBracket, .openBrace]).2.kind = .closeBracket) :
    c.parseSimple =
      (.ok (.attribute (c.advance.readRaw [.closeBracket, .openBrace]).1
          ⟨token.span.start, (c.advance.readRaw [.closeBracket, .openBrace]).2.advance.lastEnd⟩),
        (c.advance.readRaw [.closeBracket, .openBrace]).2.advance) := by
  rw [parseSimple]
  split <;> simp_all

theorem parseSimple_ofElement (whole : c.rest = token :: tail) (kind : token.kind = .colon)
    (again : c.advance.kind = .colon) :
    c.parseSimple = c.advance.advance.parsePseudo token.span.start .ofElement := by
  rw [parseSimple]
  split <;> simp_all

theorem parseSimple_ofClass (whole : c.rest = token :: tail) (kind : token.kind = .colon)
    (once : c.advance.kind ≠ .colon) :
    c.parseSimple = c.advance.parsePseudo token.span.start .ofClass := by
  rw [parseSimple]
  split <;> simp_all

theorem parseSimple_nil (nothing : c.rest = []) :
    c.parseSimple = (.error ⟨.unexpectedToken .selector .endOfInput, c.current.span⟩, c) := by
  rw [parseSimple]
  split <;> simp_all

theorem parseSimple_unnamed (whole : c.rest = token :: tail) (kind : token.kind = .dot)
    (unnamed : c.advance.kind ≠ .identifier) :
    c.parseSimple = c.advance.selectorError .missingClassName := by
  rw [parseSimple]
  split <;> simp_all

theorem parseSimple_unclosed (whole : c.rest = token :: tail) (kind : token.kind = .openBracket)
    (unclosed : (c.advance.readRaw [.closeBracket, .openBrace]).2.kind ≠ .closeBracket) :
    c.parseSimple =
      (c.advance.readRaw [.closeBracket, .openBrace]).2.selectorError .unclosedAttribute := by
  rw [parseSimple]
  split <;> simp_all

theorem parseSimple_other (whole : c.rest = token :: tail)
    (kind : token.kind ∉ [.star, .identifier, .hash, .dot, .openBracket, .colon]) :
    c.parseSimple = (.error ⟨.unexpectedToken .selector token.kind, token.span⟩, c) := by
  rw [parseSimple]
  split
  · simp_all
  case h_2 other rest same =>
    obtain ⟨rfl, rfl⟩ := List.cons.inj (same.symm.trans whole)
    split <;> simp_all

/-- The ways to read a simple selector, one for each thing that the token in front may ask for. -/
@[elab_as_elim]
theorem parseSimple_cases {motive : Except ParseError SimpleSelector × Cursor → Prop}
    (whole : c.rest = token :: tail)
    (star : token.kind = .star → motive (.ok (.universal token.span), c.advance))
    (element : token.kind = .identifier → motive (.ok (.element token.text token.span), c.advance))
    (byId : token.kind = .hash → motive (.ok (.byId (token.text.drop 1) token.span), c.advance))
    (byClass : token.kind = .dot → c.advance.kind = .identifier →
      motive (.ok (.byClass c.advance.current.text ⟨token.span.start, c.advance.advance.lastEnd⟩),
        c.advance.advance))
    (unnamed : token.kind = .dot → c.advance.kind ≠ .identifier →
      motive (c.advance.selectorError .missingClassName))
    (closed : token.kind = .openBracket →
      (c.advance.readRaw [.closeBracket, .openBrace]).2.kind = .closeBracket →
      motive (.ok (.attribute (c.advance.readRaw [.closeBracket, .openBrace]).1
          ⟨token.span.start, (c.advance.readRaw [.closeBracket, .openBrace]).2.advance.lastEnd⟩),
        (c.advance.readRaw [.closeBracket, .openBrace]).2.advance))
    (unclosed : token.kind = .openBracket →
      (c.advance.readRaw [.closeBracket, .openBrace]).2.kind ≠ .closeBracket →
      motive ((c.advance.readRaw [.closeBracket, .openBrace]).2.selectorError .unclosedAttribute))
    (ofElement : token.kind = .colon → c.advance.kind = .colon →
      motive (c.advance.advance.parsePseudo token.span.start .ofElement))
    (ofClass : token.kind = .colon → c.advance.kind ≠ .colon →
      motive (c.advance.parsePseudo token.span.start .ofClass))
    (other : token.kind ∉ [.star, .identifier, .hash, .dot, .openBracket, .colon] →
      motive (.error ⟨.unexpectedToken .selector token.kind, token.span⟩, c)) :
    motive c.parseSimple := by
  by_cases unknown : token.kind ∉ [.star, .identifier, .hash, .dot, .openBracket, .colon]
  · rw [parseSimple_other whole unknown]
    exact other unknown
  have known := Classical.not_not.mp unknown
  simp only [List.mem_cons, List.not_mem_nil, or_false] at known
  rcases known with kind | kind | kind | kind | kind | kind
  · rw [parseSimple_star whole kind]
    exact star kind
  · rw [parseSimple_element whole kind]
    exact element kind
  · rw [parseSimple_byId whole kind]
    exact byId kind
  · by_cases named : c.advance.kind = .identifier
    · rw [parseSimple_byClass whole kind named]
      exact byClass kind named
    · rw [parseSimple_unnamed whole kind named]
      exact unnamed kind named
  · by_cases closes : (c.advance.readRaw [.closeBracket, .openBrace]).2.kind = .closeBracket
    · rw [parseSimple_attribute whole kind closes]
      exact closed kind closes
    · rw [parseSimple_unclosed whole kind closes]
      exact unclosed kind closes
  · by_cases again : c.advance.kind = .colon
    · rw [parseSimple_ofElement whole kind again]
      exact ofElement kind again
    · rw [parseSimple_ofClass whole kind again]
      exact ofClass kind again

theorem parsePseudo_nil (start : Nat) (form : PseudoForm) (nothing : c.rest = []) :
    c.parsePseudo start form = c.selectorError .missingPseudoName := by
  rw [parsePseudo]
  split <;> simp_all

theorem parsePseudo_other (start : Nat) (form : PseudoForm) (whole : c.rest = token :: tail)
    (kind : token.kind ∉ [.identifier, .function]) :
    c.parsePseudo start form = c.selectorError .missingPseudoName := by
  rw [parsePseudo]
  split
  · simp_all
  case h_2 other rest same =>
    obtain ⟨rfl, rfl⟩ := List.cons.inj (same.symm.trans whole)
    split <;> simp_all

theorem parsePseudo_absent (start : Nat) (form : PseudoForm) (whole : c.rest = token :: tail)
    (kind : token.kind = .identifier) :
    c.parsePseudo start form =
      (.ok (.pseudo form token.text .absent ⟨start, c.advance.lastEnd⟩), c.advance) := by
  rw [parsePseudo]
  split <;> simp_all

theorem parsePseudo_selectors (start : Nat) (form : PseudoForm) (whole : c.rest = token :: tail)
    (kind : token.kind = .function)
    (takesList : selectorListPseudos.contains (Text.lower token.text.dropLast) = true) :
    c.parsePseudo start form =
      match c.advance.parseSelectorList .closeParen with
      | (.ok list, last) =>
          last.skipTrivia.closePseudo start form token.text.dropLast
            (.selectors list.selectors list.span)
      | (.error error, last) => (.error error, last) := by
  rw [parsePseudo]
  split
  · simp_all
  case h_2 other rest same =>
    obtain ⟨rfl, rfl⟩ := List.cons.inj (same.symm.trans whole)
    rw [kind]
    exact if_pos takesList

theorem parsePseudo_raw (start : Nat) (form : PseudoForm) (whole : c.rest = token :: tail)
    (kind : token.kind = .function)
    (takesText : selectorListPseudos.contains (Text.lower token.text.dropLast) = false) :
    c.parsePseudo start form =
      (c.advance.readRaw [.closeParen, .openBrace]).2.closePseudo start form token.text.dropLast
        (.raw (c.advance.readRaw [.closeParen, .openBrace]).1) := by
  rw [parsePseudo]
  split
  · simp_all
  case h_2 other rest same =>
    obtain ⟨rfl, rfl⟩ := List.cons.inj (same.symm.trans whole)
    simp only [kind, takesText, Bool.false_eq_true, if_false]

/-- The ways to read a pseudo selector from its name on. -/
@[elab_as_elim]
theorem parsePseudo_cases {motive : Except ParseError SimpleSelector × Cursor → Prop}
    {start : Nat} {form : PseudoForm} (whole : c.rest = token :: tail)
    (other : token.kind ∉ [.identifier, .function] → motive (c.selectorError .missingPseudoName))
    (absent : token.kind = .identifier →
      motive (.ok (.pseudo form token.text .absent ⟨start, c.advance.lastEnd⟩), c.advance))
    (raw : token.kind = .function →
      selectorListPseudos.contains (Text.lower token.text.dropLast) = false →
      motive ((c.advance.readRaw [.closeParen, .openBrace]).2.closePseudo start form
        token.text.dropLast (.raw (c.advance.readRaw [.closeParen, .openBrace]).1)))
    (selectors : token.kind = .function →
      selectorListPseudos.contains (Text.lower token.text.dropLast) = true →
      motive (match c.advance.parseSelectorList .closeParen with
        | (.ok list, last) =>
            last.skipTrivia.closePseudo start form token.text.dropLast
              (.selectors list.selectors list.span)
        | (.error error, last) => (.error error, last))) :
    motive (c.parsePseudo start form) := by
  by_cases unknown : token.kind ∉ [.identifier, .function]
  · rw [parsePseudo_other start form whole unknown]
    exact other unknown
  have known := Classical.not_not.mp unknown
  simp only [List.mem_cons, List.not_mem_nil, or_false] at known
  rcases known with kind | kind
  · rw [parsePseudo_absent start form whole kind]
    exact absent kind
  cases takesList : selectorListPseudos.contains (Text.lower token.text.dropLast) with
  | false =>
      rw [parsePseudo_raw start form whole kind takesList]
      exact raw kind takesList
  | true =>
      rw [parsePseudo_selectors start form whole kind takesList]
      exact selectors kind takesList

theorem parseParts_nil (close : Kind) (combinator : Combinator) (started : Bool)
    (nothing : c.rest = []) : c.parseParts close combinator started = (.ok ([], combinator), c) := by
  rw [parseParts]
  split <;> simp_all

/-- The combinator that a blank stands for, where it is not one of the signs. -/
def behindBlank (started : Bool) (combinator : Combinator) : Combinator :=
  if started && combinator = .same then .descendant else combinator

theorem parseParts_trivia (close : Kind) (combinator : Combinator) (started : Bool)
    (whole : c.rest = token :: tail) (trivia : token.kind.isTrivia = true) :
    c.parseParts close combinator started =
      c.advance.parseParts close (behindBlank started combinator) started := by
  rw [parseParts]
  split
  · simp_all
  case h_2 other rest same =>
    obtain ⟨rfl, rfl⟩ := List.cons.inj (same.symm.trans whole)
    split <;> first | rfl | simp_all [Kind.isTrivia]

/-- The combinators that have a sign of their own. -/
def combinatorOf? : Kind → Option Combinator
  | .greater => some .child
  | .plus => some .next
  | .tilde => some .subsequent
  | _ => none

theorem parseParts_sign (close : Kind) (combinator : Combinator) (started : Bool)
    (whole : c.rest = token :: tail) {sign : Combinator} (isSign : combinatorOf? token.kind = some sign) :
    c.parseParts close combinator started = c.advance.parseParts close sign started := by
  rw [parseParts]
  split
  · simp_all
  case h_2 other rest same =>
    obtain ⟨rfl, rfl⟩ := List.cons.inj (same.symm.trans whole)
    split <;> simp_all [combinatorOf?]

/-- A token that neither separates parts nor ties them. -/
def isPartKind (kind : Kind) : Bool :=
  !kind.isTrivia && (combinatorOf? kind).isNone

theorem parseParts_end (close : Kind) (combinator : Combinator) (started : Bool)
    (whole : c.rest = token :: tail) (isPart : isPartKind token.kind = true)
    (ends : token.kind = close ∨ token.kind = .comma) :
    c.parseParts close combinator started = (.ok ([], combinator), c) := by
  rw [parseParts]
  split
  · simp_all
  case h_2 other rest same =>
    obtain ⟨rfl, rfl⟩ := List.cons.inj (same.symm.trans whole)
    split <;> simp_all [isPartKind, combinatorOf?, Kind.isTrivia]

theorem parseParts_part (close : Kind) (combinator : Combinator) (started : Bool)
    (whole : c.rest = token :: tail) (isPart : isPartKind token.kind = true)
    (inside : ¬ (token.kind = close ∨ token.kind = .comma)) :
    c.parseParts close combinator started =
      match c.parseSimple with
      | (.error error, last) => (.error error, last)
      | (.ok simple, next) =>
          if next.rest.length < c.rest.length then
            match next.parseParts close .same true with
            | (.error error, last) => (.error error, last)
            | (.ok (parts, dangling), last) => (.ok (.mk combinator simple :: parts, dangling), last)
          else (.ok ([.mk combinator simple], .same), next) := by
  rw [parseParts]
  split
  · simp_all
  case h_2 other rest same =>
    obtain ⟨rfl, rfl⟩ := List.cons.inj (same.symm.trans whole)
    split
    case h_6 =>
      rw [if_neg (by simpa using inside)]
      rfl
    all_goals simp_all [isPartKind, combinatorOf?, Kind.isTrivia]

/-- The ways to go on with the parts of a selector. -/
@[elab_as_elim]
theorem parseParts_cases {motive : Except ParseError (List SelectorPart × Combinator) × Cursor → Prop}
    {close : Kind} {combinator : Combinator} {started : Bool} (whole : c.rest = token :: tail)
    (blank : token.kind.isTrivia = true →
      motive (c.advance.parseParts close (behindBlank started combinator) started))
    (sign : ∀ combinatorToo, combinatorOf? token.kind = some combinatorToo →
      motive (c.advance.parseParts close combinatorToo started))
    (ends : isPartKind token.kind = true → token.kind = close ∨ token.kind = .comma →
      motive (.ok ([], combinator), c))
    (part : isPartKind token.kind = true → ¬ (token.kind = close ∨ token.kind = .comma) →
      motive (match c.parseSimple with
        | (.error error, last) => (.error error, last)
        | (.ok simple, next) =>
            if next.rest.length < c.rest.length then
              match next.parseParts close .same true with
              | (.error error, last) => (.error error, last)
              | (.ok (parts, dangling), last) =>
                  (.ok (.mk combinator simple :: parts, dangling), last)
            else (.ok ([.mk combinator simple], .same), next))) :
    motive (c.parseParts close combinator started) := by
  by_cases trivia : token.kind.isTrivia = true
  · rw [parseParts_trivia close combinator started whole trivia]
    exact blank trivia
  cases isSign : combinatorOf? token.kind with
  | some combinatorToo =>
      rw [parseParts_sign close combinator started whole isSign]
      exact sign combinatorToo isSign
  | none =>
      have isPart : isPartKind token.kind = true := by simp [isPartKind, trivia, isSign]
      by_cases closes : token.kind = close ∨ token.kind = .comma
      · rw [parseParts_end close combinator started whole isPart closes]
        exact ends isPart closes
      · rw [parseParts_part close combinator started whole isPart closes]
        exact part isPart closes

end Equations

section Passes

variable {outlook : Outlook} {c next last : Cursor} {found foundToo : Prop}

/-- A step from one cursor to another one reads tokens and reports nothing. What it finds follows
from what is known of the tokens. -/
structure Passes (outlook : Outlook) (c next : Cursor) (found : Prop) : Prop where
  suffix : next.rest <:+ c.rest
  quiet : next.errors = c.errors
  found : outlook.Knows c.lexemes → found

theorem Passes.imp (passes : c.Passes outlook next found)
    (imp : outlook.Knows c.lexemes → found → foundToo) : c.Passes outlook next foundToo :=
  ⟨passes.suffix, passes.quiet, fun knows => imp knows (passes.found knows)⟩

theorem Passes.knows (passes : c.Passes outlook next found) (knows : outlook.Knows c.lexemes) :
    outlook.Knows next.lexemes :=
  outlook.later knows (lexemes_suffix passes.suffix)

theorem Passes.trans (first : c.Passes outlook next found)
    (second : next.Passes outlook last foundToo) : c.Passes outlook last (found ∧ foundToo) :=
  ⟨second.suffix.trans first.suffix, second.quiet.trans first.quiet,
    fun knows => ⟨first.found knows, second.found (first.knows knows)⟩⟩

theorem Passes.moves (passes : c.Passes outlook next found) : c.Passes outlook next True :=
  passes.imp fun _ _ => trivial

theorem passes_of_rest (suffix : next.rest <:+ c.rest) (quiet : next.errors = c.errors) :
    c.Passes outlook next True :=
  ⟨suffix, quiet, fun _ => trivial⟩

theorem Passes.refl (c : Cursor) : c.Passes outlook c True :=
  passes_of_rest (List.suffix_refl _) rfl

theorem passes_advance (c : Cursor) : c.Passes outlook c.advance True :=
  passes_of_rest c.reads_advance.suffix rfl

theorem passes_skipTrivia (c : Cursor) : c.Passes outlook c.skipTrivia True :=
  passes_of_rest c.reads_skipTrivia.suffix rfl

/-- What an error finds holds of every tree. -/
theorem passes_of_error {Tree : Type} {error : ParseError} {found : Tree → Prop}
    (moves : c.Passes outlook last True) : c.Passes outlook last
      (∀ tree, (Except.error error : Except ParseError Tree) = .ok tree → found tree) :=
  moves.imp fun _ _ => nofun

/-- Plain tokens are one of the outlooks. -/
theorem Passes.reads (passes : c.Passes .plain next found) : c.Reads next found :=
  (reads_of_rest passes.suffix passes.quiet).imp fun plain _ => passes.found plain

end Passes

section Finds

variable {outlook : Outlook} {c next last : Cursor} {simple : SimpleSelector} {combinator : Combinator}
  {started : Bool} {parts : List SelectorPart}

/-- The text can be written in place of the tokens between two cursors. -/
def FitsBetween (outlook : Outlook) (c next : Cursor) (text : Text) : Prop :=
  ∀ rest, outlook.Fits next.lexemes rest → outlook.Fits c.lexemes (text ++ rest)

theorem fitsBetween_of_notMem {text : Text} (suffix : next.rest <:+ c.rest) (free : '/' ∉ text) :
    FitsBetween outlook c next text :=
  fun _ fits => outlook.fits (lexemes_suffix suffix) free fits

theorem FitsBetween.trans {text textToo : Text} (first : FitsBetween outlook c next text)
    (second : FitsBetween outlook next last textToo) : FitsBetween outlook c last (text ++ textToo) := by
  intro rest fits
  rw [List.append_assoc]
  exact first _ (second rest fits)

/-- More tokens may be read in front, and whatever is written for them. -/
theorem FitsBetween.earlier {text : Text} (fits : FitsBetween outlook next last text)
    (suffix : next.rest <:+ c.rest) : FitsBetween outlook c last text := by
  have nothing : FitsBetween outlook c next [] := fitsBetween_of_notMem suffix (by simp)
  exact nothing.trans fits

/-- What reading a simple selector finds. -/
structure FindsSimple (outlook : Outlook) (c next : Cursor) (simple : SimpleSelector) : Prop where
  meets : ∀ {rest}, outlook.Fits next.lexemes rest → simple.Meets outlook.demands rest
  fits : FitsBetween outlook c next simple.render
  element : simple.isElement = true → c.kind = .identifier
  apart : simple.endsInName = true → next.kind ≠ .identifier

/-- What reading a text behind its opening sign finds, up to behind the sign that closes it. -/
structure FindsKept (outlook : Outlook) (fence : Fence) (c next : Cursor) (text : Text) : Prop where
  meets : ∀ {d rest}, Closes d → outlook.Fits next.lexemes rest →
    outlook.demands.texts fence text (d :: rest)
  fits : ∀ {opening d}, OpensKept opening → Closes d →
    FitsBetween outlook c next (opening :: (text ++ [d]))

/-- What reading the parts of a selector finds, where `started` says whether there have been some
before. -/
structure FindsParts (outlook : Outlook) (c last : Cursor) (combinator : Combinator) (started : Bool)
    (parts : List SelectorPart) : Prop where
  starts : started = false → combinator ≠ .descendant → parts ≠ [] → StartsSelector parts
  meets : ∀ {afterName rest}, outlook.Fits last.lexemes rest →
    (afterName = true → started = true ∧ (combinator = .same → c.kind ≠ .identifier)) →
      PartsMeet outlook.demands afterName parts rest
  fits : ∀ first, FitsBetween outlook c last (renderParts first parts)

/-- What reading selectors finds. -/
structure FindsSelectors (outlook : Outlook) (c last : Cursor) (list : List Selector) : Prop where
  meets : ∀ {rest}, outlook.Fits last.lexemes rest → SelectorsMeet outlook.demands list rest
  fits : ∀ first, FitsBetween outlook c last (renderSelectors first list)

theorem FindsParts.nil (c : Cursor) : FindsParts outlook c c combinator started [] := by
  constructor
  · exact fun _ _ nothing => absurd rfl nothing
  · exact fun _ _ => trivial
  · exact fun _ => fitsBetween_of_notMem (List.suffix_refl _) (by simp [renderParts])

theorem FindsParts.of_blank (finds : FindsParts outlook next last (behindBlank started combinator)
    started parts) (suffix : next.rest <:+ c.rest) :
    FindsParts outlook c last combinator started parts := by
  refine ⟨fun notStarted first => finds.starts notStarted (by simpa [behindBlank, notStarted]), ?_,
    fun first => (finds.fits first).earlier suffix⟩
  intro afterName rest fits apart
  apply finds.meets fits
  intro after
  refine ⟨(apart after).1, fun same => ?_⟩
  rw [behindBlank, (apart after).1] at same
  cases combinator <;> cases same

theorem FindsParts.of_sign {sign : Combinator} {kind : Kind}
    (finds : FindsParts outlook next last sign started parts) (suffix : next.rest <:+ c.rest)
    (isSign : combinatorOf? kind = some sign) :
    FindsParts outlook c last combinator started parts := by
  have tied : sign ≠ .same ∧ sign ≠ .descendant := by
    revert isSign
    cases kind <;> cases sign <;> decide
  refine ⟨fun notStarted _ => finds.starts notStarted tied.2, ?_,
    fun first => (finds.fits first).earlier suffix⟩
  intro afterName rest fits apart
  exact finds.meets fits fun after => ⟨(apart after).1, fun same => absurd same tied.1⟩

theorem slash_notMem_render (combinator : Combinator) (first : Bool) : '/' ∉ combinator.render first := by
  cases combinator <;> cases first <;> decide

theorem FindsSimple.more (first : FindsSimple outlook c next simple)
    (later : FindsParts outlook next last .same true parts) :
    FindsParts outlook c last combinator started (.mk combinator simple :: parts) := by
  refine ⟨fun _ notDescendant _ => notDescendant, ?_, fun isFirst => ?_⟩
  · intro afterName rest fits apart
    refine ⟨first.meets (later.fits false _ fits), ?_, ?_⟩
    · intro after same
      exact Bool.eq_false_iff.mpr fun element => (apart after).2 same (first.element element)
    · exact later.meets fits fun ends => ⟨rfl, fun _ => first.apart ends⟩
  · rw [renderParts, List.append_assoc]
    have written := slash_notMem_render combinator isFirst
    exact (fitsBetween_of_notMem (List.suffix_refl _) written).trans (first.fits.trans (later.fits false))

theorem FindsParts.selector {span : Span} (finds : FindsParts outlook c last .same false parts)
    (notEmpty : parts ≠ []) :
    FindsSelectors outlook c last [.mk parts span] := by
  constructor
  · intro rest fits
    exact ⟨finds.starts rfl nofun notEmpty, finds.meets fits nofun, trivial⟩
  · intro first
    rw [renderSelectors, renderSelectors, List.append_nil]
    have free : '/' ∉ if first then [] else ", ".toList := by
      cases first <;> decide
    exact (fitsBetween_of_notMem (List.suffix_refl _) free).trans (finds.fits true)

theorem FindsSelectors.earlier {list : List Selector} (finds : FindsSelectors outlook next last list)
    (suffix : next.rest <:+ c.rest) : FindsSelectors outlook c last list :=
  ⟨finds.meets, fun first => (finds.fits first).earlier suffix⟩

theorem FindsSelectors.further {list : List Selector} (finds : FindsSelectors outlook c next list)
    (suffix : last.rest <:+ next.rest) : FindsSelectors outlook c last list := by
  have nothing : FitsBetween outlook next last [] := fitsBetween_of_notMem suffix (by simp)
  constructor
  · exact fun fits => finds.meets (nothing _ fits)
  · intro first
    simpa using (finds.fits first).trans nothing

/-- A comma and blanks stand between two selectors. -/
theorem FindsSelectors.cons {selector : Selector} {more : List Selector} {between : Cursor}
    (first : FindsSelectors outlook c between [selector]) (suffix : next.rest <:+ between.rest)
    (later : FindsSelectors outlook next last more) :
    FindsSelectors outlook c last (selector :: more) := by
  obtain ⟨parts, span⟩ := selector
  constructor
  · intro rest fits
    obtain ⟨starts, meets, -⟩ := first.meets ((later.fits false).earlier suffix _ fits)
    exact ⟨starts, by simpa [renderSelectors] using meets, later.meets fits⟩
  · intro isFirst
    have written := (first.fits isFirst).trans ((later.fits false).earlier suffix)
    simpa [renderSelectors] using written

variable {token : Token} {tail : List Token}

theorem not_identifier_advance (cut : IsCut c.lexemes) (whole : c.rest = token :: tail)
    (name : token.kind = .identifier ∨ token.kind = .hash) : c.advance.kind ≠ .identifier := by
  intro isName
  obtain ⟨next, later, wholeNext⟩ := exists_rest_of_kind (c := c.advance) (by rw [isName]; decide)
  rw [kind_of_rest wholeNext] at isName
  rw [rest_advance whole] at wholeNext
  rw [lexemes_of_rest whole, wholeNext] at cut
  exact cut.not_identifier_behind name isName

/-- A text is kept up to a stop, which closes it. -/
theorem passes_readRaw {stops : List Kind} (noBlank : Kind.whitespace ∉ stops) (c : Cursor) :
    c.Passes outlook (c.readRaw stops).2.advance ((c.readRaw stops).2.kind ≠ .endOfInput →
      FindsKept outlook (.outsideParens stops noBlank) c (c.readRaw stops).2.advance
        (c.readRaw stops).1) := by
  obtain ⟨suffix, quiet⟩ := readRaw_moves noBlank c
  have behind := (c.readRaw stops).2.reads_advance.suffix
  refine (passes_of_rest (behind.trans suffix) quiet).imp fun knows _ inside => ?_
  obtain ⟨taken, whole, raw, encloses, _⟩ := exists_taken_of_readRaw noBlank inside
  rw [whole] at knows
  have apart {d : Char} (closes : Closes d) : '/' ∉ [d] := by
    unfold Closes at closes
    revert closes
    simp only [List.mem_cons, List.not_mem_nil, or_false]
    rintro (rfl | rfl) <;> decide
  constructor
  · intro d rest closes fits
    rw [raw]
    exact outlook.texts knows encloses closes (fitsBetween_of_notMem behind (apart closes) _ fits)
  · intro opening d opens closes rest fits
    rw [raw, whole, List.cons_append, List.append_assoc]
    exact outlook.fitsKept knows opens (fitsBetween_of_notMem behind (apart closes) _ fits)

theorem closePseudo_closed (start : Nat) (form : PseudoForm) (name : Text) (argument : PseudoArgument)
    (closes : c.kind = .closeParen) : c.closePseudo start form name argument =
      (.ok (.pseudo form name argument ⟨start, c.advance.lastEnd⟩), c.advance) :=
  if_pos closes

theorem closePseudo_unclosed (start : Nat) (form : PseudoForm) (name : Text)
    (argument : PseudoArgument) (unclosed : c.kind ≠ .closeParen) :
    c.closePseudo start form name argument = c.selectorError .unclosedArgument :=
  if_neg unclosed

/-- The colons in front of a pseudo selector are read before it. -/
theorem FindsSimple.earlier (finds : FindsSimple outlook next last simple)
    (notElement : simple.isElement = false) (suffix : next.rest <:+ c.rest) :
    FindsSimple outlook c last simple :=
  ⟨finds.meets, finds.fits.earlier suffix, by simp [notElement], finds.apart⟩

theorem slash_notMem_form (form : PseudoForm) : '/' ∉ form.render := by
  cases form <;> decide

/-- What is read behind the name of a call and its opening parenthesis. -/
theorem exists_name_of_function (knows : outlook.Knows c.lexemes) (whole : c.rest = token :: tail)
    (isFunction : token.kind = .function) :
    outlook.demands.calls token.text.dropLast ∧ '/' ∉ token.text.dropLast := by
  have listed : token.lexeme ∈ c.lexemes := by simp [lexemes_of_rest whole]
  refine ⟨outlook.calls knows listed isFunction, ?_⟩
  obtain ⟨name, written, isName⟩ := (outlook.cut knows).exists_name_of_function listed isFunction
  rw [← lexeme_text, written, List.dropLast_concat]
  exact slash_notMem_of_spells isName

variable {form : PseudoForm} {text : Text} {list : List Selector} {span spanToo : Span}

theorem findsSimple_element (cut : IsCut c.lexemes) (whole : c.rest = token :: tail)
    (kind : token.kind = .identifier) :
    FindsSimple outlook c c.advance (.element token.text span) := by
  have spells : Kind.identifier.Spells token.text := spells_of_cut cut whole kind
  constructor
  · exact fun _ => spells
  · exact fitsBetween_of_notMem c.reads_advance.suffix (slash_notMem_of_spells spells)
  · exact fun _ => (kind_of_rest whole).trans kind
  · exact fun _ => not_identifier_advance cut whole (.inl kind)

theorem findsSimple_byId (cut : IsCut c.lexemes) (whole : c.rest = token :: tail)
    (kind : token.kind = .hash) :
    FindsSimple outlook c c.advance (.byId (token.text.drop 1) span) := by
  have spells : Kind.hash.Spells token.text := spells_of_cut cut whole kind
  obtain ⟨name, same⟩ := exists_hash_of_spells spells
  rw [same] at spells ⊢
  have free : '/' ∉ '#' :: name :=
    List.not_mem_cons_of_ne_of_not_mem (by decide) (slash_notMem_of_hash spells)
  constructor
  · exact fun _ => spells
  · exact fitsBetween_of_notMem c.reads_advance.suffix free
  · exact nofun
  · exact fun _ => not_identifier_advance cut whole (.inr kind)

/-- The name of a class is read behind its dot. -/
theorem findsSimple_byClass (cut : IsCut c.advance.lexemes) (named : c.advance.kind = .identifier) :
    FindsSimple outlook c c.advance.advance (.byClass c.advance.current.text span) := by
  have spells := spells_current_of_cut cut named (by decide)
  obtain ⟨name, rest, whole⟩ := exists_rest_of_kind (c := c.advance) (by rw [named]; decide)
  have suffix := c.advance.reads_advance.suffix.trans c.reads_advance.suffix
  have free : '/' ∉ '.' :: c.advance.current.text :=
    List.not_mem_cons_of_ne_of_not_mem (by decide) (slash_notMem_of_spells spells)
  constructor
  · exact fun _ => spells
  · exact fitsBetween_of_notMem suffix free
  · exact nofun
  · exact fun _ => not_identifier_advance cut whole (.inl ((kind_of_rest whole).symm.trans named))

theorem FindsKept.attribute (kept : FindsKept outlook .ofAttribute next last text)
    (suffix : next.rest <:+ c.rest) : FindsSimple outlook c last (.attribute text span) := by
  have opens : OpensKept '[' := by simp [OpensKept]
  have closes : Closes ']' := by simp [Closes]
  exact ⟨kept.meets closes, (kept.fits opens closes).earlier suffix, nofun, nofun⟩

theorem findsSimple_absent (cut : IsCut c.lexemes) (whole : c.rest = token :: tail)
    (kind : token.kind = .identifier) :
    FindsSimple outlook c c.advance (.pseudo form token.text .absent span) := by
  have spells : Kind.identifier.Spells token.text := spells_of_cut cut whole kind
  have free : '/' ∉ form.render ++ token.text := by
    simp [slash_notMem_form form, slash_notMem_of_spells spells]
  constructor
  · exact fun _ => spells
  · exact fitsBetween_of_notMem c.reads_advance.suffix free
  · exact nofun
  · exact fun _ => not_identifier_advance cut whole (.inl kind)

/-- An argument that is kept as a text. -/
theorem FindsKept.pseudo (kept : FindsKept outlook .ofArgument c.advance last text)
    (knows : outlook.Knows c.lexemes) (whole : c.rest = token :: tail)
    (kind : token.kind = .function)
    (takesText : selectorListPseudos.contains (Text.lower token.text.dropLast) = false) :
    FindsSimple outlook c last (.pseudo form token.text.dropLast (.raw text) span) := by
  obtain ⟨called, free⟩ := exists_name_of_function knows whole kind
  have opens : OpensKept '(' := by simp [OpensKept]
  have closes : Closes ')' := by simp [Closes]
  have head : '/' ∉ form.render ++ token.text.dropLast := by
    simp [slash_notMem_form form, free]
  refine ⟨fun fits => ⟨called, takesText, kept.meets closes fits⟩, ?_, nofun, nofun⟩
  have written := (fitsBetween_of_notMem c.reads_advance.suffix head).trans (kept.fits opens closes)
  simpa [SimpleSelector.render] using written

/-- An argument that is read as selectors. Blanks may stand in front of the closing parenthesis. -/
theorem FindsSelectors.pseudo (finds : FindsSelectors outlook c.advance next list)
    (notEmpty : list ≠ []) (knows : outlook.Knows c.lexemes) (whole : c.rest = token :: tail)
    (kind : token.kind = .function)
    (takesList : selectorListPseudos.contains (Text.lower token.text.dropLast) = true)
    (suffix : last.rest <:+ next.rest) :
    FindsSimple outlook c last
      (.pseudo form token.text.dropLast (.selectors list spanToo) span) := by
  obtain ⟨called, free⟩ := exists_name_of_function knows whole kind
  have closing : FitsBetween outlook next last [')'] := fitsBetween_of_notMem suffix (by decide)
  have head : '/' ∉ form.render ++ token.text.dropLast ++ ['('] := by
    simp [slash_notMem_form form, free]
  refine ⟨fun fits => ⟨called, takesList, notEmpty, finds.meets (closing _ fits)⟩, ?_, nofun, nofun⟩
  have written := (fitsBetween_of_notMem c.reads_advance.suffix head).trans
    ((finds.fits true).trans closing)
  simpa [SimpleSelector.render] using written

mutual

theorem passes_parseSimple (outlook : Outlook) (c : Cursor) : c.Passes outlook c.parseSimple.2
    (∀ simple, c.parseSimple.1 = .ok simple → FindsSimple outlook c c.parseSimple.2 simple) := by
  cases whole : c.rest with
  | nil =>
      rw [parseSimple_nil whole]
      exact passes_of_error (Passes.refl c)
  | cons token tail =>
      have suffix := c.reads_advance.suffix
      have noBlank : Kind.whitespace ∉ [Kind.closeBracket, .openBrace] := by decide
      refine parseSimple_cases whole ?star ?element ?byId ?byClass ?unnamed ?closed ?unclosed
        ?ofElement ?ofClass ?other
      case star =>
        intro _
        refine c.passes_advance.imp fun _ _ => ?_
        rintro _ ⟨⟩
        have free : '/' ∉ (SimpleSelector.universal token.span).render := by simp [SimpleSelector.render]
        exact ⟨fun _ => trivial, fitsBetween_of_notMem suffix free, nofun, nofun⟩
      case element =>
        intro kind
        refine c.passes_advance.imp fun knows _ => ?_
        rintro _ ⟨⟩
        exact findsSimple_element (outlook.cut knows) whole kind
      case byId =>
        intro kind
        refine c.passes_advance.imp fun knows _ => ?_
        rintro _ ⟨⟩
        exact findsSimple_byId (outlook.cut knows) whole kind
      case byClass =>
        intro _ named
        refine (c.passes_advance.trans (passes_advance c.advance)).imp fun knows _ => ?_
        rintro _ ⟨⟩
        exact findsSimple_byClass (outlook.cut (c.passes_advance.knows knows)) named
      case unnamed => exact fun _ _ => passes_of_error c.passes_advance
      case closed =>
        intro _ closes
        refine (c.passes_advance.trans (passes_readRaw noBlank c.advance)).imp fun _ found => ?_
        rintro _ ⟨⟩
        exact (found.2 (by rw [closes]; decide)).attribute suffix
      case unclosed =>
        intro _ _
        have moved := readRaw_moves noBlank c.advance
        exact passes_of_error (passes_of_rest (moved.1.trans suffix) moved.2)
      case ofElement =>
        intro _ _
        have colons := c.passes_advance.trans (@passes_advance outlook c.advance)
        refine (colons.trans (passes_parsePseudo outlook token.span.start .ofElement
          c.advance.advance)).imp fun _ found simple parsed => ?_
        obtain ⟨finds, notElement⟩ := found.2 simple parsed
        exact finds.earlier notElement colons.suffix
      case ofClass =>
        intro _ _
        refine (c.passes_advance.trans (passes_parsePseudo outlook token.span.start .ofClass
          c.advance)).imp fun _ found simple parsed => ?_
        obtain ⟨finds, notElement⟩ := found.2 simple parsed
        exact finds.earlier notElement suffix
      case other => exact fun _ => passes_of_error (Passes.refl c)
termination_by 6 * c.rest.length
decreasing_by
  · have := c.advance.length_advance
    rw [length_advance, length_advance, whole, List.length_cons]
    omega
  · rw [length_advance, whole, List.length_cons]
    omega

theorem passes_parsePseudo (outlook : Outlook) (start : Nat) (form : PseudoForm) (c : Cursor) :
    c.Passes outlook (c.parsePseudo start form).2
      (∀ simple, (c.parsePseudo start form).1 = .ok simple →
        FindsSimple outlook c (c.parsePseudo start form).2 simple ∧ simple.isElement = false) := by
  cases whole : c.rest with
  | nil =>
      rw [parsePseudo_nil start form whole]
      exact passes_of_error (Passes.refl c)
  | cons token tail =>
      have suffix := c.reads_advance.suffix
      refine parsePseudo_cases whole ?other ?absent ?raw ?selectors
      case other => exact fun _ => passes_of_error (Passes.refl c)
      case absent =>
        intro kind
        refine c.passes_advance.imp fun knows _ => ?_
        rintro _ ⟨⟩
        exact ⟨findsSimple_absent (outlook.cut knows) whole kind, rfl⟩
      case raw =>
        intro kind takesText
        have noBlank : Kind.whitespace ∉ [Kind.closeParen, .openBrace] := by decide
        by_cases closes : (c.advance.readRaw [.closeParen, .openBrace]).2.kind = .closeParen
        · rw [closePseudo_closed _ _ _ _ closes]
          refine (c.passes_advance.trans (passes_readRaw noBlank c.advance)).imp ?_
          rintro knows found _ ⟨⟩
          have kept := found.2 (by rw [closes]; decide)
          exact ⟨kept.pseudo knows whole kind takesText, rfl⟩
        · rw [closePseudo_unclosed _ _ _ _ closes]
          have moved := readRaw_moves noBlank c.advance
          exact passes_of_error (passes_of_rest (moved.1.trans suffix) moved.2)
      case selectors =>
        intro kind takesList
        have inner := c.passes_advance.trans
          (passes_parseSelectorList outlook .closeParen c.advance)
        rcases parsed : c.advance.parseSelectorList .closeParen with ⟨error | list, last⟩ <;>
          rw [parsed] at inner
        · exact passes_of_error inner.moves
        have behind := inner.trans (passes_skipTrivia last)
        dsimp only
        by_cases closes : last.skipTrivia.kind = .closeParen
        · rw [closePseudo_closed _ _ _ _ closes]
          refine (behind.trans (passes_advance last.skipTrivia)).imp ?_
          rintro knows found _ ⟨⟩
          obtain ⟨notEmpty, finds⟩ := found.1.1.2 list rfl
          have suffix := last.skipTrivia.reads_advance.suffix.trans last.reads_skipTrivia.suffix
          exact ⟨finds.pseudo notEmpty knows whole kind takesList suffix, rfl⟩
        · rw [closePseudo_unclosed _ _ _ _ closes]
          exact passes_of_error behind.moves
termination_by 6 * c.rest.length + 1
decreasing_by
  rw [length_advance, whole, List.length_cons]
  omega

theorem passes_parseParts (outlook : Outlook) (close : Kind) (combinator : Combinator) (started : Bool)
    (c : Cursor) : c.Passes outlook (c.parseParts close combinator started).2
      (∀ found, (c.parseParts close combinator started).1 = .ok found →
        FindsParts outlook c (c.parseParts close combinator started).2 combinator started found.1) := by
  cases whole : c.rest with
  | nil =>
      rw [parseParts_nil close combinator started whole]
      refine (Passes.refl c).imp fun _ _ => ?_
      rintro _ ⟨⟩
      exact .nil c
  | cons token tail =>
      have suffix := c.reads_advance.suffix
      refine parseParts_cases whole ?blank ?sign ?ends ?part
      case blank =>
        intro _
        refine (c.passes_advance.trans (passes_parseParts outlook close _ started c.advance)).imp ?_
        intro _ found parsed outcome
        exact (found.2 parsed outcome).of_blank suffix
      case sign =>
        intro combinatorToo sign
        refine (c.passes_advance.trans (passes_parseParts outlook close _ started c.advance)).imp ?_
        intro _ found parsed outcome
        exact (found.2 parsed outcome).of_sign suffix sign
      case ends =>
        intro _ _
        refine (Passes.refl c).imp fun _ _ => ?_
        rintro _ ⟨⟩
        exact .nil c
      case part =>
        intro _ _
        have first := passes_parseSimple outlook c
        rcases parsed : c.parseSimple with ⟨error | simple, next⟩ <;> rw [parsed] at first
        · exact passes_of_error first.moves
        dsimp only
        split
        case isFalse =>
          refine first.imp fun _ found => ?_
          rintro _ ⟨⟩
          exact (found simple rfl).more (.nil next)
        case isTrue shorter =>
          have later := first.trans (passes_parseParts outlook close .same true next)
          rcases parsedLater : next.parseParts close .same true with ⟨error | parts, last⟩ <;>
            rw [parsedLater] at later
          · exact passes_of_error later.moves
          · refine later.imp fun _ found => ?_
            rintro _ ⟨⟩
            exact (found.1 simple rfl).more (found.2 parts rfl)
termination_by 6 * c.rest.length + 2
decreasing_by
  all_goals first
    | omega
    | rw [length_advance, whole, List.length_cons]
      omega

theorem passes_parseSelector (outlook : Outlook) (close : Kind) (c : Cursor) :
    c.Passes outlook (c.parseSelector close).2 (∀ selector, (c.parseSelector close).1 = .ok selector →
      FindsSelectors outlook c (c.parseSelector close).2 [selector]) := by
  rw [parseSelector]
  have inner := passes_parseParts outlook close .same false c
  rcases parsed : c.parseParts close .same false with ⟨error | ⟨parts, dangling⟩, last⟩ <;>
    rw [parsed] at inner
  · exact passes_of_error inner.moves
  dsimp only
  split
  case isTrue => exact passes_of_error inner.moves
  case isFalse notEmpty =>
    split
    case isFalse => exact passes_of_error inner.moves
    case isTrue =>
      refine inner.imp fun _ found => ?_
      rintro _ ⟨⟩
      exact (found _ rfl).selector (by simpa using notEmpty)
termination_by 6 * c.rest.length + 3
decreasing_by omega

theorem passes_parseSelectors (outlook : Outlook) (close : Kind) (c : Cursor) :
    c.Passes outlook (c.parseSelectors close).2 (∀ list, (c.parseSelectors close).1 = .ok list →
      list ≠ [] ∧ FindsSelectors outlook c (c.parseSelectors close).2 list) := by
  rw [parseSelectors]
  have first := passes_parseSelector outlook close c
  rcases parsed : c.parseSelector close with ⟨error | selector, last⟩ <;> rw [parsed] at first
  · exact passes_of_error first.moves
  dsimp only
  have between : last.Passes outlook last.advance.skipTrivia _ :=
    last.passes_advance.trans (passes_skipTrivia _)
  have behind := first.trans between
  split
  case isFalse =>
    refine first.imp fun _ found => ?_
    rintro _ ⟨⟩
    exact ⟨List.cons_ne_nil _ _, found selector rfl⟩
  split
  case isFalse =>
    refine behind.imp fun _ found => ?_
    rintro _ ⟨⟩
    exact ⟨List.cons_ne_nil _ _, (found.1 selector rfl).further between.suffix⟩
  have later := behind.trans (passes_parseSelectors outlook close last.advance.skipTrivia)
  rcases parsedLater : last.advance.skipTrivia.parseSelectors close with
    ⟨error | selectors, last⟩ <;> rw [parsedLater] at later
  · exact passes_of_error later.moves
  · refine later.imp fun _ found => ?_
    rintro _ ⟨⟩
    exact ⟨List.cons_ne_nil _ _, (found.1.1 selector rfl).cons between.suffix
      (found.2 selectors rfl).2⟩
termination_by 6 * c.rest.length + 4
decreasing_by
  · omega
  · omega

theorem passes_parseSelectorList (outlook : Outlook) (close : Kind) (c : Cursor) :
    c.Passes outlook (c.parseSelectorList close).2
      (∀ list, (c.parseSelectorList close).1 = .ok list → list.selectors ≠ [] ∧
        FindsSelectors outlook c (c.parseSelectorList close).2 list.selectors) := by
  rw [parseSelectorList]
  have inner := c.passes_skipTrivia.trans (passes_parseSelectors outlook close c.skipTrivia)
  rcases parsed : c.skipTrivia.parseSelectors close with ⟨error | selectors, last⟩ <;>
    rw [parsed] at inner
  · exact passes_of_error inner.moves
  · refine inner.imp fun _ found => ?_
    rintro _ ⟨⟩
    obtain ⟨notEmpty, finds⟩ := found.2 selectors rfl
    exact ⟨notEmpty, finds.earlier c.reads_skipTrivia.suffix⟩
termination_by 6 * c.rest.length + 5
decreasing_by
  have := c.length_skipTrivia
  omega

end

theorem reads_parseSelectorList (close : Kind) (c : Cursor) :
    c.Reads (c.parseSelectorList close).2
      (∀ list, (c.parseSelectorList close).1 = .ok list → list.WellFormed) := by
  refine (passes_parseSelectorList .plain close c).reads.imp fun _ found list parsed => ?_
  obtain ⟨notEmpty, finds⟩ := found list parsed
  have meets : SelectorsMeet Outlook.plain.demands list.selectors [] := finds.meets trivial
  exact ⟨notEmpty, selectorsMeet_plain_iff.mp meets⟩

end Finds

end ComponentStyles.Cursor
