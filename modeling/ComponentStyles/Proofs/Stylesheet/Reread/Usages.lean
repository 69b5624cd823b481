import ComponentStyles.Proofs.Stylesheet.Reread.Statement
import ComponentStyles.Proofs.Variable.Usage

/-!
# Usages in written stylesheets

A token that opens a usage is read as one wherever the parser looks. Texts that are kept as written
may hold such tokens too. A tree without usages is written without any others.
-/

namespace ComponentStyles

open Token

section Tokens

/-- Whether a token calls `var`. -/
def Token.Lexeme.callsVar (l : Lexeme) : Bool :=
  l.kind = .function && Text.sameLetters l.text "var(".toList

/-- Whether a native custom property is named next. -/
def Token.namesProperty (ls : List Lexeme) : Bool :=
  match ls.dropWhile Lexeme.isTrivia with
  | [] => false
  | l :: _ => l.kind = .identifier && Text.startsWith l.text ['-', '-']

/-- The tokens that open the usage of a variable, rather than that of a native custom property. -/
def Token.usageTokens : List Lexeme → List Lexeme
  | [] => []
  | l :: ls => if l.callsVar && !namesProperty ls then l :: usageTokens ls else usageTokens ls

/-- The tokens of a text that open the usage of a variable. -/
def usagesIn (text : Text) : List Lexeme :=
  usageTokens (lexemes text)

variable {kind : Kind} {c : Char} {l : Lexeme} {ls others : List Lexeme} {front rest name text : Text}

theorem Token.usageTokens_cons_of_kind (notFunction : l.kind ≠ .function) :
    usageTokens (l :: ls) = usageTokens ls := by
  rw [usageTokens, if_neg (by simp [Lexeme.callsVar, notFunction])]

theorem Token.namesProperty_cons (solid : l.isTrivia = false) :
    namesProperty (l :: ls) = (l.kind = .identifier && Text.startsWith l.text ['-', '-']) := by
  rw [namesProperty, List.dropWhile_cons_of_neg (by simp [solid])]

theorem Token.namesProperty_append (unnamed : namesProperty others = false) :
    namesProperty (ls ++ others) = namesProperty ls := by
  induction ls with
  | nil => exact unnamed
  | cons l ls inductionHypothesis =>
      cases trivia : l.isTrivia with
      | true =>
          simpa only [namesProperty, List.cons_append, List.dropWhile_cons_of_pos trivia] using
            inductionHypothesis
      | false => rw [List.cons_append, namesProperty_cons trivia, namesProperty_cons trivia]

/-- Tokens that start with no name do not change what stands in front of them. -/
theorem Token.usageTokens_append (unnamed : namesProperty others = false) :
    usageTokens (ls ++ others) = usageTokens ls ++ usageTokens others := by
  induction ls with
  | nil => rfl
  | cons l ls inductionHypothesis =>
      rw [List.cons_append, usageTokens, usageTokens, namesProperty_append unnamed,
        inductionHypothesis]
      split <;> rfl

theorem Token.single_kind (single : singles.lookup c = some kind) :
    kind ≠ .function ∧ kind ≠ .identifier ∧ kind.isTrivia = false := by
  have all : ∀ single ∈ singles, single.2 ≠ Kind.function ∧ single.2 ≠ .identifier ∧
      single.2.isTrivia = false := by decide
  exact all _ (mem_singles single)

/-- A piece that is a token of its own, but not a function, opens no usage. -/
theorem usagesIn_of_lexemes {text : Text} (cut : lexemes text = l :: lexemes rest)
    (notFunction : l.kind ≠ .function) : usagesIn text = usagesIn rest := by
  rw [usagesIn, cut, usageTokens_cons_of_kind notFunction, usagesIn]

theorem usagesIn_single (single : singles.lookup c = some kind) :
    usagesIn (c :: rest) = usagesIn rest :=
  usagesIn_of_lexemes (lexemes_single single) (single_kind single).1

theorem usagesIn_space (beyond : ∀ c ∈ rest.head?, c ∉ blanks) :
    usagesIn (' ' :: rest) = usagesIn rest :=
  usagesIn_of_lexemes (lexemes_space beyond) (by simp)

theorem Token.usageTokens_of_trivia (trivia : ∀ l ∈ ls, l.isTrivia = true) :
    usageTokens (ls ++ others) = usageTokens others := by
  induction ls with
  | nil => rfl
  | cons l ls inductionHypothesis =>
      rw [List.forall_mem_cons] at trivia
      have notFunction : l.kind ≠ .function := by
        intro isFunction
        have isTrivia := trivia.1
        rw [Lexeme.isTrivia, isFunction] at isTrivia
        cases isTrivia
      rw [List.cons_append, usageTokens_cons_of_kind notFunction, inductionHypothesis trivia.2]

/-- Nothing behind a single sign belongs to a usage in front of it. -/
theorem Token.usageTokens_append_single (trivia : ∀ l ∈ others, l.isTrivia = true)
    (single : singles.lookup c = some kind) :
    usageTokens (ls ++ (others ++ ⟨kind, [c]⟩ :: lexemes rest)) =
      usageTokens ls ++ usagesIn rest := by
  obtain ⟨notFunction, notName, solid⟩ := single_kind single
  have unnamed : namesProperty (others ++ ⟨kind, [c]⟩ :: lexemes rest) = false := by
    rw [namesProperty, List.dropWhile_append_of_pos trivia,
      List.dropWhile_cons_of_neg (by simp [Lexeme.isTrivia, solid])]
    simp [notName]
  have skip : usageTokens (others ++ ⟨kind, [c]⟩ :: lexemes rest) = usagesIn rest := by
    rw [usageTokens_of_trivia trivia, usageTokens_cons_of_kind notFunction, usagesIn]
  rw [usageTokens_append unnamed, skip]

theorem Token.usageTokens_append_stop (single : singles.lookup c = some kind) :
    usageTokens (l :: (ls ++ ⟨kind, [c]⟩ :: lexemes rest)) =
      usageTokens (l :: ls) ++ usagesIn rest := by
  have whole : l :: (ls ++ ⟨kind, [c]⟩ :: lexemes rest) =
      l :: ls ++ ([] ++ ⟨kind, [c]⟩ :: lexemes rest) := rfl
  rw [whole, usageTokens_append_single (List.forall_mem_nil _) single]

theorem callsVar_function : Lexeme.callsVar ⟨.function, name ++ ['(']⟩ =
    Text.sameLetters name "var".toList := by
  have split : Text.lower (name ++ ['(']) = Text.lower name ++ ['('] := List.map_append
  have whole : Text.lower "var(".toList = Text.lower "var".toList ++ ['('] := by decide
  rw [Bool.eq_iff_iff, Lexeme.callsVar, Text.sameLetters, Text.sameLetters, split, whole]
  simp only [decide_true, Bool.true_and, beq_iff_eq, List.append_left_inj]

end Tokens

section Terms

variable {rest : Text}

theorem namesProperty_of_startsCustom {arguments : List Term} (custom : StartsCustom arguments) :
    namesProperty (lexemes (renderTerms false arguments ++ ')' :: rest)) = true := by
  obtain ⟨text, ls, isName, cut⟩ := exists_lexemes_of_startsCustom custom rest
  rw [cut, namesProperty_cons rfl]
  simpa using isName.2

mutual

/-- A term without usages is written without tokens that open one. -/
theorem usagesIn_term : ∀ {term : Term} {rest : Text}, term.WellFormed → term.Legible →
    term.usedNames = [] → term.EndsIn rest → usagesIn (term.render ++ rest) = usagesIn rest
  | .literal text _, rest, ⟨kind, isLiteral, spells, tame⟩, _, _, ends =>
      usagesIn_of_lexemes (lexemes_literal isLiteral spells tame ends)
        (by rintro rfl; cases isLiteral)
  | .usage name fallback span, _, _, _, clean, _ => by
      have used := Term.name_mem_usedNames name fallback span
      rw [clean] at used
      cases used
  | .url _ _, rest, _, legible, _, _ =>
      usagesIn_of_lexemes (lexemes_url (matches_render_url legible)) (by simp)
  | .call name arguments argumentsSpan span, rest, ⟨named, custom, wellFormed⟩, legible, clean, _ => by
      have whole : (Term.call name arguments argumentsSpan span).render ++ rest =
          name ++ '(' :: (renderTerms false arguments ++ ')' :: rest) := by
        simp
      have inside : usagesIn (renderTerms false arguments ++ ')' :: rest) = _ :=
        usagesIn_terms wellFormed legible clean endsValue_paren.follows
      rw [usagesIn_single rfl] at inside
      rw [whole]
      rcases named with rfl | isName
      · rw [List.nil_append, usagesIn_single rfl, inside]
      · rw [usagesIn, lexemes_call isName, usageTokens, if_neg]
        · exact inside
        rw [callsVar_function]
        cases isVar : Text.sameLetters name "var".toList with
        | false => simp
        | true => simp [namesProperty_of_startsCustom (custom isVar)]
  | .operator .comma _, _, _, _, _, _ => usagesIn_single rfl
  | .operator .slash _, rest, _, _, _, notStar =>
      usagesIn_of_lexemes (lexemes_slash notStar) (by simp)

theorem usagesIn_terms : ∀ {terms : List Term} {due : Bool} {rest : Text},
    WellFormedTerms terms → LegibleTerms terms → usedNamesOf terms = [] → FollowsTerm rest →
      usagesIn (renderTerms due terms ++ rest) = usagesIn rest
  | [], _, _, _, _, _, _ => by rw [renderTerms, List.nil_append]
  | term :: terms, due, rest, ⟨wellFormed, wellFormedToo⟩, ⟨legible, apart, legibleToo⟩, clean,
      follows => by
      obtain ⟨lead, dueToo, isLead, same, ends⟩ := exists_renderTerms_cons due
        ⟨wellFormed, wellFormedToo⟩ (steadyTerms_of_legible ⟨legible, apart, legibleToo⟩) follows
      obtain ⟨cleanTerm, cleanTerms⟩ := List.append_eq_nil_iff.mp clean
      have inside := usagesIn_term wellFormed legible cleanTerm ends
      rw [usagesIn_terms wellFormedToo legibleToo cleanTerms follows] at inside
      rw [same, List.append_assoc, List.append_assoc]
      rcases isLead with rfl | ⟨_, rfl⟩
      · exact inside
      · obtain ⟨l, ls, cut, opens, _⟩ := opens_render wellFormed legible.steady ends
        rw [List.singleton_append, usagesIn_space (opens.startsSolid cut).head, inside]

end

end Terms

section Selectors

mutual

/-- The texts that are kept as written in a simple selector, an argument with the name in front. -/
def SimpleSelector.keptTexts : SimpleSelector → List Text
  | .attribute raw _ => [raw]
  | .pseudo _ name (.raw text) _ => [name ++ '(' :: (text ++ [')'])]
  | .pseudo _ _ (.selectors list _) _ => keptTextsOfSelectors list
  | _ => []

def keptTextsOfSelectors : List Selector → List Text
  | [] => []
  | .mk parts _ :: rest => keptTextsOfParts parts ++ keptTextsOfSelectors rest

def keptTextsOfParts : List SelectorPart → List Text
  | [] => []
  | .mk _ simple :: rest => simple.keptTexts ++ keptTextsOfParts rest

end

variable {rest text name : Text}

/-- A kept text opens the usages it opens by itself, in front of a stop. -/
theorem usagesIn_kept {fence : Fence} (keeps : fence.Keeps text) (gap : Bool) (stop : Char)
    {kind : Kind} (single : singles.lookup stop = some kind) (delimits : Delimits stop) :
    usagesIn (text ++ (stopText gap stop ++ rest)) = usagesIn text ++ usagesIn rest := by
  rw [usagesIn, lexemes_keeps_stopText keeps gap single delimits]
  refine usageTokens_append_single ?_ single
  cases gap with
  | false => nofun
  | true =>
      intro l listed
      obtain rfl := List.mem_singleton.mp listed
      rfl

theorem usagesIn_argument (isName : IsFunctionName name) (keeps : Fence.ofArgument.Keeps text) :
    usagesIn (name ++ '(' :: (text ++ ')' :: rest)) =
      usagesIn (name ++ '(' :: (text ++ [')'])) ++ usagesIn rest := by
  have cut (rest : Text) : usagesIn (name ++ '(' :: (text ++ ')' :: rest)) =
      usageTokens (⟨.function, name ++ ['(']⟩ :: lexemes text) ++ usagesIn rest := by
    rw [usagesIn, lexemes_call isName, keeps.lexemes_append ⟨by decide, by decide⟩,
      lexemes_single (by rfl)]
    exact usageTokens_append_stop (by rfl)
  rw [cut, cut, show usagesIn [] = [] by rw [usagesIn, lexemes_nil, usageTokens], List.append_nil]

theorem usagesIn_combinator (combinator : Combinator) (first : Bool) (starts : StartsSolid text)
    (tied : first = true → combinator ≠ .descendant) :
    usagesIn (combinator.render first ++ text) = usagesIn text := by
  by_cases dangles : combinator.Dangles
  · rcases dangles with rfl | rfl
    · rfl
    · obtain rfl : first = false := Bool.eq_false_iff.mpr fun isFirst => tied isFirst rfl
      exact usagesIn_space starts.head
  · obtain ⟨sign, kind, isSign⟩ := Cursor.exists_sign dangles
    have known := isSign.kind_mem
    have notFunction : kind ≠ .function := by
      rintro rfl
      exact absurd known (by decide)
    have behind : usagesIn (sign :: ' ' :: text) = usagesIn text := by
      rw [← usagesIn_space starts.head]
      refine usagesIn_of_lexemes (l := ⟨kind, [sign]⟩) ?_ notFunction
      rw [isSign.lexemes starts, starts.space]
    rw [isSign.writes]
    cases first with
    | true => exact behind
    | false =>
        have beyond : ∀ c ∈ (sign :: ' ' :: text).head?, c ∉ blanks := by
          rintro _ ⟨⟩
          exact isSign.solid
        exact (usagesIn_space beyond).trans behind

theorem usagesIn_pseudo (form : PseudoForm) (text : Text) :
    usagesIn (form.render ++ text) = usagesIn text := by
  cases form with
  | ofClass => exact usagesIn_single rfl
  | ofElement =>
      rw [PseudoForm.render, List.cons_append, usagesIn_single rfl]
      exact usagesIn_single rfl

theorem not_callsVar_of_takesList (takesList : selectorListPseudos.contains (Text.lower name) = true) :
    Lexeme.callsVar ⟨.function, name ++ ['(']⟩ = false := by
  rw [callsVar_function, Text.sameLetters]
  refine Bool.eq_false_iff.mpr fun isVar => ?_
  rw [beq_iff_eq.mp isVar] at takesList
  exact absurd takesList (by decide)

mutual

theorem usagesIn_simple : ∀ {simple : SimpleSelector} {rest : Text}, simple.WellFormed →
    simple.EndsIn rest →
      usagesIn (simple.render ++ rest) = simple.keptTexts.flatMap usagesIn ++ usagesIn rest
  | .universal _, _, _, _ => usagesIn_single rfl
  | .element _ _, _, isName, ends =>
      usagesIn_of_lexemes (lexemes_name isName (ends rfl)) (by simp)
  | .byClass _ _, _, isName, ends =>
      (usagesIn_of_lexemes (lexemes_dot isName) (by simp)).trans
        (usagesIn_of_lexemes (lexemes_name isName (ends rfl)) (by simp))
  | .byId _ _, _, isHash, ends =>
      usagesIn_of_lexemes (lexemes_hash isHash fun c next => (ends rfl c next).1) (by simp)
  | .attribute raw _, rest, keeps, _ => by
      have written : (SimpleSelector.attribute raw .detached).render ++ rest =
          '[' :: (raw ++ (stopText false ']' ++ rest)) := by
        simp [SimpleSelector.render, stopText]
      have whole : usagesIn (raw ++ (stopText false ']' ++ rest)) = _ :=
        usagesIn_kept keeps false ']' rfl ⟨by decide, by decide⟩
      rw [SimpleSelector.keptTexts, List.flatMap_singleton, ← whole]
      exact (congrArg usagesIn written).trans (usagesIn_single rfl)
  | .pseudo form name .absent _, rest, isName, ends => by
      rw [SimpleSelector.render, List.append_assoc, usagesIn_pseudo]
      exact usagesIn_of_lexemes (lexemes_name isName (ends rfl)) (by simp)
  | .pseudo form name (.raw text) _, rest, ⟨isName, _, keeps⟩, _ => by
      have written : (SimpleSelector.pseudo form name (.raw text) .detached).render ++ rest =
          form.render ++ (name ++ '(' :: (text ++ ')' :: rest)) := by
        simp [SimpleSelector.render]
      rw [SimpleSelector.keptTexts, List.flatMap_singleton, ← usagesIn_argument isName keeps]
      exact (congrArg usagesIn written).trans (usagesIn_pseudo form _)
  | .pseudo form name (.selectors list listSpan) span, rest,
      ⟨isName, takesList, notEmpty, wellFormed⟩, _ => by
      have written : (SimpleSelector.pseudo form name (.selectors list listSpan) span).render ++ rest =
          form.render ++ (name ++ '(' :: (renderSelectors true list ++ ')' :: rest)) := by
        simp [SimpleSelector.render]
      have inside : usagesIn (renderSelectors true list ++ ')' :: rest) = _ :=
        usagesIn_selectors notEmpty wellFormed endsSelector_paren.beyond
      rw [usagesIn_single rfl] at inside
      rw [written, usagesIn_pseudo, SimpleSelector.keptTexts, ← inside, usagesIn,
        lexemes_call isName, usageTokens, if_neg (by simp [not_callsVar_of_takesList takesList])]
      rfl

theorem usagesIn_selectors : ∀ {list : List Selector} {rest : Text}, list ≠ [] →
    WellFormedSelectors list → EndsName rest →
      usagesIn (renderSelectors true list ++ rest) =
        (keptTextsOfSelectors list).flatMap usagesIn ++ usagesIn rest
  | [.mk parts span], rest, _, ⟨starts, wellFormed, _⟩, beyond => by
      rw [renderSelectors, renderSelectors, List.append_nil, if_pos rfl, List.nil_append,
        usagesIn_parts (fun _ => starts) wellFormed beyond, keptTextsOfSelectors, keptTextsOfSelectors,
        List.append_nil]
  | .mk parts span :: next :: more, rest, _, ⟨starts, wellFormed, wellFormedToo⟩, beyond => by
      have notEmpty : next :: more ≠ [] := List.cons_ne_nil next more
      have solid := startsSolid_renderSelectors notEmpty (selectorsMeet_plain_iff.mpr wellFormedToo) beyond
      have atComma : EndsName (',' :: ' ' :: (renderSelectors true (next :: more) ++ rest)) := by
        rintro _ ⟨⟩
        decide
      rw [renderSelectors_cons_cons, usagesIn_parts (fun _ => starts) wellFormed atComma,
        usagesIn_single rfl, usagesIn_space solid.head,
        usagesIn_selectors notEmpty wellFormedToo beyond, keptTextsOfSelectors, List.flatMap_append,
        List.append_assoc]

theorem usagesIn_parts : ∀ {parts : List SelectorPart} {first afterName : Bool} {rest : Text},
    (first = true → StartsSelector parts) → WellFormedParts afterName parts → EndsName rest →
      usagesIn (renderParts first parts ++ rest) =
        (keptTextsOfParts parts).flatMap usagesIn ++ usagesIn rest
  | [], _, _, _, _, _, _ => rfl
  | .mk combinator simple :: parts, first, _, rest, starts, ⟨wellFormed, _, wellFormedToo⟩, beyond => by
      have ends :=
        SimpleSelector.endsIn_renderParts (partsMeet_plain_iff.mpr wellFormedToo) beyond
      obtain ⟨l, ls, cut, kind⟩ :=
        opens_render_simple (SimpleSelector.meets_plain_iff.mpr wellFormed) ends
      rw [renderParts, List.append_assoc, List.append_assoc,
        usagesIn_combinator combinator first (startsSolid_of_simpleKind cut kind) starts,
        usagesIn_simple wellFormed ends, usagesIn_parts (show false = true → _ from nofun) wellFormedToo beyond,
        keptTextsOfParts, List.flatMap_append, List.append_assoc]

end

end Selectors

section Blocks

variable {rest name text : Text} {layout : Layout}

theorem usagesIn_separator (layout : Layout) (depth : Nat) (beyond : ∀ c ∈ rest.head?, c ∉ blanks) :
    usagesIn (layout.separator depth ++ rest) = usagesIn rest :=
  usagesIn_of_lexemes (lexemes_separator layout depth beyond) (by simp)

theorem usagesIn_entry {terms : List Term} (important : Bool) (wellFormed : WellFormedTerms terms)
    (legible : LegibleTerms terms) (clean : usedNamesOf terms = [])
    (marked : terms = [] → important = false) :
    usagesIn (entryText terms important ++ rest) = usagesIn rest := by
  have mark : usagesIn (markText important ++ rest) = usagesIn rest := by
    cases important with
    | false => exact usagesIn_single rfl
    | true =>
        rw [usagesIn, markText, if_pos rfl, lexemes_importantMark]
        repeat rw [usageTokens_cons_of_kind (by simp)]
        rfl
  have starts : StartsSolid (renderTerms false terms ++ (markText important ++ rest)) :=
    startsSolid_value important wellFormed (steadyTerms_of_legible legible) marked
  rw [entryText_append, usagesIn_single rfl, usagesIn_space starts.head,
    usagesIn_terms wellFormed legible clean (endsValue_markText important).follows, mark]

theorem usagesIn_item {item : Item} (wellFormed : item.WellFormed) (legible : LegibleTerms item.terms)
    (clean : usedNamesOf item.terms = []) (written : item.render? = some text) :
    usagesIn (text ++ rest) = usagesIn rest := by
  cases item with
  | declaration d =>
      obtain ⟨notEmpty, rfl⟩ := render?_declaration_eq_some_iff.mp written
      exact (usagesIn_of_lexemes (lexemes_declaration wellFormed.1.1) (by simp)).trans
        (usagesIn_entry d.important wellFormed.2 legible clean
          fun nothing => absurd nothing notEmpty)
  | definition d =>
      cases written
      rw [render_definition, entryText_append]
      refine (usagesIn_of_lexemes (lexemes_definitionHead wellFormed.1)
        (by cases d.form <;> simp [DefinitionForm.kind])).trans ?_
      rw [← entryText_append]
      exact usagesIn_entry false wellFormed.2 legible clean fun _ => rfl

theorem usagesIn_items (depth depthToo : Nat) : ∀ {items : List Item},
    (∀ item ∈ items, item.WellFormed) → (∀ item ∈ items, LegibleTerms item.terms) →
    (∀ item ∈ items, usedNamesOf item.terms = []) →
    usagesIn (itemsText layout depth items ++ (layout.separator depthToo ++ '\x7d' :: rest)) =
      usagesIn rest
  | [], _, _, _ =>
      (usagesIn_separator layout depthToo (by rintro _ ⟨⟩; decide)).trans (usagesIn_single rfl)
  | item :: items, wellFormed, legible, clean => by
      rw [List.forall_mem_cons] at wellFormed legible clean
      have later := usagesIn_items depth depthToo wellFormed.2 legible.2 clean.2
      cases written : item.render? with
      | none => rwa [itemsText_cons_none written]
      | some text =>
          rw [itemsText_cons_some written, List.append_assoc, List.append_assoc,
            usagesIn_separator layout depth (startsSolid_item wellFormed.1 written).head,
            usagesIn_item wellFormed.1 legible.1 clean.1 written, later]

end Blocks

section Statements

mutual

/-- The texts that are kept as written in a statement, in document order. -/
def Statement.keptTexts : Statement → List Text
  | .rule selectors _ _ => keptTextsOfSelectors selectors.selectors
  | .importing _ media _ => media.toList
  | .conditional _ condition statements _ => condition :: keptTextsOf statements
  | .atRule _ prelude (some (.raw text)) _ => [prelude, text]
  | .atRule _ prelude _ _ => [prelude]
  | .definition _ => []
  | .comment _ _ => []

def keptTextsOf : List Statement → List Text
  | [] => []
  | statement :: rest => statement.keptTexts ++ keptTextsOf rest

end

variable {rest name prelude text : Text} {gap : Bool} {stop : Char} {kind : Kind} {layout : Layout}
  {depth : Nat}

theorem usagesIn_nil : usagesIn [] = [] := by
  rw [usagesIn, lexemes_nil, usageTokens]

theorem usagesIn_keptText {fence : Fence} (kept : KeepsBehind fence text) (gap : Bool) (stop : Char)
    {kind : Kind} (single : singles.lookup stop = some kind) (delimits : Delimits stop) :
    usagesIn (keptText text ++ (stopText gap stop ++ rest)) = usagesIn text ++ usagesIn rest := by
  have whole : usagesIn (text ++ (stopText gap stop ++ rest)) = _ :=
    usagesIn_kept kept.keeps gap stop single delimits
  by_cases nothing : text = []
  · subst nothing
    exact whole
  · obtain ⟨l, ls, first, notTrivia⟩ := exists_head_of_keepsBehind kept nothing
    have starts : StartsSolid (text ++ (stopText gap stop ++ rest)) :=
      ⟨l, _, by rw [lexemes_keeps_stopText kept.keeps gap single delimits, first]; rfl, notTrivia⟩
    rw [keptText, if_neg (by simpa using nothing), List.cons_append, usagesIn_space starts.head,
      whole]

theorem usagesIn_head (isKeyword : Kind.atKeyword.Spells ('@' :: name))
    (kept : KeepsBehind .ofPrelude prelude) (gap : Bool) (isStop : Cursor.HeadStop stop kind) :
    usagesIn (headText name prelude gap stop ++ rest) = usagesIn prelude ++ usagesIn rest := by
  obtain ⟨single, delimits, _, notPart, _⟩ := isStop.facts
  rw [← usagesIn_keptText kept gap stop single delimits]
  exact usagesIn_of_lexemes (lexemes_headText isKeyword notPart) (by simp)

theorem usagesIn_keptBlock (keeps : Fence.ofBlock.Keeps text) :
    usagesIn (' ' :: (text ++ ' ' :: '\x7d' :: rest)) = usagesIn text ++ usagesIn rest := by
  obtain ⟨before, behind, blank, cut⟩ := exists_lexemes_keptBlock keeps rest
  have trivia : ∀ l ∈ before ++ behind, l.isTrivia = true := by
    intro l listed
    have isBlank := (blank l listed).1
    rw [Lexeme.isBlank, decide_eq_true_eq] at isBlank
    rw [Lexeme.isTrivia, isBlank]
    rfl
  rw [List.forall_mem_append] at trivia
  rw [usagesIn, cut, usageTokens_of_trivia trivia.1]
  exact usageTokens_append_single trivia.2 (by rfl)

theorem usagesIn_importing {target : Text} {media : Option Text} {span : Span}
    (wellFormed : ∀ text ∈ media, text ≠ [] ∧ KeepsBehind .ofMedia text)
    (legible : Kind.string.Spells ('"' :: (target ++ ['"']))) :
    usagesIn ((Statement.importing target media span).render layout depth ++ rest) =
      media.toList.flatMap usagesIn ++ usagesIn rest := by
  rw [Statement.render_importing]
  refine (usagesIn_of_lexemes (lexemes_atKeyword (spells_of_accepts (by rfl))
    (by rintro _ ⟨⟩; decide)) (by simp)).trans ?_
  rw [usagesIn_space (by rintro _ ⟨⟩; decide)]
  refine (usagesIn_of_lexemes (lexemes_string legible) (by simp)).trans ?_
  cases media with
  | none => exact usagesIn_single rfl
  | some text =>
      obtain ⟨notEmpty, kept⟩ := wellFormed text rfl
      have written : keptText text = ' ' :: text := if_neg (by simpa using notEmpty)
      rw [Option.elim_some, ← written, usagesIn_keptText kept false ';' rfl ⟨by decide, by decide⟩]
      simp

theorem usagesIn_rule {list : SelectorList} {block : Block} {span : Span}
    (isList : list.WellFormed) (isBlock : block.WellFormed) (legible : block.Legible)
    (clean : ∀ item ∈ block.items, usedNamesOf item.terms = []) :
    usagesIn ((Statement.rule list block span).render layout depth ++ rest) =
      (keptTextsOfSelectors list.selectors).flatMap usagesIn ++ usagesIn rest := by
  have beyond : EndsName (' ' :: '\x7b' :: (itemsText layout (depth + 1) block.items ++
      (layout.separator depth ++ '\x7d' :: rest))) := by
    rintro _ ⟨⟩
    decide
  rw [Statement.render_rule, Cursor.render_block, SelectorList.render,
    usagesIn_selectors isList.1 isList.2 beyond, usagesIn_space (by rintro _ ⟨⟩; decide),
    usagesIn_single rfl, usagesIn_items _ _ isBlock legible clean]

mutual

/-- A statement without usages is written with those that its kept texts open. -/
theorem usagesIn_statement : ∀ {statement : Statement} {depth : Nat} {rest : Text},
    statement.WellFormed → statement.Legible →
    (∀ item ∈ statement.items, usedNamesOf item.terms = []) →
    usagesIn (statement.render layout depth ++ rest) =
      statement.keptTexts.flatMap usagesIn ++ usagesIn rest
  | .rule _ _ _, _, _, wellFormed, legible, clean =>
      usagesIn_rule wellFormed.1 wellFormed.2 legible clean
  | .definition d, _, _, wellFormed, legible, clean =>
      usagesIn_item wellFormed.2.2 legible (clean (.definition d) (List.mem_singleton_self _)) rfl
  | .importing _ _ _, _, _, wellFormed, legible, _ => usagesIn_importing wellFormed legible
  | .conditional _ _ _ _, depth, rest, ⟨isKeyword, _, kept, inside⟩, legible, clean => by
      rw [Statement.render_conditional, usagesIn_head isKeyword kept true (.head _),
        usagesIn_statements inside legible clean, Statement.keptTexts, List.flatMap_cons,
        List.append_assoc]
  | .atRule _ _ none _, _, _, ⟨isKeyword, _, kept, _⟩, _, _ => by
      rw [Statement.render_atRule_none, usagesIn_head isKeyword kept false (.tail _ (.head _)),
        Statement.keptTexts, List.flatMap_singleton]
      nofun
  | .atRule _ _ (some (.declarations _)) _, _, _, ⟨isKeyword, _, kept, _, body⟩, legible, clean => by
      rw [Statement.render_atRule_declarations, usagesIn_head isKeyword kept true (.head _),
        usagesIn_items _ _ (body _ rfl).2.2 legible clean, Statement.keptTexts, List.flatMap_singleton]
      nofun
  | .atRule _ _ (some (.raw _)) _, _, _, ⟨isKeyword, _, kept, _, body⟩, _, _ => by
      rw [Statement.render_atRule_raw, usagesIn_head isKeyword kept true (.head _),
        usagesIn_keptBlock (body _ rfl).2.2, Statement.keptTexts, List.flatMap_cons,
        List.flatMap_singleton, List.append_assoc]
  | .comment _ _, _, _, wellFormed, _, _ => by
      rw [Statement.render_comment]
      exact usagesIn_of_lexemes (lexemes_comment wellFormed) (by simp)

theorem usagesIn_statements : ∀ {statements : List Statement} {depth depthToo : Nat} {rest : Text},
    WellFormedStatements statements → LegibleStatements statements →
    (∀ item ∈ itemsOf statements, usedNamesOf item.terms = []) →
    usagesIn (renderStatements layout depth statements ++
      (layout.separator depthToo ++ '\x7d' :: rest)) =
      (keptTextsOf statements).flatMap usagesIn ++ usagesIn rest
  | [], _, depthToo, _, _, _, _ =>
      (usagesIn_separator layout depthToo (by rintro _ ⟨⟩; decide)).trans (usagesIn_single rfl)
  | statement :: statements, depth, depthToo, rest, wellFormed, legible, clean => by
      have split : renderStatements layout depth (statement :: statements) =
          layout.separator depth ++ statement.render layout depth ++
            renderStatements layout depth statements := rfl
      rw [itemsOf, List.forall_mem_append] at clean
      rw [split, List.append_assoc, List.append_assoc,
        usagesIn_separator layout depth (head_render_statement wellFormed.1),
        usagesIn_statement wellFormed.1 legible.1 clean.1,
        usagesIn_statements wellFormed.2 legible.2 clean.2, keptTextsOf, List.flatMap_append,
        List.append_assoc]

end

theorem usagesIn_lines (layout : Layout) : ∀ {statements : List Statement},
    WellFormedStatements statements → LegibleStatements statements →
    (∀ item ∈ itemsOf statements, usedNamesOf item.terms = []) →
    usagesIn (statements.flatMap fun statement => '\n' :: statement.render layout 0) =
      (keptTextsOf statements).flatMap usagesIn
  | [], _, _, _ => usagesIn_nil
  | statement :: statements, wellFormed, legible, clean => by
      rw [itemsOf, List.forall_mem_append] at clean
      rw [List.flatMap_cons, List.cons_append, ← List.singleton_append,
        show ['\n'] = Layout.lines.separator 0 from rfl,
        usagesIn_separator .lines 0 (head_render_statement wellFormed.1),
        usagesIn_statement wellFormed.1 legible.1 clean.1,
        usagesIn_lines layout wellFormed.2 legible.2 clean.2, keptTextsOf, List.flatMap_append]

/-- A tree without usages is written with those that its kept texts open. -/
theorem Stylesheet.usagesIn_render {sheet : Stylesheet}
    (wellFormed : WellFormedStatements sheet.statements)
    (legible : LegibleStatements sheet.statements)
    (clean : ∀ item ∈ sheet.items, usedNamesOf item.terms = []) (layout : Layout) :
    usagesIn (sheet.render layout) = (keptTextsOf sheet.statements).flatMap usagesIn := by
  obtain ⟨file, statements, span⟩ := sheet
  rw [Stylesheet.render]
  cases statements with
  | nil => exact usagesIn_nil
  | cons statement statements =>
      rw [Stylesheet.items, itemsOf, List.forall_mem_append] at clean
      rw [List.map_cons, join_cons, List.flatMap_map]
      refine (usagesIn_statement wellFormed.1 legible.1 clean.1).trans ?_
      rw [keptTextsOf, List.flatMap_append]
      exact congrArg _ (usagesIn_lines layout wellFormed.2 legible.2 clean.2)

end Statements

end ComponentStyles
