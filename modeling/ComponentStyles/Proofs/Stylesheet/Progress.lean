import ComponentStyles.Proofs.Stylesheet.Consumption
import ComponentStyles.Proofs.Stylesheet.Productions
import ComponentStyles.Proofs.Token.Placed

/-!
# The stylesheet parser makes progress

As every term and every statement reads a token, the looks at the tokens that are left never stop a
loop, and the parser does what its productions say. What a production calls starts behind one of its
tokens, or it is a production further down.
-/

namespace ComponentStyles

open Token

namespace Cursor.Production

variable {c : Cursor} {token : Token} {tail : List Token}

section Skipping

theorem value_blockRestBody (depth : Nat) (c : Cursor) :
    (blockRestBody depth c).value run = run (.blockRest depth) c := by
  unfold blockRestBody
  cases whole : c.rest with
  | nil => simp only [Calling.value, run, whole, splitBlock, goTo_nil whole]
  | cons token tail =>
      cases kind : token.kind <;> cases depth <;>
        simp only [Calling.value, run, whole, splitBlock, kind, rest_advance whole,
          goTo_advance whole, goTo_nil whole]

theorem value_rawBody (stops : List Kind) (depth : Nat) (c : Cursor) :
    (rawBody stops depth c).value run = run (.raw stops depth) c := by
  unfold rawBody
  cases whole : c.rest with
  | nil => simp only [Calling.value, run, whole, splitRaw, goTo_nil whole]
  | cons token tail =>
      simp only [run, whole, splitRaw]
      split
      · simp only [Calling.value, goTo_nil whole]
      · cases kind : token.kind <;>
          simp only [Calling.value, run, rest_advance whole, goTo_advance whole]

theorem value_declarationRestBody (depth : Nat) (c : Cursor) :
    (declarationRestBody depth c).value run = run (.declarationRest depth) c := by
  unfold declarationRestBody
  cases whole : c.rest with
  | nil =>
      have ends : c.kind = .endOfInput := by simp [Cursor.kind, current, whole]
      simp [Calling.value, run, whole, splitDeclaration, goTo_nil whole, ends]
  | cons token tail =>
      have isKind := kind_of_rest whole
      cases kind : token.kind <;> cases depth <;>
        simp [Calling.value, run, whole, splitDeclaration, kind, rest_advance whole,
          goTo_advance whole, goTo_nil whole, isKind]

theorem value_statementRestBody (c : Cursor) :
    (statementRestBody c).value run = run .statementRest c := by
  unfold statementRestBody
  cases whole : c.rest with
  | nil => simp only [Calling.value, run, skipStatement_nil whole]
  | cons token tail =>
      cases kind : token.kind <;> simp only [Calling.value, run, skipStatement_cons whole, kind]

end Skipping

section Values

theorem value_termBody (c : Cursor) : (termBody c).value run = run .term c := by
  rw [run, parseTerm]
  unfold termBody
  cases whole : c.rest with
  | nil => rfl
  | cons token tail =>
      dsimp only
      cases kind : token.kind
      case function =>
        dsimp only
        split <;> rfl
      all_goals rfl

theorem value_fallbackRestBody (c : Cursor) :
    (fallbackRestBody c).value run = run .fallbackRest c := by
  rw [run, skipFallback]
  unfold fallbackRestBody
  cases ends : c.atFallbackEnd with
  | true => rfl
  | false =>
      have inside : c.rest ≠ [] := rest_ne_nil (inside_of_not_atFallbackEnd ends)
      have shorter := (c.consumes_parseTerm.on (reads_skipTrivia _).suffix).shorter inside
      simp only [Bool.false_eq_true, if_false, Calling.value, run, shorter, dite_true]

theorem value_usageBody (start : Nat) (c : Cursor) :
    (usageBody start c).value run = run (.usage start) c := by
  unfold usageBody
  by_cases isName : c.skipTrivia.kind = .identifier
  case neg =>
    rw [run, parseUsage_unnamed isName]
    simp only [ne_eq, isName, not_false_eq_true, if_true]
    rfl
  rw [run, parseUsage_named isName]
  have behind : c.skipTrivia.advance.skipTrivia.rest <:+ c.rest :=
    ((c.reads_skipTrivia.trans (reads_advance _)).trans (reads_skipTrivia _)).suffix
  simp only [isName, ne_eq, not_true_eq_false, if_false, parseFallback]
  generalize c.skipTrivia.advance.skipTrivia = next at behind ⊢
  by_cases comma : next.kind = .comma
  case neg =>
    simp only [comma, not_false_eq_true, if_true]
    rfl
  simp only [comma, not_true_eq_false, if_false]
  split
  · rfl
  · have term := (((next.reads_advance.trans (reads_skipTrivia _)).trans (reads_parseTerm _)).trans
      (reads_skipTrivia _)).suffix
    have within : (next.advance.skipTrivia.parseTerm.2.skipTrivia.report
        (.usage .longFallback)).rest.length ≤ c.rest.length := (term.trans behind).length_le
    simp only [Calling.value, run, within, if_true]
    by_cases closes : next.advance.skipTrivia.parseTerm.2.skipTrivia.kind = .closeParen <;>
      simp only [closes, if_true, if_false, Calling.value, run]

theorem value_termsBody (c : Cursor) : (termsBody c).value run = run .terms c := by
  unfold termsBody
  cases ends : c.skipTrivia.atValueEnd with
  | true =>
      rw [run, parseTerms_end ends]
      exact congrArg (Calling.value run) (if_pos ends)
  | false =>
      have inside : c.skipTrivia.rest ≠ [] := rest_ne_nil (inside_of_not_atValueEnd ends)
      rw [run, parseTerms_more ends (c.skipTrivia.consumes_parseTerm.shorter inside)]
      simp only [ends, Bool.false_eq_true, if_false]
      rfl

theorem value_valueBody (c : Cursor) : (valueBody c).value run = run .value c := by
  rw [run, parseValue]
  rfl

end Values

section Selectors

theorem value_pseudoBody (start : Nat) (form : PseudoForm) (c : Cursor) :
    (pseudoBody start form c).value run = run (.pseudo start form) c := by
  rw [run, parsePseudo]
  unfold pseudoBody
  cases whole : c.rest with
  | nil => rfl
  | cons token tail =>
      dsimp only
      cases kind : token.kind
      case function =>
        dsimp only
        split
        · rcases parsed : c.advance.parseSelectorList .closeParen with ⟨error | list, last⟩ <;>
            simp only [Calling.value, run, parsed]
        · rfl
      all_goals rfl

theorem value_simpleBody (c : Cursor) : (simpleBody c).value run = run .simple c := by
  rw [run, parseSimple]
  unfold simpleBody
  cases whole : c.rest with
  | nil => rfl
  | cons token tail =>
      dsimp only
      cases kind : token.kind
      case dot => 
        dsimp only
        split <;> rfl
      case openBracket =>
        exact apply_ite (Calling.value run) _ _ _
      case colon =>
        dsimp only
        split <;> rfl
      all_goals rfl

theorem partsBody_of_isPartKind (close : Kind) (combinator : Combinator) (started : Bool)
    (whole : c.rest = token :: tail) (isPart : isPartKind token.kind = true) :
    partsBody close combinator started c =
      if token.kind = close ∨ token.kind = .comma then .done (.ok ([], combinator), c)
      else partBody close combinator c := by
  unfold partsBody
  rw [whole]
  dsimp only
  split
  case h_6 => simp only [Bool.or_eq_true, decide_eq_true_eq]
  all_goals simp_all [isPartKind, combinatorOf?, Kind.isTrivia]

theorem value_partsBody (close : Kind) (combinator : Combinator) (started : Bool) (c : Cursor) :
    (partsBody close combinator started c).value run = run (.parts close combinator started) c := by
  cases whole : c.rest with
  | nil =>
      rw [run, parseParts_nil close combinator started whole, partsBody, whole]
      rfl
  | cons token tail =>
      by_cases isPart : isPartKind token.kind = true
      case neg =>
        rw [run, parseParts, partsBody, whole]
        dsimp only
        cases kind : token.kind <;> rw [kind] at isPart <;> first | rfl | exact absurd rfl isPart
      rw [partsBody_of_isPartKind close combinator started whole isPart, run]
      split
      case isTrue ends =>
        rw [parseParts_end close combinator started whole isPart ends]
        rfl
      case isFalse inside =>
        rw [parseParts_part close combinator started whole isPart inside, partBody]
        rcases parsed : c.parseSimple with ⟨error | simple, next⟩
        · simp only [Calling.value, run, parsed]
        · have consumes : c.Consumes next := by
            simpa only [parsed] using consumes_parseSimple (congrArg Prod.fst parsed)
          have shorter := consumes.shorter (by simp [whole])
          simp only [Calling.value, run, parsed, shorter, if_true]
          rcases next.parseParts close .same true with ⟨error | parts, last⟩ <;> rfl

theorem value_selectorBody (close : Kind) (c : Cursor) :
    (selectorBody close c).value run = run (.selector close) c := by
  rw [run, parseSelector]
  simp only [selectorBody, Calling.value, run]
  rcases c.parseParts close .same false with ⟨error | ⟨parts, dangling⟩, last⟩
  · rfl
  · dsimp only
    split
    · rfl
    split <;> rfl

theorem value_selectorsBody (close : Kind) (c : Cursor) :
    (selectorsBody close c).value run = run (.selectors close) c := by
  have suffix := (passes_parseSelector .blind close c).suffix
  rw [run, parseSelectors]
  rcases parsed : c.parseSelector close with ⟨error | selector, last⟩
  · simp only [selectorsBody, Calling.value, run, parsed]
  rw [parsed] at suffix
  simp only [selectorsBody, Calling.value, run, parsed]
  split
  case isFalse => rfl
  case isTrue comma =>
    have more : last.Consumes last.advance.skipTrivia := (reads_skipTrivia _).suffix
    have shorter := (more.shorter (rest_ne_nil (comma ▸ by decide))).trans_le suffix.length_le
    simp only [shorter, dite_true, Calling.value, run]
    rcases last.advance.skipTrivia.parseSelectors close with ⟨error | selectors, last⟩ <;> rfl

theorem value_selectorListBody (close : Kind) (c : Cursor) :
    (selectorListBody close c).value run = run (.selectorList close) c := by
  rw [run, parseSelectorList]
  simp only [selectorListBody, Calling.value, run]
  rcases c.skipTrivia.parseSelectors close with ⟨error | selectors, last⟩ <;> rfl

end Selectors

section Blocks

theorem value_assignmentBody (c : Cursor) :
    (assignmentBody c).value run = run .assignment c := by
  unfold assignmentBody
  by_cases colon : c.advance.skipTrivia.kind = .colon
  case neg =>
    rw [run, parseAssignment]
    simp only [colon, if_false]
    rfl
  rw [run, parseAssignment_colon colon]
  rcases parsed : c.advance.skipTrivia.advance.parseValue with ⟨value, next⟩
  simp only [colon, if_true, Calling.value, run, parsed, parseMark]
  rcases if next.kind = .bang then next.parseImportant else (false, next) with ⟨important, last⟩
  rw [finishDeclaration]
  dsimp only
  cases kind : last.kind <;> rfl

theorem value_itemBody (c : Cursor) : (itemBody c).value run = run .item c := by
  unfold itemBody
  rw [run, parseItem]
  dsimp only
  split <;> rfl

theorem value_itemsBody (c : Cursor) : (itemsBody c).value run = run .items c := by
  have more (inside : c.kind ≠ .endOfInput) {items : List Item} {next : Cursor}
      (step : c.blockStep = some (items, next)) :
      run .items c = (items ++ (run .items next).1, (run .items next).2) :=
    repeatedly_more step ((consumes_blockStep step).shorter (rest_ne_nil inside))
  unfold itemsBody
  cases kind : c.kind
  case closeBrace => exact (repeatedly_done (by rw [blockStep, kind])).symm
  case endOfInput => exact (repeatedly_done (by rw [blockStep, kind])).symm
  case atKeyword =>
    dsimp only
    split
    case isTrue colon =>
      exact (more (kind ▸ by decide) (by rw [blockStep, kind]; exact if_pos colon)).symm
    case isFalse noColon =>
      exact (more (kind ▸ by decide) (by rw [blockStep, kind]; exact if_neg noColon)).symm
  all_goals
    refine (more (kind ▸ by decide) ?_).symm
    rw [blockStep, kind] <;> rfl

end Blocks

section Statements

theorem value_importingBody (start : Nat) (c : Cursor) :
    (importingBody start c).value run = run (.importing start) c := by
  unfold importingBody
  rw [run, parseImport]
  dsimp only
  cases kind : c.skipTrivia.kind <;> rfl

theorem value_ruleBody (c : Cursor) : (ruleBody c).value run = run .rule c := by
  rw [run, parseRule, ruleBody]
  rcases parsed : c.parseSelectorList .openBrace with ⟨error | selectors, last⟩ <;>
    simp only [Calling.value, run, parsed]
  split <;> rfl

theorem value_atRuleBody (c : Cursor) : (atRuleBody c).value run = run .atRule c := by
  unfold atRuleBody
  dsimp only
  rw [run]
  by_cases isDefinition : c.AtDefinition
  · rw [parseAtRule_definition isDefinition,
      if_pos (by simpa [AtDefinition, atName] using isDefinition)]
    rfl
  rw [if_neg (by simpa [AtDefinition, atName] using isDefinition)]
  by_cases isImport : Text.lower (c.current.text.drop 1) = "import".toList
  · rw [parseAtRule_import isImport, if_pos isImport]
    rfl
  rw [parseAtRule_eq isDefinition isImport, if_neg isImport]
  have prelude := c.consumes_prelude
  have behind : (run (.raw [.openBrace, .semicolon, .closeBrace] 0) c.advance.skipTrivia).2 =
      c.prelude.2 := rfl
  simp only [Calling.value, behind]
  cases kind : c.prelude.2.kind
  case openBrace =>
    have shorter := (consumes_advance c.prelude.2).shorter (rest_ne_nil (kind ▸ by decide))
    simp only [shorter.trans_le prelude.suffix.length_le, if_true, atName]
    split
    · rfl
    by_cases holds : declarationNames.contains (Text.lower (c.current.text.drop 1)) = true <;>
      simp only [holds, if_true, Bool.false_eq_true, if_false] <;> rfl
  all_goals rfl

theorem value_statementsBody (nested : Bool) (c : Cursor) :
    (statementsBody nested c).value run = run (.statements nested) c := by
  unfold statementsBody
  by_cases ends : c.kind = .endOfInput
  · rw [run, parseStatements_end ends, ends]
    rfl
  by_cases closes : nested = true ∧ c.kind = .closeBrace
  · obtain ⟨rfl, closes⟩ := closes
    rw [run, parseStatements_close closes, closes]
    rfl
  rw [run, parseStatements_more ends (not_and.mp closes)
    ((consumes_parseStatement ends).shorter (rest_ne_nil ends)), parseStatement]
  cases kind : c.kind
  case closeBrace =>
    have outer : nested = false := by simpa [kind] using closes
    subst outer
    rfl
  case endOfInput => exact absurd kind ends
  all_goals rfl

end Statements

section Calls

open Routines

variable {caller callee : Production} {next : Cursor}

theorem below_of_consumes (consumes : c.Consumes next) (inside : c.rest ≠ []) :
    Below Cursor.rest Production.ctorIdx (caller, c) (callee, next) :=
  .shorter consumes.suffix (consumes.shorter inside)

/-- The calls of a body go on with what its production has, or with less of it. -/
abbrev Descends {Value : Type} (caller : Production) (c : Cursor) (steps : Steps Value) : Prop :=
  steps.All run fun callee next => Below Cursor.rest Production.ctorIdx (caller, c) (callee, next)

theorem below_advance (whole : c.rest = token :: tail) :
    Below Cursor.rest Production.ctorIdx (caller, c) (callee, c.advance) :=
  below_of_consumes c.consumes_advance (by simp [whole])

theorem descends_blockRestBody (depth : Nat) (c : Cursor) :
    Descends (.blockRest depth) c (blockRestBody depth c) := by
  unfold blockRestBody
  split
  case h_1 => trivial
  case h_2 whole =>
    dsimp only
    split
    case h_2 => trivial
    all_goals exact ⟨below_advance whole, trivial⟩

theorem descends_rawBody (stops : List Kind) (depth : Nat) (c : Cursor) :
    Descends (.raw stops depth) c (rawBody stops depth c) := by
  unfold rawBody
  split
  case h_1 => trivial
  case h_2 whole =>
    split
    · trivial
    · exact ⟨below_advance whole, trivial⟩

theorem descends_declarationRestBody (depth : Nat) (c : Cursor) :
    Descends (.declarationRest depth) c (declarationRestBody depth c) := by
  unfold declarationRestBody
  split
  case h_1 => trivial
  case h_2 whole =>
    dsimp only
    split
    case h_2 => trivial
    case h_3 => trivial
    all_goals exact ⟨below_advance whole, trivial⟩

theorem descends_statementRestBody (c : Cursor) :
    Descends .statementRest c (statementRestBody c) := by
  unfold statementRestBody
  split
  case h_1 => trivial
  case h_2 whole =>
    split
    case h_1 => trivial
    case h_2 => trivial
    case h_3 => exact ⟨.lower (List.suffix_refl _) rfl, trivial⟩
    case h_4 => exact ⟨below_advance whole, trivial⟩

theorem descends_termBody (c : Cursor) : Descends .term c (termBody c) := by
  unfold termBody
  split
  case h_1 => trivial
  case h_2 whole =>
    split
    case h_4 =>
      split
      · exact ⟨below_advance whole, trivial⟩
      · exact ⟨below_advance whole, trivial⟩
    case h_5 => exact ⟨below_advance whole, trivial⟩
    all_goals trivial

theorem descends_fallbackRestBody (c : Cursor) :
    Descends .fallbackRest c (fallbackRestBody c) := by
  unfold fallbackRestBody
  split
  case isTrue => trivial
  case isFalse inside =>
    have inside := rest_ne_nil (inside_of_not_atFallbackEnd (Bool.eq_false_iff.mpr inside))
    exact ⟨.lower (List.suffix_refl _) rfl,
      below_of_consumes (c.consumes_parseTerm.on (reads_skipTrivia _).suffix) inside, trivial⟩

theorem descends_usageBody (start : Nat) (c : Cursor) :
    Descends (.usage start) c (usageBody start c) := by
  unfold usageBody
  have behind := (c.reads_skipTrivia.trans (reads_advance _)).trans (reads_skipTrivia _)
  have body := (behind.trans (reads_advance _)).trans (reads_skipTrivia _)
  have failed := (body.trans (reads_parseTerm _)).trans (reads_skipTrivia _)
  dsimp only
  split
  · exact ⟨.lower c.reads_skipTrivia.suffix rfl, trivial⟩
  split
  · trivial
  split
  · trivial
  refine ⟨.lower body.suffix rfl, ?_⟩
  dsimp only
  split
  · trivial
  · exact ⟨.lower failed.suffix rfl, trivial⟩

theorem descends_termsBody (c : Cursor) : Descends .terms c (termsBody c) := by
  unfold termsBody
  dsimp only
  split
  case isTrue => trivial
  case isFalse inside =>
    have inside := rest_ne_nil (inside_of_not_atValueEnd (Bool.eq_false_iff.mpr inside))
    have trivia := c.reads_skipTrivia.suffix
    have term := c.skipTrivia.consumes_parseTerm.earlier trivia
    exact ⟨.lower trivia rfl, below_of_consumes term (trivia.ne_nil inside), trivial⟩

theorem descends_pseudoBody (start : Nat) (form : PseudoForm) (c : Cursor) :
    Descends (.pseudo start form) c (pseudoBody start form c) := by
  unfold pseudoBody
  split
  case h_1 => trivial
  case h_2 whole =>
    dsimp only
    split
    case h_2 =>
      split
      · refine ⟨below_advance whole, ?_⟩
        dsimp only
        split <;> trivial
      · exact ⟨below_advance whole, trivial⟩
    all_goals trivial

theorem descends_simpleBody (c : Cursor) : Descends .simple c (simpleBody c) := by
  unfold simpleBody
  split
  case h_1 => trivial
  case h_2 whole =>
    dsimp only
    split
    case h_4 => split <;> trivial
    case h_5 =>
      refine ⟨below_advance whole, ?_⟩
      dsimp only
      split <;> trivial
    case h_6 =>
      split
      · exact ⟨.lower ((reads_advance _).suffix.trans c.reads_advance.suffix) rfl, trivial⟩
      · exact ⟨below_advance whole, trivial⟩
    all_goals trivial

theorem descends_partBody {combinator : Combinator} {started : Bool} (close : Kind)
    (inside : c.rest ≠ []) :
    Descends (.parts close combinator started) c (partBody close combinator c) := by
  refine ⟨.lower (List.suffix_refl _) rfl, ?_⟩
  rcases parsed : c.parseSimple with ⟨error | simple, next⟩
  · simp only [run, parsed]
    trivial
  · have consumes : c.Consumes next := by
      simpa only [parsed] using consumes_parseSimple (congrArg Prod.fst parsed)
    simp only [run, parsed]
    refine ⟨below_of_consumes consumes inside, ?_⟩
    dsimp only
    split <;> trivial

theorem descends_partsBody (close : Kind) (combinator : Combinator) (started : Bool) (c : Cursor) :
    Descends (.parts close combinator started) c (partsBody close combinator started c) := by
  unfold partsBody
  dsimp only
  split
  case h_1 => trivial
  case h_2 whole =>
    split
    case h_6 =>
      split
      · trivial
      · exact descends_partBody close (by simp [whole])
    all_goals exact ⟨below_advance whole, trivial⟩

theorem descends_selectorBody (close : Kind) (c : Cursor) :
    Descends (.selector close) c (selectorBody close c) := by
  refine ⟨.lower (List.suffix_refl _) rfl, ?_⟩
  dsimp only
  split
  · trivial
  split
  · trivial
  split <;> trivial

theorem descends_selectorsBody (close : Kind) (c : Cursor) :
    Descends (.selectors close) c (selectorsBody close c) := by
  have suffix := (passes_parseSelector .blind close c).suffix
  refine ⟨.lower (List.suffix_refl _) rfl, ?_⟩
  dsimp only
  split
  · trivial
  split
  case isFalse => trivial
  case isTrue comma =>
    have more : (c.parseSelector close).2.Consumes (c.parseSelector close).2.advance.skipTrivia :=
      (reads_skipTrivia _).suffix
    have inside := suffix.ne_nil (rest_ne_nil (comma ▸ by decide))
    refine ⟨below_of_consumes (more.earlier suffix) inside, ?_⟩
    dsimp only
    split <;> trivial

theorem descends_selectorListBody (close : Kind) (c : Cursor) :
    Descends (.selectorList close) c (selectorListBody close c) := by
  refine ⟨.lower c.reads_skipTrivia.suffix rfl, ?_⟩
  dsimp only
  split <;> trivial

theorem descends_assignmentBody (c : Cursor) : Descends .assignment c (assignmentBody c) := by
  unfold assignmentBody
  have name := c.reads_advance.trans (reads_skipTrivia _)
  dsimp only
  split
  case isFalse =>
    exact ⟨.lower (name.trans (reads_expect _ .colon)).suffix rfl, trivial⟩
  case isTrue =>
    have value := name.trans (reads_advance _)
    have mark := ((value.trans (reads_parseValue _)).trans (reads_parseMark _)).suffix
    refine ⟨.lower value.suffix rfl, ?_⟩
    rw [parseMark] at mark
    simp only [run]
    split
    · trivial
    · trivial
    · trivial
    · exact ⟨.lower mark rfl, trivial⟩

theorem descends_itemBody (c : Cursor) : Descends .item c (itemBody c) := by
  unfold itemBody
  dsimp only
  split
  · exact ⟨.lower (List.suffix_refl _) rfl, trivial⟩
  · exact ⟨.lower (List.suffix_refl _) rfl, trivial⟩

theorem descends_itemsBody (c : Cursor) : Descends .items c (itemsBody c) := by
  unfold itemsBody
  dsimp only
  by_cases ends : c.kind = .endOfInput
  · rw [ends]
    trivial
  have inside := rest_ne_nil ends
  have skipped : c.Consumes ((c.unexpected .declaration).advance.skipDeclaration) :=
    (c.unexpected .declaration).consumes_advance.on (reads_skipDeclaration _).suffix
  split
  case h_4 => trivial
  case h_5 => trivial
  case h_6 =>
    exact ⟨.lower (List.suffix_refl _) rfl, below_of_consumes c.consumes_parseItem inside,
      trivial⟩
  case h_7 =>
    split
    · exact ⟨.lower (List.suffix_refl _) rfl,
        below_of_consumes c.consumes_parseAssignment inside, trivial⟩
    · exact ⟨.lower c.reads_advance.suffix rfl, below_of_consumes skipped inside, trivial⟩
  case h_8 =>
    exact ⟨.lower c.reads_advance.suffix rfl, below_of_consumes skipped inside, trivial⟩
  all_goals exact ⟨below_of_consumes c.consumes_advance inside, trivial⟩

theorem descends_importingBody (start : Nat) (c : Cursor) :
    Descends (.importing start) c (importingBody start c) := by
  unfold importingBody
  have target := (c.reads_skipTrivia.trans (reads_advance _)).trans (reads_skipTrivia _)
  dsimp only
  split
  · exact ⟨.lower target.suffix rfl, trivial⟩
  · exact ⟨.lower target.suffix rfl, trivial⟩
  · exact ⟨.lower c.reads_skipTrivia.suffix rfl, trivial⟩

theorem descends_ruleBody (c : Cursor) : Descends .rule c (ruleBody c) := by
  have suffix := (reads_parseSelectorList .openBrace c).suffix
  refine ⟨.lower (List.suffix_refl _) rfl, ?_⟩
  dsimp only
  split
  · exact ⟨.lower suffix rfl, trivial⟩
  split
  · exact ⟨.lower suffix rfl, trivial⟩
  · exact ⟨.lower ((reads_expect _ .openBrace).suffix.trans suffix) rfl, trivial⟩

theorem descends_atRuleBody (c : Cursor) : Descends .atRule c (atRuleBody c) := by
  unfold atRuleBody
  have prelude := c.consumes_prelude
  dsimp only
  split
  · exact ⟨.lower (List.suffix_refl _) rfl, trivial⟩
  split
  · exact ⟨.lower c.reads_advance.suffix rfl, trivial⟩
  refine ⟨.lower (c.reads_advance.trans (reads_skipTrivia _)).suffix rfl, ?_⟩
  dsimp only
  split
  case h_1 => trivial
  case h_3 => trivial
  case h_2 opens =>
    split
    · have inside := prelude.suffix.ne_nil (rest_ne_nil (opens ▸ by decide))
      exact ⟨below_of_consumes (prelude.on (reads_advance _).suffix) inside, trivial⟩
    split
    · exact ⟨.lower prelude.suffix rfl, trivial⟩
    · exact ⟨.lower prelude.suffix rfl, trivial⟩

theorem descends_statementsBody (nested : Bool) (c : Cursor) :
    Descends (.statements nested) c (statementsBody nested c) := by
  unfold statementsBody
  dsimp only
  by_cases ends : c.kind = .endOfInput
  · rw [ends]
    trivial
  have inside := rest_ne_nil ends
  split
  case h_4 => trivial
  case h_5 =>
    split
    · trivial
    · exact ⟨below_of_consumes (c.unexpected .statement).consumes_advance inside, trivial⟩
  case h_6 =>
    exact ⟨.lower (List.suffix_refl _) rfl,
      below_of_consumes c.consumes_parseAtRule inside, trivial⟩
  case h_7 unclosed _ =>
    exact ⟨.lower (List.suffix_refl _) rfl,
      below_of_consumes (consumes_parseRule ends unclosed) inside, trivial⟩
  all_goals exact ⟨below_of_consumes c.consumes_advance inside, trivial⟩

end Calls

theorem value_body (production : Production) (c : Cursor) :
    (production.body c).value run = production.run c := by
  cases production with
  | blockRest depth => exact value_blockRestBody depth c
  | rawBlock => rfl
  | raw stops depth => exact value_rawBody stops depth c
  | declarationRest depth => exact value_declarationRestBody depth c
  | statementRest => exact value_statementRestBody c
  | term => exact value_termBody c
  | fallbackRest => exact value_fallbackRestBody c
  | usage start => exact value_usageBody start c
  | terms => exact value_termsBody c
  | value => exact value_valueBody c
  | pseudo start form => exact value_pseudoBody start form c
  | simple => exact value_simpleBody c
  | parts close combinator started => exact value_partsBody close combinator started c
  | selector close => exact value_selectorBody close c
  | selectors close => exact value_selectorsBody close c
  | selectorList close => exact value_selectorListBody close c
  | assignment => exact value_assignmentBody c
  | definition form => rfl
  | item => exact value_itemBody c
  | items => exact value_itemsBody c
  | block => rfl
  | importing start => exact value_importingBody start c
  | rule => exact value_ruleBody c
  | atRule => exact value_atRuleBody c
  | statements nested => exact value_statementsBody nested c

theorem descends_body (production : Production) (c : Cursor) :
    Descends production c (production.body c) := by
  cases production with
  | blockRest depth => exact descends_blockRestBody depth c
  | rawBlock => exact ⟨.lower c.reads_advance.suffix rfl, trivial⟩
  | raw stops depth => exact descends_rawBody stops depth c
  | declarationRest depth => exact descends_declarationRestBody depth c
  | statementRest => exact descends_statementRestBody c
  | term => exact descends_termBody c
  | fallbackRest => exact descends_fallbackRestBody c
  | usage start => exact descends_usageBody start c
  | terms => exact descends_termsBody c
  | value => exact ⟨.lower c.reads_skipTrivia.suffix rfl, trivial⟩
  | pseudo start form => exact descends_pseudoBody start form c
  | simple => exact descends_simpleBody c
  | parts close combinator started => exact descends_partsBody close combinator started c
  | selector close => exact descends_selectorBody close c
  | selectors close => exact descends_selectorsBody close c
  | selectorList close => exact descends_selectorListBody close c
  | assignment => exact descends_assignmentBody c
  | definition form => exact ⟨.lower (List.suffix_refl _) rfl, trivial⟩
  | item => exact descends_itemBody c
  | items => exact descends_itemsBody c
  | block => exact ⟨.lower c.reads_advance.suffix rfl, trivial⟩
  | importing start => exact descends_importingBody start c
  | rule => exact descends_ruleBody c
  | atRule => exact descends_atRuleBody c
  | statements nested => exact descends_statementsBody nested c

end Cursor.Production

namespace Cursor

/-- The productions of the parser, with what they call. -/
def parsing : Routines Production Cursor :=
  ⟨Production.Result, Production.body, Production.run, Production.value_body⟩

theorem makesProgress_parsing : parsing.MakesProgress rest Production.ctorIdx :=
  Routines.makesProgress fun {caller callee} calls =>
    Calling.all_iff.mp (Production.descends_body caller.1 caller.2) callee calls

/-- Statements outside of blocks are read up to the end of the input. -/
theorem kind_parseStatements (c : Cursor) : (c.parseStatements false).2.kind = .endOfInput := by
  by_cases ends : c.kind = .endOfInput
  · rwa [parseStatements_end ends]
  have shorter := (consumes_parseStatement ends).shorter (rest_ne_nil ends)
  rw [parseStatements_more ends (fun nested => absurd nested Bool.false_ne_true) shorter]
  exact kind_parseStatements _
termination_by c.rest.length

theorem rest_parseStatements (offset : Nat) (text : Text) :
    ((start offset text (ofText offset text)).parseStatements false).2.rest = [] := by
  have suffix := (reads_parseStatements false (start offset text (ofText offset text))).suffix
  have ends := kind_parseStatements (start offset text (ofText offset text))
  generalize ((start offset text (ofText offset text)).parseStatements false).2 = last at suffix ends
  cases whole : last.rest with
  | nil => rfl
  | cons token tail =>
      rw [kind_of_rest whole] at ends
      have listed : token ∈ ofText offset text := suffix.subset (whole ▸ List.mem_cons_self)
      exact absurd ends (spells_of_mem_ofText listed).ne_endOfInput

end Cursor

end ComponentStyles
