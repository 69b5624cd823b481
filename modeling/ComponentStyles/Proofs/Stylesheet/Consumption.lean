import ComponentStyles.Proofs.Stylesheet.Reread.Block

/-!
# What the stylesheet parser reads

Every term and every statement reads a token, whatever went wrong with it: where a selector fails at
its first token, it is the skipping behind it that reads this token.
-/

namespace ComponentStyles

open Token

namespace Cursor

variable {c next last : Cursor} {token : Token} {tail : List Token}

section Moving

theorem goTo_nil {rest : List Token} (here : c.rest = rest) : c.goTo [] rest = c := by
  rw [← here]
  rfl

theorem goTo_goTo (taken others between rest : List Token) :
    (c.goTo taken between).goTo others rest = c.goTo (taken ++ others) rest := by
  simp only [goTo, List.filter_append, List.getLast?_append, Option.map_or, Option.getD_or]

theorem goTo_advance (whole : c.rest = token :: tail) (taken rest : List Token) :
    c.advance.goTo taken rest = c.goTo (token :: taken) rest := by
  rw [advance, whole, goTo_goTo]
  rfl

end Moving

section Consuming

/-- A step goes on behind the next token or later. -/
def Consumes (c next : Cursor) : Prop :=
  next.rest <:+ c.advance.rest

theorem consumes_advance (c : Cursor) : c.Consumes c.advance :=
  List.suffix_refl _

theorem Consumes.on (consumes : c.Consumes next) (suffix : last.rest <:+ next.rest) :
    c.Consumes last :=
  suffix.trans consumes

theorem Consumes.suffix (consumes : c.Consumes next) : next.rest <:+ c.rest :=
  consumes.trans (List.drop_suffix 1 c.rest)

theorem Consumes.shorter (consumes : c.Consumes next) (inside : c.rest ≠ []) :
    next.rest.length < c.rest.length := by
  have notLonger := consumes.length_le
  have := List.length_pos_iff.mpr inside
  rw [length_advance] at notLonger
  omega

/-- What does not stay where it is goes on behind the next token. -/
theorem consumes_of_ne (suffix : next.rest <:+ c.rest) (moved : next.rest ≠ c.rest) :
    c.Consumes next := by
  cases whole : c.rest with
  | nil =>
      rw [whole, List.suffix_nil] at suffix
      exact absurd (suffix.trans whole.symm) moved
  | cons token tail =>
      rw [Consumes, rest_advance whole]
      rw [whole] at suffix moved
      exact (List.suffix_cons_iff.mp suffix).resolve_left moved

theorem Consumes.earlier (consumes : next.Consumes last) (suffix : next.rest <:+ c.rest) :
    c.Consumes last := by
  by_cases same : next.rest = c.rest
  · rwa [Consumes, show c.advance.rest = next.advance.rest from congrArg (List.drop 1) same.symm]
  · exact (consumes_of_ne suffix same).on consumes.suffix

theorem rest_ne_nil (inside : c.kind ≠ .endOfInput) : c.rest ≠ [] := by
  obtain ⟨token, tail, whole⟩ := exists_rest_of_kind inside
  simp [whole]

theorem inside_of_not_atValueEnd (inside : c.atValueEnd = false) : c.kind ≠ .endOfInput := by
  intro ends
  rw [atValueEnd, ends] at inside
  cases inside

theorem inside_of_not_atFallbackEnd (inside : c.atFallbackEnd = false) : c.kind ≠ .endOfInput := by
  intro ends
  rw [atFallbackEnd, ends] at inside
  cases inside

theorem consumes_parseTerm (c : Cursor) : c.Consumes c.parseTerm.2 := by
  cases whole : c.rest with
  | nil =>
      rw [parseTerm_nil whole, Consumes, whole]
      exact List.nil_suffix
  | cons token tail =>
      have value := ((reads_parseValue c.advance).trans (reads_expect _ .closeParen)).suffix
      refine parseTerm_cases whole ?single ?comma ?slash ?url ?usage ?call ?paren ?refused
      case single | comma | slash | url => exact fun _ => c.consumes_advance
      case usage => exact fun _ _ _ => (reads_parseUsage _ _).suffix
      case call => exact fun _ _ => value
      case paren => exact fun _ => value
      case refused => exact fun _ => (c.unexpected .value).consumes_advance

/-- A simple selector that is read has a token of its own. -/
theorem consumes_parseSimple : ∀ {simple : SimpleSelector}, c.parseSimple.1 = .ok simple →
    c.Consumes c.parseSimple.2 := by
  cases whole : c.rest with
  | nil =>
      rw [parseSimple_nil whole]
      nofun
  | cons token tail =>
      have text := (readRaw_moves (by decide : Kind.whitespace ∉ [Kind.closeBracket, .openBrace])
        c.advance).1
      refine parseSimple_cases whole ?star ?element ?byId ?byClass ?unnamed ?closed ?unclosed
        ?ofElement ?ofClass ?other
      case star | element | byId => exact fun _ _ _ => c.consumes_advance
      case byClass => exact fun _ _ _ _ => c.consumes_advance.on (reads_advance _).suffix
      case unnamed => exact fun _ _ _ _ => c.consumes_advance
      case closed => exact fun _ _ _ _ => c.consumes_advance.on ((reads_advance _).suffix.trans text)
      case unclosed => exact fun _ _ _ _ => text
      case ofElement =>
        exact fun _ _ _ _ => (c.consumes_advance.on (reads_advance _).suffix).on
          (passes_parsePseudo .blind _ _ _).suffix
      case ofClass => exact fun _ _ _ _ => (passes_parsePseudo .blind _ _ _).suffix
      case other => exact fun _ => nofun

theorem consumes_readBlock (c : Cursor) : c.Consumes c.readBlock.2 := by
  have cut := Fence.ofBlock.split_append 0 c.advance.rest
  simp only [readBlock, Fence.splitBlock_eq]
  have inside : c.Consumes (c.advance.goTo (Fence.ofBlock.split 0 c.advance.rest).1
      (Fence.ofBlock.split 0 c.advance.rest).2) := ⟨_, cut⟩
  split
  · exact inside
  · exact inside.on (reads_advance _).suffix

theorem skipStatement_nil (nothing : c.rest = []) : c.skipStatement = c := by
  have ends : c.kind = .endOfInput := by simp [kind, current, nothing]
  simp [skipStatement, nothing, goTo_nil nothing, ends]

theorem skipStatement_cons (whole : c.rest = token :: tail) :
    c.skipStatement =
      match token.kind with
      | .closeBrace => c
      | .semicolon => c.advance
      | .openBrace => c.readBlock.2
      | _ => c.advance.skipStatement := by
  have here := kind_of_rest whole
  cases kind : token.kind <;>
    simp [skipStatement, whole, kind, here, rest_advance whole, goTo_advance whole, goTo_nil whole]

/-- What is skipped has a token, unless it starts at the end of a block or of the text. -/
theorem consumes_skipStatement (inside : c.kind ≠ .endOfInput) (unclosed : c.kind ≠ .closeBrace) :
    c.Consumes c.skipStatement := by
  obtain ⟨token, tail, whole⟩ := exists_rest_of_kind inside
  rw [kind_of_rest whole] at unclosed
  rw [skipStatement_cons whole]
  split
  case h_1 closes => exact absurd closes unclosed
  case h_2 => exact c.consumes_advance
  case h_3 => exact c.consumes_readBlock
  case h_4 => exact (reads_skipStatement _).suffix

/-- Wherever a statement failed, what is skipped behind it has its first token. -/
theorem consumes_skipStatement_of_suffix (inside : c.kind ≠ .endOfInput)
    (unclosed : c.kind ≠ .closeBrace) (suffix : next.rest <:+ c.rest) :
    c.Consumes next.skipStatement := by
  by_cases same : next.rest = c.rest
  · have here := kind_congr same.symm inside
    exact (consumes_skipStatement (here ▸ inside) (here ▸ unclosed)).earlier suffix
  · exact (consumes_of_ne suffix same).on (reads_skipStatement _).suffix

theorem consumes_parseBlock (c : Cursor) : c.Consumes c.parseBlock.2 :=
  ((reads_repeatedly reads_blockStep c.advance).trans (reads_expect _ .closeBrace)).suffix

theorem consumes_parseAssignment (c : Cursor) : c.Consumes c.parseAssignment.2 := by
  have name : c.Consumes c.advance.skipTrivia := (reads_skipTrivia _).suffix
  by_cases colon : c.advance.skipTrivia.kind = .colon
  · rw [parseAssignment_colon colon]
    exact name.on ((((reads_advance _).trans (reads_parseValue _)).trans (reads_parseMark _)).trans
      (reads_finishDeclaration _)).suffix
  · rw [parseAssignment, if_neg colon]
    exact name.on ((reads_expect _ .colon).trans (reads_skipDeclaration _)).suffix

theorem consumes_parseItem (c : Cursor) : c.Consumes c.parseItem.2 := by
  by_cases marked : IsMarked c.current.text
  · rw [parseItem_definition marked]
    exact c.consumes_parseAssignment
  · rw [parseItem_declaration marked]
    exact c.consumes_parseAssignment

theorem consumes_blockStep {items : List Item} (step : c.blockStep = some (items, next)) :
    c.Consumes next := by
  refine blockStep_cases step ?separator ?item ?directive ?refused
  case separator => exact fun _ => c.consumes_advance
  case item => exact fun _ => c.consumes_parseItem
  case directive => exact fun _ => c.consumes_parseAssignment
  case refused =>
    exact (c.unexpected .declaration).consumes_advance.on (reads_skipDeclaration _).suffix

theorem consumes_parseRule (inside : c.kind ≠ .endOfInput) (unclosed : c.kind ≠ .closeBrace) :
    c.Consumes c.parseRule.2 := by
  have selectors := (reads_parseSelectorList .openBrace c).suffix
  rw [parseRule]
  generalize c.parseSelectorList .openBrace = parsed at selectors ⊢
  obtain ⟨outcome, last⟩ := parsed
  cases outcome with
  | error error => exact consumes_skipStatement_of_suffix inside unclosed selectors
  | ok selectorList =>
      dsimp only
      split
      · exact (consumes_parseBlock last).earlier selectors
      · exact consumes_skipStatement_of_suffix inside unclosed
          ((reads_expect _ .openBrace).suffix.trans selectors)

theorem consumes_prelude (c : Cursor) : c.Consumes c.prelude.2 :=
  ((reads_skipTrivia _).trans (reads_readRaw (by decide) _)).suffix

theorem consumes_parseAtRule (c : Cursor) : c.Consumes c.parseAtRule.2 := by
  by_cases isDefinition : c.AtDefinition
  · rw [parseAtRule_definition isDefinition]
    exact c.consumes_parseAssignment
  by_cases isImport : Text.lower c.atName = "import".toList
  · rw [parseAtRule_import isImport]
    exact (reads_parseImport _ _).suffix
  have prelude := c.consumes_prelude
  refine parseAtRule_prelude_cases isDefinition isImport ?semicolon ?conditional ?declarations ?raw
    ?broken
  case semicolon => exact fun _ => prelude.on (reads_advance _).suffix
  case conditional =>
    exact fun _ _ _ => prelude.on (((reads_advance _).trans (reads_parseStatements true _)).trans
      (reads_expect _ .closeBrace)).suffix
  case declarations => exact fun _ _ _ => prelude.on (consumes_parseBlock _).suffix
  case raw => exact fun _ _ _ => prelude.on (consumes_readBlock _).suffix
  case broken => exact prelude.on (reads_expect _ .semicolon).suffix

theorem consumes_parseStatement (inside : c.kind ≠ .endOfInput) :
    c.Consumes c.parseStatement.2 := by
  refine parseStatement_cases ?separator ?comment ?stray ?atRule ?rule
  case separator | comment => exact fun _ => c.consumes_advance
  case stray => exact fun _ => (c.unexpected .statement).consumes_advance
  case atRule => exact fun _ => c.consumes_parseAtRule
  case rule => exact fun _ unclosed => consumes_parseRule inside unclosed

end Consuming

end Cursor

end ComponentStyles
