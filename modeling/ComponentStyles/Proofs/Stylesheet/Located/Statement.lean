import ComponentStyles.Proofs.Stylesheet.Located.Selector
import ComponentStyles.Proofs.Stylesheet.Located.Value
import ComponentStyles.Proofs.Stylesheet.Parser.Statement

/-!
# Where definitions stand

The span of a definition starts with its name and its mark, since it starts with the token that the
name is taken from and only goes on from there. With usages and errors this is all that messages
about a stylesheet point at.
-/

namespace ComponentStyles

open Token

variable {text : Text}

section Places

/-- The span of a definition covers a part of the text that starts with its mark and its name. -/
def Definition.StandsIn (text : Text) (d : Definition) : Prop :=
  ∃ part, d.span.Covers text part ∧ d.form.mark ++ d.name <+: part

/-- What messages say about an entry of a block is there in the text. -/
def Item.StandsIn (text : Text) : Item → Prop
  | .declaration d => UsagesWithin text d.value.terms
  | .definition d => d.StandsIn text

/-- All that messages about a stylesheet point at is there in the text. -/
structure Stylesheet.StandsIn (text : Text) (sheet : Stylesheet) : Prop where
  span : sheet.span.IsWithin text
  items : ∀ item ∈ sheet.items, item.StandsIn text

/-- What messages say about the entries of a statement is there in the text. -/
def EntriesStandIn (text : Text) (statement? : Option Statement) : Prop :=
  ∀ statement ∈ statement?, ∀ item ∈ statement.items, item.StandsIn text

theorem entriesStandIn_none : EntriesStandIn text none := by
  rintro _ ⟨⟩

theorem entriesStandIn_some {statement : Statement}
    (standIn : ∀ item ∈ statement.items, item.StandsIn text) :
    EntriesStandIn text (some statement) := by
  rintro _ ⟨⟩
  exact standIn

theorem EntriesStandIn.append {statement? : Option Statement} {rest : List Statement}
    (first : EntriesStandIn text statement?) (later : ∀ item ∈ itemsOf rest, item.StandsIn text) :
    ∀ item ∈ itemsOf (statement?.toList ++ rest), item.StandsIn text := by
  cases statement? with
  | none => exact later
  | some statement =>
      intro item listed
      rcases List.mem_append.mp listed with listed | listed
      · exact first statement rfl item listed
      · exact later item listed

end Places

namespace Cursor

variable {c last : Cursor}

section Skipping

theorem goes_skipDeclaration (c : Cursor) : c.Goes text c.skipDeclaration True := by
  have moved : c.Goes text (c.goTo _ _) True := goes_goTo (splitDeclaration_append 0 c.rest)
  simp only [skipDeclaration]
  split
  · exact (moved.trans (goes_advance _)).moves
  · exact moved

theorem goes_skipStatement (c : Cursor) : c.Goes text c.skipStatement True := by
  simp only [skipStatement]
  have moved (inside : Token → Bool) :
      c.Goes text (c.goTo (c.rest.takeWhile inside) (c.rest.dropWhile inside)) True :=
    goes_goTo List.takeWhile_append_dropWhile
  split
  · exact ((moved _).trans (goes_advance _)).moves
  · exact ((moved _).trans (goes_readBlock _)).moves
  · exact moved _

theorem goes_finishDeclaration (c : Cursor) : c.Goes text c.finishDeclaration True := by
  rw [finishDeclaration]
  split
  · exact c.goes_advance
  · exact Goes.refl c
  · exact Goes.refl c
  · exact ((c.goes_unexpected _).trans (goes_skipDeclaration _)).moves

end Skipping

section Blocks

theorem goes_parseMark (c : Cursor) : c.Goes text c.parseMark.2 True := by
  simp only [parseMark, parseImportant]
  split
  · split
    · exact (c.goes_step.trans (goes_step _)).moves
    · exact (c.goes_step.trans (goes_unexpected _ _)).moves
  · exact Goes.refl c

/-- What is read of an assignment behind its name. -/
theorem goes_parseAssignment (c : Cursor) : c.advance.Goes text c.parseAssignment.2
    (∀ assigned ∈ c.parseAssignment.1, UsagesWithin text assigned.1.terms) := by
  by_cases colon : c.advance.skipTrivia.kind = .colon
  · rw [parseAssignment_colon colon]
    have value : c.advance.Goes text c.advance.skipTrivia.advance.parseValue.2 _ :=
      (c.advance.goes_skipTrivia.trans (goes_advance _)).trans (goes_parseValue _)
    refine ((value.trans (goes_parseMark _)).trans (goes_finishDeclaration _)).imp fun _ found => ?_
    rintro _ ⟨⟩
    exact found.1.1.2
  · rw [parseAssignment]
    simp only [colon, if_false]
    refine (c.advance.goes_skipTrivia.trans ((goes_expect _ _).trans
      (goes_skipDeclaration _))).imp fun _ _ => ?_
    rintro _ ⟨⟩

/-- A definition that is read from a marked name starts with it. -/
theorem goes_parseDefinition {form : DefinitionForm} {token : Token} {tail : List Token}
    (whole : c.rest = token :: tail) (solid : token.isTrivia = false) (name : c.Stands text →
      form.mark <+: token.text) : c.Goes text (c.parseDefinition form).2
        (∀ d ∈ (c.parseDefinition form).1, d.StandsIn text) := by
  have behind : c.advance.Goes text c.parseAssignment.2 _ := goes_parseAssignment c
  refine (c.goes_advance.trans behind).imp fun stands _ d parsed => ?_
  obtain ⟨⟨value, important⟩, assigned, rfl⟩ := Option.map_eq_some_iff.mp parsed
  -- The span goes on from the name to whatever was read last for the definition.
  have standsBehind := c.goes_advance.stands stands
  have onward := behind.onward standsBehind
  rw [lastEnd_advance whole solid] at onward
  obtain ⟨more, covers⟩ :=
    (stands.covers whole).extend (behind.stands standsBehind).lastEnd onward
  obtain ⟨rest, marked⟩ := name stands
  refine ⟨token.text ++ more, by rw [current_of_rest whole]; exact covers, ?_⟩
  rw [← marked, List.append_assoc]
  refine List.prefix_append_right_inj _ |>.mpr ?_
  cases form <;> simp [current_of_rest whole, ← marked, DefinitionForm.mark]

theorem goes_parseItem {token : Token} {tail : List Token} (whole : c.rest = token :: tail)
    (isName : token.kind = .identifier) :
    c.Goes text c.parseItem.2 (∀ item ∈ c.parseItem.1, item.StandsIn text) := by
  have solid : token.isTrivia = false := by rw [Token.isTrivia, isName]; rfl
  by_cases marked : IsMarked c.current.text
  · rw [parseItem_definition marked]
    have name : DefinitionForm.property.mark <+: token.text :=
      List.isPrefixOf_iff_prefix.mp (current_of_rest whole ▸ marked.1)
    refine (goes_parseDefinition whole solid fun _ => name).imp fun _ found item parsed => ?_
    obtain ⟨d, made, rfl⟩ := Option.map_eq_some_iff.mp parsed
    exact found d made
  · rw [parseItem_declaration marked]
    refine (c.goes_advance.trans (goes_parseAssignment c)).imp fun _ found item parsed => ?_
    obtain ⟨assigned, made, rfl⟩ := Option.map_eq_some_iff.mp parsed
    exact found.2 assigned made

theorem goes_parseDirective {token : Token} {tail : List Token} (whole : c.rest = token :: tail)
    (isKeyword : token.kind = .atKeyword) : c.Goes text (c.parseDefinition .directive).2
      (∀ d ∈ (c.parseDefinition .directive).1, d.StandsIn text) := by
  refine goes_parseDefinition whole (by rw [Token.isTrivia, isKeyword]; rfl) fun stands => ?_
  obtain ⟨name, same⟩ := exists_atKeyword_of_spells (isKeyword ▸ stands.spells whole)
  exact ⟨name, same.symm⟩

theorem goes_blockStep {c next : Cursor} {items : List Item}
    (step : c.blockStep = some (items, next)) :
    c.Goes text next (∀ item ∈ items, item.StandsIn text) := by
  refine blockStep_cases step ?separator ?item ?directive ?refused
  case separator => exact fun _ => c.goes_advance.imp fun _ _ => List.forall_mem_nil _
  case item =>
    intro isName
    obtain ⟨token, tail, whole⟩ := exists_rest_of_kind (c := c) (by rw [isName]; decide)
    rw [kind_of_rest whole] at isName
    refine (goes_parseItem whole isName).imp fun _ found item listed => ?_
    exact found item (Option.mem_toList.mp listed)
  case directive =>
    intro isKeyword
    obtain ⟨token, tail, whole⟩ := exists_rest_of_kind (c := c) (by rw [isKeyword]; decide)
    rw [kind_of_rest whole] at isKeyword
    refine (goes_parseDirective whole isKeyword).imp fun _ found item listed => ?_
    obtain ⟨d, parsed, rfl⟩ := List.mem_map.mp listed
    exact found d (Option.mem_toList.mp parsed)
  case refused =>
    exact ((c.goes_unexpected _).trans ((goes_advance _).trans (goes_skipDeclaration _))).imp
      fun _ _ => List.forall_mem_nil _

/-- What every step finds, the repetition finds of everything. -/
theorem goes_repeatedly {α : Type} {step : Cursor → Option (List α × Cursor)} {Good : α → Prop}
    (goes : ∀ {c found next}, step c = some (found, next) →
      c.Goes text next (∀ x ∈ found, Good x)) (c : Cursor) :
    c.Goes text (c.repeatedly step).2 (∀ x ∈ (c.repeatedly step).1, Good x) := by
  induction c using repeatedly.induct step with
  | case1 c declines =>
      rw [repeatedly, declines]
      exact (Goes.refl c).imp fun _ _ => List.forall_mem_nil _
  | case2 c found next stepped shorter _ _ _ inductionHypothesis =>
      rw [repeatedly, stepped]
      simp only [shorter, if_true]
      refine ((goes stepped).trans inductionHypothesis).imp fun _ found => ?_
      simpa only [List.forall_mem_append] using found
  | case3 c found next stepped stuck =>
      rw [repeatedly, stepped]
      simp only [stuck, if_false]
      exact goes stepped

theorem goes_parseBlock (c : Cursor) :
    c.Goes text c.parseBlock.2 (∀ item ∈ c.parseBlock.1.items, item.StandsIn text) := by
  rw [parseBlock]
  refine ((c.goes_advance.trans (goes_repeatedly goes_blockStep _)).trans
    (goes_expect _ _)).imp fun _ found => found.1.2

end Blocks

section Statements

theorem goes_parseRule (c : Cursor) :
    c.Goes text c.parseRule.2 (EntriesStandIn text c.parseRule.1) := by
  rw [parseRule]
  have selectors : c.GoesOrFails text (c.parseSelectorList .openBrace) :=
    goes_parseSelectorList .openBrace c
  obtain ⟨error, last, parsed, failed⟩ | ⟨list, last, parsed, through⟩ := selectors.cases
  · rw [parsed]
    exact ((failed.fail error).trans (goes_skipStatement _)).imp fun _ _ => entriesStandIn_none
  · rw [parsed]
    dsimp only
    split
    · exact (through.trans (goes_parseBlock last)).imp fun _ found => entriesStandIn_some found.2
    · exact (through.trans ((goes_expect _ _).trans (goes_skipStatement _))).imp
        fun _ _ => entriesStandIn_none

theorem goes_parseMedia (start : Nat) (target : Text) (c : Cursor) :
    c.Goes text (c.parseMedia start target).2
      (EntriesStandIn text (c.parseMedia start target).1) := by
  rw [parseMedia]
  exact ((c.goes_step.trans (goes_readRaw (by decide) _)).trans (goes_expect _ _)).imp
    fun _ _ => entriesStandIn_some (List.forall_mem_nil _)

theorem goes_parseImport (start : Nat) (c : Cursor) :
    c.Goes text (c.parseImport start).2 (EntriesStandIn text (c.parseImport start).1) := by
  refine parseImport_cases ?media ?refused
  case media =>
    exact fun _ _ => (c.goes_skipTrivia.trans (goes_parseMedia start _ _)).imp
      fun _ found => found.2
  case refused =>
    exact (c.goes_skipTrivia.trans ((goes_unexpected _ _).trans (goes_skipStatement _))).imp
      fun _ _ => entriesStandIn_none

theorem goes_parseStatement_of {c : Cursor}
    (atRule : c.kind = .atKeyword →
      c.Goes text c.parseAtRule.2 (EntriesStandIn text c.parseAtRule.1)) :
    c.Goes text c.parseStatement.2 (EntriesStandIn text c.parseStatement.1) := by
  refine parseStatement_cases ?separator ?comment ?stray ?atRule ?rule
  case separator => exact fun _ => c.goes_advance.imp fun _ _ => entriesStandIn_none
  case comment =>
    exact fun _ => c.goes_advance.imp fun _ _ => entriesStandIn_some (List.forall_mem_nil _)
  case stray =>
    exact fun _ => ((c.goes_unexpected _).trans (goes_advance _)).imp
      fun _ _ => entriesStandIn_none
  case atRule => exact atRule
  case rule => exact fun _ _ => c.goes_parseRule

mutual

theorem goes_parseStatements (nested : Bool) (c : Cursor) :
    c.Goes text (c.parseStatements nested).2
      (∀ item ∈ itemsOf (c.parseStatements nested).1, item.StandsIn text) := by
  have first : c.Goes text c.parseStatement.2 _ := goes_parseStatement_of (goes_parseAtRule c)
  refine parseStatements_cases ?ends ?closes ?more ?stuck
  case ends =>
    intro _
    cases nested with
    | false => exact (Goes.refl c).imp fun _ _ => List.forall_mem_nil _
    | true => exact (c.goes_report _).imp fun _ _ => List.forall_mem_nil _
  case closes => exact fun _ _ => (Goes.refl c).imp fun _ _ => List.forall_mem_nil _
  case more =>
    intro _ _ shorter
    exact (first.trans (goes_parseStatements nested c.parseStatement.2)).imp
      fun _ found => found.1.append found.2
  case stuck =>
    intro _ _ _
    rw [← List.append_nil c.parseStatement.1.toList]
    exact first.imp fun _ found => found.append (List.forall_mem_nil _)
termination_by 2 * c.rest.length + 1

theorem goes_parseAtRule (c : Cursor) (isKeyword : c.kind = .atKeyword) :
    c.Goes text c.parseAtRule.2 (EntriesStandIn text c.parseAtRule.1) := by
  by_cases isDefinition : c.AtDefinition
  · rw [parseAtRule_definition isDefinition]
    obtain ⟨token, tail, whole⟩ := exists_rest_of_kind (c := c) (by rw [isKeyword]; decide)
    rw [kind_of_rest whole] at isKeyword
    refine (goes_parseDirective whole isKeyword).imp fun _ found statement parsed => ?_
    obtain ⟨d, made, rfl⟩ := Option.map_eq_some_iff.mp parsed
    exact List.forall_mem_singleton.mpr (found d made)
  by_cases isImport : Text.lower c.atName = "import".toList
  · rw [parseAtRule_import isImport]
    exact (c.goes_advance.trans (goes_parseImport _ _)).imp fun _ found => found.2
  have prelude : c.Goes text c.prelude.2 _ := c.goes_step.trans (goes_readRaw (by decide) _)
  refine parseAtRule_prelude_cases isDefinition isImport ?semicolon ?conditional ?declarations ?raw
    ?broken
  case semicolon =>
    exact fun _ => (prelude.trans (goes_advance _)).imp
      fun _ _ => entriesStandIn_some (List.forall_mem_nil _)
  case conditional =>
    intro _ _ shorter
    exact (((prelude.trans (goes_advance _)).trans
      (goes_parseStatements true c.prelude.2.advance)).trans (goes_expect _ _)).imp
        fun _ found => entriesStandIn_some found.1.2
  case declarations =>
    exact fun _ _ _ => (prelude.trans (goes_parseBlock _)).imp
      fun _ found => entriesStandIn_some found.2
  case raw =>
    exact fun _ _ _ => (prelude.trans (goes_readBlock _)).imp
      fun _ _ => entriesStandIn_some (List.forall_mem_nil _)
  case broken => exact (prelude.trans (goes_expect _ _)).imp fun _ _ => entriesStandIn_none
termination_by 2 * c.rest.length

end

end Statements

end Cursor

/-- A stylesheet that is read from a part of a text stands in it, and so do the errors. -/
theorem Stylesheet.standsIn_parseAt (file : File) {before part : Text}
    (starts : before ++ part <+: text) :
    (parseAt file (Text.size before) part).tree.StandsIn text ∧
      ∀ e ∈ (parseAt file (Text.size before) part).errors, e.span.IsWithin text := by
  have stands := Cursor.stands_start starts
  have read : Cursor.Goes text _ _ _ := Cursor.goes_parseStatements false
    (Cursor.start (Text.size before) part (Token.ofText (Text.size before) part))
  have whole : Span.IsWithin ⟨Text.size before, _⟩ text :=
    ⟨stands.lastEnd, stands.stop, stands.placed.le_stop⟩
  exact ⟨⟨whole, read.found stands⟩, (read.stands stands).errors⟩

end ComponentStyles
