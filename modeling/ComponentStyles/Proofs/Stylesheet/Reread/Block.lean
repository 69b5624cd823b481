import ComponentStyles.Proofs.Stylesheet.Parser.Statement
import ComponentStyles.Proofs.Stylesheet.Reread.Selector

/-!
# Reading written blocks

Every entry of a block stands behind a separator, which the parser passes over, and ends with a
semicolon.
-/

namespace ComponentStyles

open Token

variable {rest name text : Text}

section Separators

theorem separator_ne_nil (layout : Layout) (depth : Nat) : layout.separator depth ≠ [] := by
  cases layout <;> exact List.cons_ne_nil _ _

theorem mem_blanks_of_separator {layout : Layout} {depth : Nat} {c : Char}
    (listed : c ∈ layout.separator depth) : c ∈ blanks := by
  cases layout with
  | compact =>
      obtain rfl := List.mem_singleton.mp listed
      decide
  | lines =>
      rcases List.mem_cons.mp listed with rfl | listed
      · decide
      · obtain ⟨_, rfl⟩ := List.mem_replicate.mp listed
        decide

theorem lexemes_separator (layout : Layout) (depth : Nat) (beyond : ∀ c ∈ rest.head?, c ∉ blanks) :
    lexemes (layout.separator depth ++ rest) =
      ⟨.whitespace, layout.separator depth⟩ :: lexemes rest :=
  lexemes_blank (separator_ne_nil layout depth) (fun _ => mem_blanks_of_separator) beyond

end Separators

section Assignments

/-- How a declaration or a definition is written to end. -/
def markText (important : Bool) : Text :=
  if important then " !important;".toList else [';']

theorem lexemes_importantMark : lexemes (" !important;".toList ++ rest) =
    ⟨.whitespace, [' ']⟩ :: ⟨.bang, ['!']⟩ :: ⟨.identifier, "important".toList⟩ ::
      ⟨.semicolon, [';']⟩ :: lexemes rest := by
  have split : " !important;".toList ++ rest = ' ' :: '!' :: ("important".toList ++ ';' :: rest) := by
    simp
  rw [split, lexemes_space (by rintro _ ⟨⟩; decide), lexemes_single (by rfl),
    lexemes_name (spells_of_accepts (by rfl)) (by rintro _ ⟨⟩; decide),
    lexemes_single (by rfl)]

theorem endsValue_markText (important : Bool) : EndsValue (markText important ++ rest) := by
  cases important with
  | false => exact endsValue_semicolon
  | true =>
      have split : markText true ++ rest = ' ' :: '!' :: ("important;".toList ++ rest) := by
        simp [markText]
      rw [split]
      exact endsValue_mark

theorem startsSolid_value {terms : List Term} (important : Bool) (wellFormed : WellFormedTerms terms)
    (steady : SteadyTerms terms) (marked : terms = [] → important = false) :
    StartsSolid (renderTerms false terms ++ (markText important ++ rest)) := by
  cases terms with
  | nil =>
      rw [marked rfl]
      exact ⟨_, _, lexemes_single (by rfl), rfl⟩
  | cons term terms =>
      exact startsSolid_renderTerms wellFormed steady (endsValue_markText important).follows

namespace Cursor

variable {c : Cursor}

theorem goesTo_mark (important : Bool)
    (ahead : c.lexemes =
      (Token.lexemes (markText important ++ rest)).dropWhile Lexeme.isTrivia) :
    c.parseMark.1 = important ∧ c.GoesTo c.parseMark.2.finishDeclaration (Token.lexemes rest) := by
  have finish {c : Cursor} (ahead : c.lexemes = ⟨.semicolon, [';']⟩ :: Token.lexemes rest) :
      c.GoesTo c.finishDeclaration (Token.lexemes rest) := by
    rw [finishDeclaration, kind_of_ahead ahead]
    exact goesTo_advance ahead
  cases important with
  | false =>
      rw [markText, if_neg Bool.false_ne_true, List.singleton_append, lexemes_single (by rfl)] at ahead
      rw [parseMark, if_neg (by simp [kind_of_ahead ahead])]
      exact ⟨rfl, finish ahead⟩
  | true =>
      rw [markText, if_pos rfl, lexemes_importantMark] at ahead
      have atBang : c.lexemes = ⟨.bang, ['!']⟩ :: ⟨.identifier, "important".toList⟩ ::
          ⟨.semicolon, [';']⟩ :: Token.lexemes rest := ahead
      have atName := lexemes_skipTrivia_of_solid (lexemes_advance atBang) rfl
      have atEnd := lexemes_skipTrivia_of_solid (lexemes_advance atName) rfl
      rw [parseMark, if_pos (kind_of_ahead atBang), parseImportant]
      rw [if_pos (by rw [kind_of_ahead atName, text_of_ahead atName]; decide)]
      have goes := finish atEnd
      exact ⟨rfl, goes.ahead, goes.quiet⟩

/-- What the parser makes of the colon, the value and the end of an entry. -/
theorem rereads_assignment {l : Lexeme} {terms : List Term} (important : Bool)
    (wellFormed : WellFormedTerms terms) (steady : SteadyTerms terms)
    (marked : terms = [] → important = false)
    (ahead : c.lexemes = l ::
      Token.lexemes (':' :: ' ' :: (renderTerms false terms ++ (markText important ++ rest)))) :
    ∃ value, c.parseAssignment.1 = some (value, important) ∧
      bareTerms value.terms = bareTerms terms ∧
        c.GoesTo c.parseAssignment.2 (Token.lexemes rest) := by
  have ends : EndsValue (markText important ++ rest) := endsValue_markText important
  have starts : StartsSolid (renderTerms false terms ++ (markText important ++ rest)) :=
    startsSolid_value important wellFormed steady marked
  rw [lexemes_single (by rfl), starts.space] at ahead
  have atColon := lexemes_skipTrivia_of_solid (lexemes_advance ahead) rfl
  have atValue := lexemes_skipTrivia_of_trivia (lexemes_advance atColon) rfl
  obtain ⟨same, goes⟩ := rereads_terms wellFormed steady ends
    (congrArg (List.dropWhile Lexeme.isTrivia) (atValue.trans starts.dropWhile))
  obtain ⟨isMark, goesOn⟩ := goesTo_mark important goes.ahead
  obtain ⟨isTerms, isLast⟩ := parseValue_eq c.advance.skipTrivia.advance
  rw [parseAssignment_colon (kind_of_ahead atColon), isLast, isMark]
  refine ⟨_, rfl, ?_, goesOn.ahead, goesOn.quiet.trans goes.quiet⟩
  rw [isTerms, same]

end Cursor

end Assignments

section Items

/-- The kind of the token that names a definition of this form. -/
def DefinitionForm.kind : DefinitionForm → Kind
  | directive => .atKeyword
  | property => .identifier

theorem lexemes_definitionHead {form : DefinitionForm} (names : form.Names name) :
    lexemes (form.mark ++ (name ++ ':' :: rest)) =
      ⟨form.kind, form.mark ++ name⟩ :: lexemes (':' :: rest) := by
  cases form with
  | directive => exact lexemes_atKeyword names (by rintro _ ⟨⟩; decide)
  | property =>
      rw [← List.append_assoc]
      exact lexemes_name names.1 (by rintro _ ⟨⟩; decide)

/-- An entry behind its name. -/
def entryText (terms : List Term) (important : Bool) : Text :=
  ':' :: ' ' :: (renderTerms false terms ++ markText important)

theorem entryText_append (terms : List Term) (important : Bool) (rest : Text) :
    entryText terms important ++ rest =
      ':' :: ' ' :: (renderTerms false terms ++ (markText important ++ rest)) := by
  simp [entryText]

theorem render_definition (d : Definition) :
    d.render ++ rest =
      d.form.mark ++ (d.name ++ (entryText d.value.terms false ++ rest)) := by
  rw [entryText_append, Definition.render, Value.render, markText, if_neg Bool.false_ne_true]
  simp only [List.append_assoc]
  rfl

theorem render_declaration (d : Declaration) :
    d.render ++ rest = d.property ++ (entryText d.value.terms d.important ++ rest) := by
  rw [entryText_append, Declaration.render, Value.render, markText]
  simp only [List.append_assoc]
  rfl

/-- A declaration is written exactly if it has a value. -/
theorem render?_declaration_eq_some_iff {d : Declaration} :
    (Item.declaration d).render? = some text ↔ d.value.terms ≠ [] ∧ d.render = text := by
  rw [Item.render?, Option.ite_none_left_eq_some, List.isEmpty_iff, Option.some.injEq]

theorem lexemes_declaration {d : Declaration} (isName : Kind.identifier.Spells d.property) :
    lexemes (d.render ++ rest) =
      ⟨.identifier, d.property⟩ :: lexemes (entryText d.value.terms d.important ++ rest) := by
  rw [render_declaration]
  exact lexemes_name isName (by rintro _ ⟨⟩; decide)

theorem isEmpty_of_bareTerms {terms others : List Term} (same : bareTerms terms = bareTerms others) :
    terms.isEmpty = others.isEmpty := by
  cases terms <;> cases others <;> simp [bareTerms] at same ⊢

namespace Cursor

variable {c : Cursor}

theorem parseDefinition_eq (form : DefinitionForm) (c : Cursor) :
    c.parseDefinition form =
      (c.parseAssignment.1.map fun assigned => ⟨c.current.text.drop form.mark.length, assigned.1,
          form, ⟨c.current.span.start, c.parseAssignment.2.lastEnd⟩⟩,
        c.parseAssignment.2) := by
  cases form <;> rfl

theorem rereads_definition {d : Definition} {kind : Kind} (wellFormed : WellFormedTerms d.value.terms)
    (steady : SteadyTerms d.value.terms)
    (ahead : c.lexemes =
      ⟨kind, d.form.mark ++ d.name⟩ :: Token.lexemes (entryText d.value.terms false ++ rest)) :
    ∃ found, (c.parseDefinition d.form).1 = some found ∧ found.bare = d.bare ∧
      c.GoesTo (c.parseDefinition d.form).2 (Token.lexemes rest) := by
  have written := text_of_ahead ahead
  rw [entryText_append] at ahead
  obtain ⟨value, parsed, same, goes⟩ :=
    rereads_assignment false wellFormed steady (fun _ => rfl) ahead
  rw [parseDefinition_eq, parsed, written, List.drop_left]
  refine ⟨_, rfl, ?_, goes⟩
  rw [Definition.bare, Definition.bare, Value.bare, Value.bare, same]

theorem isMarked_append (notEmpty : name ≠ []) : IsMarked ("var-".toList ++ name) := by
  refine ⟨List.isPrefixOf_iff_prefix.mpr (List.prefix_append _ _), ?_⟩
  have := List.length_pos_iff.mpr notEmpty
  rw [List.length_append, show "var-".toList.length = 4 from rfl]
  omega

/-- A written entry is one step through its block. -/
theorem rereads_item {item : Item} (wellFormed : item.WellFormed) (steady : SteadyTerms item.terms)
    (written : item.render? = some text) (ahead : c.lexemes = Token.lexemes (text ++ rest)) :
    ∃ found next, c.blockStep = some ([found], next) ∧ found.bare? = item.bare? ∧
      c.GoesTo next (Token.lexemes rest) := by
  cases item with
  | declaration d =>
      obtain ⟨notEmpty, rfl⟩ := render?_declaration_eq_some_iff.mp written
      obtain ⟨⟨isName, notMarked⟩, wellFormed⟩ := wellFormed
      rw [lexemes_declaration isName] at ahead
      have isText := text_of_ahead ahead
      have notMarkedToo : ¬ IsMarked c.current.text := by rwa [isText]
      have isKind := kind_of_ahead ahead
      rw [entryText_append] at ahead
      obtain ⟨value, parsed, same, goes⟩ := rereads_assignment d.important wellFormed steady
        (fun nothing => absurd nothing notEmpty) ahead
      rw [blockStep, isKind]
      dsimp only
      rw [parseItem_declaration notMarkedToo, parsed, isText]
      refine ⟨_, _, rfl, ?_, goes⟩
      rw [Item.bare?, Item.bare?, isEmpty_of_bareTerms same, Declaration.bare, Declaration.bare,
        Value.bare, Value.bare, same]
  | definition d =>
      cases written
      obtain ⟨names, wellFormed⟩ := wellFormed
      rw [render_definition, entryText_append, lexemes_definitionHead names,
        ← entryText_append] at ahead
      obtain ⟨found, parsed, same, goes⟩ := rereads_definition wellFormed steady ahead
      have bare : (Item.definition found).bare? = (Item.definition d).bare? :=
        congrArg (some ∘ Item.definition) same
      have isText := text_of_ahead ahead
      rw [blockStep, kind_of_ahead ahead]
      obtain ⟨name, value, form, span⟩ := d
      cases form with
      | directive =>
          have colon : c.colonFollows = true := by
            have atColon := lexemes_advance ahead
            rw [entryText_append, lexemes_single (by rfl)] at atColon
            exact colonFollows_iff.mpr (kind_of_ahead (lexemes_skipTrivia_of_solid atColon rfl))
          dsimp only [DefinitionForm.kind]
          rw [if_pos colon, parsed]
          exact ⟨_, _, rfl, bare, goes⟩
      | property =>
          have marked : IsMarked c.current.text := by
            rw [isText]
            exact isMarked_append names.2
          dsimp only [DefinitionForm.kind]
          rw [parseItem_definition marked, parsed]
          exact ⟨_, _, rfl, bare, goes⟩

theorem repeatedly_more {α : Type} {step : Cursor → Option (List α × Cursor)} {found : List α}
    {next : Cursor} (stepped : step c = some (found, next))
    (shorter : next.rest.length < c.rest.length) :
    c.repeatedly step = (found ++ (next.repeatedly step).1, (next.repeatedly step).2) := by
  rw [repeatedly, stepped]
  exact if_pos shorter

theorem repeatedly_done {α : Type} {step : Cursor → Option (List α × Cursor)}
    (declines : step c = none) : c.repeatedly step = ([], c) := by
  rw [repeatedly, declines]

theorem length_advance_lt {l : Lexeme} {ls : List Lexeme} (ahead : c.lexemes = l :: ls) :
    c.advance.rest.length < c.rest.length := by
  obtain ⟨token, tail, whole, _⟩ := exists_token ahead
  rw [length_advance, whole, List.length_cons]
  omega

/-- The parser passes over the separator between two entries. -/
theorem repeatedly_separator {blank : Text} {ls : List Lexeme}
    (ahead : c.lexemes = ⟨.whitespace, blank⟩ :: ls) :
    c.repeatedly blockStep = c.advance.repeatedly blockStep := by
  have stepped : c.blockStep = some ([], c.advance) := by
    rw [blockStep, kind_of_ahead ahead]
  rw [repeatedly_more stepped (length_advance_lt ahead)]
  rfl

end Cursor

/-- The written form of the entries of a block. -/
def itemsText (layout : Layout) (depth : Nat) (items : List Item) : Text :=
  (items.filterMap Item.render?).flatMap (layout.separator depth ++ ·)

section Rows

variable {layout : Layout} {depth : Nat} {item : Item} {items : List Item}

theorem itemsText_cons_none (unwritten : item.render? = none) :
    itemsText layout depth (item :: items) = itemsText layout depth items := by
  rw [itemsText, List.filterMap_cons_none unwritten, itemsText]

theorem itemsText_cons_some (written : item.render? = some text) :
    itemsText layout depth (item :: items) =
      layout.separator depth ++ (text ++ itemsText layout depth items) := by
  rw [itemsText, List.filterMap_cons_some written, List.flatMap_cons, itemsText, List.append_assoc]

end Rows

theorem startsSolid_item {item : Item} (wellFormed : item.WellFormed)
    (written : item.render? = some text) : StartsSolid (text ++ rest) := by
  cases item with
  | declaration d =>
      obtain ⟨-, rfl⟩ := render?_declaration_eq_some_iff.mp written
      exact ⟨_, _, lexemes_declaration wellFormed.1.1, rfl⟩
  | definition d =>
      cases written
      rw [render_definition, entryText_append]
      refine ⟨_, _, lexemes_definitionHead wellFormed.1, ?_⟩
      cases d.form <;> rfl

theorem item_ne_nil {item : Item} (wellFormed : item.WellFormed)
    (written : item.render? = some text) : text ≠ [] := by
  rintro rfl
  have starts : StartsSolid ([] ++ []) := startsSolid_item wellFormed written
  obtain ⟨l, ls, cut, _⟩ := starts
  rw [List.append_nil, lexemes_nil] at cut
  cases cut

theorem Item.bare?_of_unwritten {item : Item} (unwritten : item.render? = none) :
    item.bare? = none := by
  cases item with
  | declaration d =>
      rw [Item.render?] at unwritten
      rw [Item.bare?]
      split at unwritten
      case isTrue nothing => rw [if_pos nothing]
      case isFalse => cases unwritten
  | definition d => cases unwritten

theorem Item.exists_bare?_of_written {item : Item} (written : item.render? = some text) :
    ∃ bare, item.bare? = some bare := by
  cases item with
  | declaration d =>
      obtain ⟨notEmpty, -⟩ := render?_declaration_eq_some_iff.mp written
      exact ⟨_, if_neg (by rwa [List.isEmpty_iff])⟩
  | definition d => exact ⟨_, rfl⟩

namespace Cursor

/-- The entries of a block are read one after the other, up to the brace that closes it. -/
theorem rereads_items {layout : Layout} {depth depthToo : Nat} : ∀ {items : List Item} {c : Cursor},
    (∀ item ∈ items, item.WellFormed) → (∀ item ∈ items, SteadyTerms item.terms) →
    c.lexemes = Token.lexemes
      (itemsText layout depth items ++ (layout.separator depthToo ++ '\x7d' :: rest)) →
    (c.repeatedly blockStep).1.map Item.bare? = (items.filterMap Item.bare?).map some ∧
      c.GoesTo (c.repeatedly blockStep).2 (⟨.closeBrace, ['\x7d']⟩ :: Token.lexemes rest)
  | [], c, _, _, ahead => by
      rw [itemsText, List.filterMap_nil, List.flatMap_nil, List.nil_append,
        lexemes_separator layout depthToo (by rintro _ ⟨⟩; decide), lexemes_single (by rfl)] at ahead
      have atBrace := lexemes_advance ahead
      have declines : c.advance.blockStep = none := by
        rw [blockStep, kind_of_ahead atBrace]
      rw [repeatedly_separator ahead, repeatedly_done declines]
      exact ⟨rfl, atBrace, rfl⟩
  | item :: items, c, wellFormed, steady, ahead => by
      rw [List.forall_mem_cons] at wellFormed steady
      cases written : item.render? with
      | none =>
          rw [itemsText_cons_none written] at ahead
          rw [List.filterMap_cons_none (Item.bare?_of_unwritten written)]
          exact rereads_items wellFormed.2 steady.2 ahead
      | some text =>
          rw [itemsText_cons_some written, List.append_assoc, List.append_assoc, lexemes_separator layout depth
            (startsSolid_item wellFormed.1 written).head] at ahead
          have atItem := lexemes_advance ahead
          obtain ⟨found, next, stepped, same, goes⟩ :=
            rereads_item wellFormed.1 steady.1 written atItem
          have shorter := length_lt_of_goesTo atItem (item_ne_nil wellFormed.1 written)
            (reads_blockStep stepped).suffix goes.ahead
          obtain ⟨sameMore, goesOn⟩ := rereads_items wellFormed.2 steady.2 goes.ahead
          rw [repeatedly_separator ahead, repeatedly_more stepped shorter]
          refine ⟨?_, goesOn.ahead, goesOn.quiet.trans goes.quiet⟩
          obtain ⟨bare, isBare⟩ := item.exists_bare?_of_written written
          rw [List.singleton_append, List.map_cons, List.filterMap_cons_some isBare, List.map_cons,
            same, isBare, sameMore]

theorem render_block {layout : Layout} {depth : Nat} {block : Block} :
    block.render layout depth ++ rest = ' ' :: '\x7b' :: (itemsText layout (depth + 1) block.items ++
      (layout.separator depth ++ '\x7d' :: rest)) := by
  simp [Block.render, itemsText]

/-- The entries of a written block are found again, and no others. -/
theorem rereads_entries {layout : Layout} {depth : Nat} {block : Block} {c : Cursor} {l : Lexeme}
    (wellFormed : block.WellFormed) (steady : ∀ item ∈ block.items, SteadyTerms item.terms)
    (ahead : c.lexemes = l :: Token.lexemes (itemsText layout (depth + 1) block.items ++
      (layout.separator depth ++ '\x7d' :: rest))) :
    c.parseBlock.1.items.map Item.bare? = (block.items.filterMap Item.bare?).map some ∧
      c.GoesTo c.parseBlock.2 (Token.lexemes rest) := by
  obtain ⟨same, goes⟩ := rereads_items wellFormed steady (lexemes_advance ahead)
  have closes := goesTo_expect goes.ahead
  rw [parseBlock]
  exact ⟨same, closes.ahead, closes.quiet.trans goes.quiet⟩

theorem rereads_block {layout : Layout} {depth : Nat} {block : Block} {c : Cursor} {l : Lexeme}
    (wellFormed : block.WellFormed) (steady : ∀ item ∈ block.items, SteadyTerms item.terms)
    (ahead : c.lexemes = l :: Token.lexemes (itemsText layout (depth + 1) block.items ++
      (layout.separator depth ++ '\x7d' :: rest))) :
    c.parseBlock.1.bare = block.bare ∧ c.GoesTo c.parseBlock.2 (Token.lexemes rest) := by
  obtain ⟨same, goes⟩ := rereads_entries wellFormed steady ahead
  refine ⟨?_, goes⟩
  have written := congrArg (List.filterMap id) same
  rw [List.filterMap_map, List.filterMap_map, Function.id_comp, Function.id_comp,
    List.filterMap_some] at written
  unfold Block.bare
  rw [written]

end Cursor

end Items

end ComponentStyles
