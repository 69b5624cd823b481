import ComponentStyles.Proofs.Stylesheet.Reread.Statement

/-!
# Writing a stylesheet again

The written form of a stylesheet is read as a tree that is written in the same way, in either layout.
It takes what reading a written tree takes. A url whose target has a double quote may be read as a
call, but the target of an import is put between double quotes as it is: one that has a double quote
itself is cut off there.
-/

namespace ComponentStyles

open Token

section Bare

/-- A term that is no separator is written behind a blank where one is due. -/
theorem renderTerms_cons {term : Term} (plain : ∀ op span, term ≠ .operator op span) (due : Bool)
    (rest : List Term) : renderTerms due (term :: rest) =
      (if due then [' '] else []) ++ term.render ++ renderTerms true rest := by
  cases term with
  | operator op span => exact absurd rfl (plain op span)
  | _ => rfl

theorem not_operator_bare {term : Term} (plain : ∀ op span, term ≠ .operator op span) :
    ∀ op span, term.bare ≠ .operator op span := by
  intro op span same
  cases term with
  | operator op span => exact plain op span rfl
  | url target span =>
      rw [Term.bare] at same
      split at same <;> cases same
  | usage name fallback span => cases fallback <;> cases same
  | _ => cases same

mutual

/-- A written term tells no more than its bare form. -/
theorem Term.render_bare : ∀ term : Term, term.bare.render = term.render
  | .literal _ _ => rfl
  | .usage _ none _ => rfl
  | .usage _ (some fallback) _ => by
      rw [Term.bare, Term.render_usage_some, Term.render_usage_some, fallback.render_bare]
  | .url target span => by
      by_cases calls : CallsUrl target
      · rw [Term.bare, if_pos calls, calls.render]
        simp [renderTerms]
      · rw [Term.bare, if_neg calls]
        rfl
  | .call _ arguments _ _ => by
      rw [Term.bare, Term.render_call, Term.render_call, renderTerms_bareTerms false arguments]
  | .operator _ _ => rfl

theorem renderTerms_bareTerms : ∀ (due : Bool) (terms : List Term),
    renderTerms due (bareTerms terms) = renderTerms due terms
  | _, [] => rfl
  | due, term :: rest => by
      have behind (due : Bool) := renderTerms_bareTerms due rest
      have first := term.render_bare
      by_cases isOperator : ∃ op span, term = .operator op span
      · obtain ⟨op, span, rfl⟩ := isOperator
        rw [bareTerms, Term.bare, renderTerms, renderTerms, behind]
      · have plain : ∀ op span, term ≠ .operator op span := fun op span same =>
          isOperator ⟨op, span, same⟩
        rw [bareTerms, renderTerms_cons plain, renderTerms_cons (not_operator_bare plain), first,
          behind]

end

mutual

theorem SimpleSelector.render_bare : ∀ simple : SimpleSelector, simple.bare.render = simple.render
  | .universal _ => rfl
  | .element _ _ => rfl
  | .byClass _ _ => rfl
  | .byId _ _ => rfl
  | .attribute _ _ => rfl
  | .pseudo _ _ .absent _ => rfl
  | .pseudo _ _ (.raw _) _ => rfl
  | .pseudo _ _ (.selectors list _) _ => by
      rw [SimpleSelector.bare, SimpleSelector.render, SimpleSelector.render,
        renderSelectors_bareSelectors true list]

theorem renderSelectors_bareSelectors : ∀ (first : Bool) (list : List Selector),
    renderSelectors first (bareSelectors list) = renderSelectors first list
  | _, [] => rfl
  | _, .mk parts _ :: rest => by
      rw [bareSelectors, renderSelectors, renderSelectors, renderParts_bareParts true parts,
        renderSelectors_bareSelectors false rest]

theorem renderParts_bareParts : ∀ (first : Bool) (parts : List SelectorPart),
    renderParts first (bareParts parts) = renderParts first parts
  | _, [] => rfl
  | _, .mk _ simple :: rest => by
      rw [bareParts, renderParts, renderParts, simple.render_bare,
        renderParts_bareParts false rest]

end

theorem Value.render_bare (value : Value) : value.bare.render = value.render :=
  renderTerms_bareTerms false value.terms

theorem Definition.render_bare (d : Definition) : d.bare.render = d.render := by
  rw [Definition.render, Definition.render, Definition.bare, Value.render_bare]

theorem Declaration.render_bare (d : Declaration) : d.bare.render = d.render := by
  rw [Declaration.render, Declaration.render, Declaration.bare, Value.render_bare]

/-- An entry without a written form has no bare form either. -/
theorem Item.render?_bare? (item : Item) : item.bare?.bind Item.render? = item.render? := by
  cases item with
  | definition d => exact congrArg some d.render_bare
  | declaration d =>
      rw [Item.bare?, Item.render?]
      by_cases empty : d.value.terms.isEmpty = true
      · rw [if_pos empty, if_pos empty, Option.bind_none]
      · have some : d.bare.value.terms.isEmpty = false := by
          rw [Declaration.bare, Value.bare, bareTerms_eq_map, List.isEmpty_map]
          simpa using empty
        rw [if_neg empty, if_neg empty, Option.bind_some, Item.render?, if_neg (by simp [some]),
          d.render_bare]

theorem Block.render_bare (layout : Layout) (depth : Nat) (block : Block) :
    block.bare.render layout depth = block.render layout depth := by
  have entries : block.bare.items.filterMap Item.render? = block.items.filterMap Item.render? := by
    rw [Block.bare, List.filterMap_filterMap]
    exact congrArg (List.filterMap · block.items) (funext Item.render?_bare?)
  rw [Block.render, Block.render, entries]

mutual

theorem Statement.render_bare (layout : Layout) : ∀ (depth : Nat) (statement : Statement),
    statement.bare.render layout depth = statement.render layout depth
  | depth, .rule selectors block _ => by
      have list : selectors.bare.render = selectors.render :=
        renderSelectors_bareSelectors true selectors.selectors
      change selectors.bare.render ++ block.bare.render layout depth =
        selectors.render ++ block.render layout depth
      rw [list, block.render_bare]
  | _, .definition d => d.render_bare
  | _, .importing _ _ _ => rfl
  | depth, .conditional name condition statements _ => by
      change renderAtHead name condition ++ " \x7b".toList ++
          renderStatements layout (depth + 1) (bareStatements statements) ++
          layout.separator depth ++ ['\x7d'] =
        renderAtHead name condition ++ " \x7b".toList ++
          renderStatements layout (depth + 1) statements ++ layout.separator depth ++ ['\x7d']
      rw [renderStatements_bareStatements layout (depth + 1) statements]
  | _, .atRule _ _ none _ => rfl
  | depth, .atRule name prelude (some (.declarations block)) _ => by
      change renderAtHead name prelude ++ block.bare.render layout depth =
        renderAtHead name prelude ++ block.render layout depth
      rw [block.render_bare]
  | _, .atRule _ _ (some (.raw _)) _ => rfl
  | _, .comment _ _ => rfl

theorem renderStatements_bareStatements (layout : Layout) :
    ∀ (depth : Nat) (statements : List Statement),
      renderStatements layout depth (bareStatements statements) =
        renderStatements layout depth statements
  | _, [] => rfl
  | depth, statement :: rest => by
      rw [bareStatements, renderStatements, renderStatements, statement.render_bare layout depth,
        renderStatements_bareStatements layout depth rest]

end

theorem bareStatements_eq_map (statements : List Statement) :
    bareStatements statements = statements.map Statement.bare := by
  induction statements with
  | nil => rfl
  | cons statement rest inductionHypothesis =>
      rw [bareStatements, inductionHypothesis, List.map_cons]

/-- Trees with the same bare form are written in the same way. -/
theorem Stylesheet.render_eq_of_bare {sheet other : Stylesheet}
    (same : bareStatements sheet.statements = bareStatements other.statements) (layout : Layout) :
    sheet.render layout = other.render layout := by
  have viaBare (sheet : Stylesheet) : sheet.render layout =
      Text.join ['\n'] ((bareStatements sheet.statements).map (Statement.render layout 0)) := by
    rw [bareStatements_eq_map, List.map_map]
    refine congrArg (Text.join _) (List.map_congr_left fun statement _ => ?_)
    exact (statement.render_bare layout 0).symm
  rw [viaBare, viaBare, same]

end Bare

section Stable

variable {file : File} {offset : Nat} {source : Text}

/-- What is read from a written stylesheet is written in the same way. -/
theorem Stylesheet.render_stable (plain : Plain (lexemes source))
    (quiet : (Stylesheet.parseAt file offset source).errors = [])
    (steady : SteadyStatements (Stylesheet.parseAt file offset source).tree.statements)
    (layout : Layout) (fileToo : File) (offsetToo : Nat) :
    let written := (Stylesheet.parseAt file offset source).tree.render layout
    let read := Stylesheet.parseAt fileToo offsetToo written
    read.errors = [] ∧ read.tree.render layout = written := by
  have wellFormed := Stylesheet.wellFormed_of_parseAt plain quiet
  obtain ⟨errors, same⟩ := Stylesheet.parseAt_render wellFormed steady fileToo offsetToo layout
  exact ⟨errors, Stylesheet.render_eq_of_bare same layout⟩

/-- An import, and a url whose target needs quotes and has double quotes in it. -/
def iconSource : Text :=
  ("@import \"base.css\" print; ".toList ++
    ".icon \x7b background: url('data:image/svg+xml,<svg class=\"dot\"/>') center; \x7d".toList)

theorem render_stable_icon :
    let read := Stylesheet.parse [] iconSource
    (Plain (lexemes iconSource) ∧ read.errors = [] ∧ SteadyStatements read.tree.statements) ∧
      ∀ layout,
        let written := read.tree.render layout
        (Stylesheet.parse [] written).errors = [] ∧
          (Stylesheet.parse [] written).tree.render layout = written := by
  have plain : Plain (lexemes iconSource) := plain_of_no_slash (by decide +kernel)
  have quiet : (Stylesheet.parse [] iconSource).errors = [] := by decide +kernel
  have steady : SteadyStatements (Stylesheet.parse [] iconSource).tree.statements := by
    decide +kernel
  exact ⟨⟨plain, quiet, steady⟩, fun layout =>
    Stylesheet.render_stable plain quiet steady layout _ 0⟩

/-- A double quote in the target of an import ends its written form too early. -/
theorem not_stable_quotedImport :
    let read := Stylesheet.parse [] "@import 'a\"b.css';".toList
    read.errors = [] ∧ ∀ layout,
      let written := read.tree.render layout
      (Stylesheet.parse [] written).errors ≠ [] ∧
        (Stylesheet.parse [] written).tree.render layout ≠ written := by
  refine ⟨by decide +kernel, fun layout => ?_⟩
  cases layout <;> decide +kernel

end Stable

end ComponentStyles
