import ComponentStyles.Proofs.Stylesheet.Stability

/-!
# What stands between written terms

The tree of a value does not tell how far apart its terms stand in the source. So the written form puts
one blank between two terms that are no separators, also where they touch in the source: a number with
an exponent, which is read as two terms, is written as two.
-/

namespace ComponentStyles

/-- A row of terms inside a term: the arguments of a call, at whatever depth. -/
inductive Term.Holds : Term → List Term → Prop where
  | arguments {name : Text} {arguments : List Term} {argumentsSpan span : Span} :
      Holds (.call name arguments argumentsSpan span) arguments
  | inside {name : Text} {arguments value : List Term} {argumentsSpan span : Span} {term : Term}
      (listed : term ∈ arguments) (held : Holds term value) :
      Holds (.call name arguments argumentsSpan span) value
  | fallback {name : Text} {fallback : Term} {span : Span} {value : List Term}
      (held : Holds fallback value) : Holds (.usage name (some fallback) span) value

/-- A row of terms in a stylesheet: the value of an entry, or a row inside one of its terms. -/
def Stylesheet.Holds (sheet : Stylesheet) (value : List Term) : Prop :=
  ∃ item ∈ sheet.items, value = item.terms ∨ ∃ term ∈ item.terms, term.Holds value

variable {terms value before after : List Term} {first second term : Term} {layout : Layout}

section Terms

theorem exists_renderTerms_mem (due : Bool) (listed : term ∈ terms) :
    ∃ front back, renderTerms due terms = front ++ (term.render ++ back) := by
  induction terms generalizing due with
  | nil => cases listed
  | cons head rest inductionHypothesis =>
      by_cases operator : ∃ op span, head = .operator op span
      · obtain ⟨op, span, rfl⟩ := operator
        rcases List.mem_cons.mp listed with rfl | later
        · exact ⟨[], renderTerms (op != .slash) rest, rfl⟩
        · obtain ⟨front, back, whole⟩ := inductionHypothesis (op != .slash) later
          exact ⟨op.char :: front, back, congrArg (op.char :: ·) whole⟩
      · have plain : ∀ op span, head ≠ .operator op span :=
          fun op span same => operator ⟨op, span, same⟩
        rw [renderTerms_cons plain]
        rcases List.mem_cons.mp listed with rfl | later
        · exact ⟨_, _, List.append_assoc _ _ _⟩
        · obtain ⟨front, back, whole⟩ := inductionHypothesis true later
          rw [whole]
          exact ⟨_, back, (List.append_assoc _ _ _).symm⟩

/-- A row inside a term is written inside its written form. -/
theorem Term.Holds.renderTerms_infix (held : term.Holds value) :
    renderTerms false value <:+: term.render := by
  induction held with
  | @arguments name arguments _ _ =>
      rw [Term.render_call]
      exact ⟨name ++ ['('], [')'], by simp⟩
  | @inside name arguments _ _ _ term listed _ inductionHypothesis =>
      obtain ⟨front, back, whole⟩ := exists_renderTerms_mem false listed
      refine inductionHypothesis.trans ?_
      rw [Term.render_call, whole]
      exact ⟨name ++ '(' :: front, back ++ [')'], by simp⟩
  | @fallback name fallback _ _ _ inductionHypothesis =>
      rw [Term.render_usage_some]
      exact inductionHypothesis.trans ⟨"var(".toList ++ name ++ ", ".toList, [')'], by simp⟩

end Terms

section Statements

variable {item : Item} {statement : Statement} {statements : List Statement}

/-- A part of a text is a part of any longer one. -/
theorem Text.infix_around {part text : Text} (inside : part <:+: text) (front back : Text) :
    part <:+: front ++ text ++ back :=
  inside.trans (List.infix_append front text back)

theorem Text.infix_join {text separator : Text} {texts : List Text} (listed : text ∈ texts) :
    text <:+: Text.join separator texts := by
  induction texts with
  | nil => cases listed
  | cons first rest inductionHypothesis =>
      by_cases last : rest = []
      · obtain rfl : text = first := by simpa [last] using listed
        have alone : Text.join separator (text :: rest) = text := by
          rw [last, Text.join, List.intercalate_singleton]
        exact alone.symm ▸ List.infix_refl text
      · rw [Text.join, List.intercalate_cons_of_ne_nil last]
        rcases List.mem_cons.mp listed with rfl | later
        · exact (List.prefix_append _ _).isInfix.trans (List.prefix_append _ _).isInfix
        · exact (inductionHypothesis later).trans (List.suffix_append _ _).isInfix

theorem Definition.renderTerms_infix (d : Definition) :
    renderTerms false d.value.terms <:+: d.render :=
  Text.infix_around (List.infix_refl _) _ _

theorem Item.exists_render? (filled : item.terms ≠ []) :
    ∃ text, item.render? = some text ∧ renderTerms false item.terms <:+: text := by
  cases item with
  | declaration d =>
      refine ⟨d.render, if_neg (by simpa [Item.terms] using filled), ?_⟩
      exact Text.infix_around (List.infix_refl _) _ _
  | definition d => exact ⟨d.render, rfl, d.renderTerms_infix⟩

theorem Block.renderTerms_infix {block : Block} (layout : Layout) (depth : Nat)
    (listed : item ∈ block.items) (filled : item.terms ≠ []) :
    renderTerms false item.terms <:+: block.render layout depth := by
  obtain ⟨text, written, inside⟩ := Item.exists_render? filled
  have member : text ∈ block.items.filterMap Item.render? :=
    List.mem_filterMap.mpr ⟨item, listed, written⟩
  have entry : layout.separator (depth + 1) ++ text <:+: (block.items.filterMap Item.render?).flatMap
      (layout.separator (depth + 1) ++ ·) :=
    List.infix_of_mem_flatten (List.mem_map_of_mem member)
  rw [Block.render, List.append_assoc _ (layout.separator depth)]
  exact Text.infix_around ((inside.trans (List.suffix_append _ _).isInfix).trans entry) _ _

mutual

theorem Statement.renderTerms_infix (layout : Layout) : ∀ (depth : Nat) {statement : Statement},
    item ∈ statement.items → item.terms ≠ [] →
      renderTerms false item.terms <:+: statement.render layout depth
  | depth, .rule _ block _, listed, filled =>
      (block.renderTerms_infix layout depth listed filled).trans (List.suffix_append _ _).isInfix
  | _, .definition d, listed, _ => by
      obtain rfl := List.mem_singleton.mp listed
      exact d.renderTerms_infix
  | depth, .conditional name condition statements span, listed, filled => by
      have inside := renderTerms_infix_renderStatements layout (depth + 1) listed filled
      have whole : (Statement.conditional name condition statements span).render layout depth =
          renderAtHead name condition ++ " \x7b".toList ++
            renderStatements layout (depth + 1) statements ++
              (layout.separator depth ++ ['\x7d']) :=
        List.append_assoc _ _ _
      rw [whole]
      exact Text.infix_around inside _ _
  | depth, .atRule _ _ (some (.declarations block)) _, listed, filled =>
      (block.renderTerms_infix layout depth listed filled).trans (List.suffix_append _ _).isInfix
  | _, .atRule _ _ none _, listed, _ | _, .atRule _ _ (some (.raw _)) _, listed, _
  | _, .importing _ _ _, listed, _ | _, .comment _ _, listed, _ => nomatch listed

theorem renderTerms_infix_renderStatements (layout : Layout) :
    ∀ (depth : Nat) {statements : List Statement}, item ∈ itemsOf statements → item.terms ≠ [] →
      renderTerms false item.terms <:+: renderStatements layout depth statements
  | depth, statement :: rest, listed, filled => by
      rw [renderStatements]
      rcases List.mem_append.mp listed with first | later
      · exact Text.infix_around (statement.renderTerms_infix layout depth first filled) _ _
      · exact (renderTerms_infix_renderStatements layout depth later filled).trans
          (List.suffix_append _ _).isInfix

end

theorem exists_mem_of_mem_itemsOf (listed : item ∈ itemsOf statements) :
    ∃ statement ∈ statements, item ∈ statement.items := by
  induction statements with
  | nil => cases listed
  | cons first rest inductionHypothesis =>
      rcases List.mem_append.mp listed with here | later
      · exact ⟨first, List.mem_cons_self, here⟩
      · obtain ⟨statement, member, inside⟩ := inductionHypothesis later
        exact ⟨statement, List.mem_cons_of_mem _ member, inside⟩

end Statements

namespace Stylesheet

variable {sheet : Stylesheet}

theorem Holds.renderTerms_infix (held : sheet.Holds value) (filled : value ≠ []) (layout : Layout) :
    renderTerms false value <:+: sheet.render layout := by
  obtain ⟨item, listed, inItem⟩ := held
  obtain ⟨statement, member, inside⟩ := exists_mem_of_mem_itemsOf listed
  have written : statement.render layout 0 <:+: sheet.render layout :=
    Text.infix_join (List.mem_map_of_mem member)
  rcases inItem with rfl | ⟨term, listed, held⟩
  · exact (statement.renderTerms_infix layout 0 inside filled).trans written
  · obtain ⟨front, back, whole⟩ := exists_renderTerms_mem false listed
    have notEmpty : item.terms ≠ [] := List.ne_nil_of_mem listed
    have inValue : term.render <:+: renderTerms false item.terms := by
      rw [whole]
      exact List.infix_append' front _ back
    exact ((held.renderTerms_infix.trans inValue).trans
      (statement.renderTerms_infix layout 0 inside notEmpty)).trans written

end Stylesheet

end ComponentStyles
