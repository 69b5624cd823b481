import ComponentStyles.Scope.Names

/-!
# Parts of a stylesheet

What stands in a stylesheet, at whatever depth: the statements in the conditional groups, and the
simple selectors in the arguments of others. The walks over a stylesheet pass all of them.
-/

namespace ComponentStyles

/-- A statement that is listed or that stands in a conditional group, at whatever depth. -/
inductive Statement.Within : Statement → List Statement → Prop where
  | listed {statement : Statement} {statements : List Statement} (listed : statement ∈ statements) :
      Within statement statements
  | inside {statement : Statement} {statements inner : List Statement} {name condition : Text}
      {span : Span} (around : .conditional name condition inner span ∈ statements)
      (inside : Within statement inner) : Within statement statements

/-- A simple selector in a list of selectors or in an argument of one in it, at whatever depth. -/
inductive SimpleSelector.Within : SimpleSelector → List Selector → Prop where
  | part {simple : SimpleSelector} {list : List Selector} {parts : List SelectorPart} {span : Span}
      {combinator : Combinator} (listed : .mk parts span ∈ list)
      (part : .mk combinator simple ∈ parts) : Within simple list
  | inside {simple : SimpleSelector} {list inner : List Selector} {form : PseudoForm} {name : Text}
      {innerSpan span : Span} (around : Within (.pseudo form name (.selectors inner innerSpan) span) list)
      (inside : Within simple inner) : Within simple list

/-- The class or id name that a simple selector stands for. -/
def SimpleSelector.name? : SimpleSelector → Option (NameKind × Text)
  | .byClass name _ => some (.ofClass, name)
  | .byId name _ => some (.ofId, name)
  | _ => none

/-- A rule of the stylesheet selects on the name, at whatever depth. -/
def Stylesheet.SelectsOn (sheet : Stylesheet) (kind : NameKind) (name : Text) : Prop :=
  ∃ (selectors : SelectorList) (block : Block) (span : Span) (simple : SimpleSelector),
    (Statement.rule selectors block span).Within sheet.statements ∧
      simple.Within selectors.selectors ∧ simple.name? = some (kind, name)

section Statements

theorem Statement.Within.mono {statement : Statement} {statements others : List Statement}
    (within : statement.Within statements) (more : statements ⊆ others) : statement.Within others := by
  cases within with
  | listed listed => exact .listed (more listed)
  | inside around inside => exact .inside (more around) inside

mutual

theorem Statement.exists_within_of_mem_selectorLists {list : SelectorList} :
    ∀ {statement : Statement}, list ∈ statement.selectorLists →
      ∃ block span, (Statement.rule list block span).Within [statement]
  | .rule _ block span, listed => by
      obtain rfl := List.mem_singleton.mp listed
      exact ⟨block, span, .listed List.mem_cons_self⟩
  | .conditional _ _ _ _, listed => by
      obtain ⟨block, span, within⟩ := exists_within_of_mem_selectorListsOf listed
      exact ⟨block, span, .inside List.mem_cons_self within⟩
  | .definition _, listed | .importing _ _ _, listed | .atRule _ _ _ _, listed
  | .comment _ _, listed => nomatch listed

theorem exists_within_of_mem_selectorListsOf {list : SelectorList} :
    ∀ {statements : List Statement}, list ∈ selectorListsOf statements →
      ∃ block span, (Statement.rule list block span).Within statements
  | statement :: rest, listed => by
      rcases List.mem_append.mp listed with first | later
      · obtain ⟨block, span, within⟩ := statement.exists_within_of_mem_selectorLists first
        exact ⟨block, span, within.mono (List.cons_subset_cons _ (List.nil_subset _))⟩
      · obtain ⟨block, span, within⟩ := exists_within_of_mem_selectorListsOf later
        exact ⟨block, span, within.mono (List.subset_cons_self _ _)⟩

end

theorem mem_selectorListsOf_of_mem {list : SelectorList} {statement : Statement}
    {statements : List Statement} (listed : statement ∈ statements)
    (inside : list ∈ statement.selectorLists) : list ∈ selectorListsOf statements := by
  induction statements with
  | nil => cases listed
  | cons first rest inductionHypothesis =>
      rcases List.mem_cons.mp listed with rfl | later
      · exact List.mem_append_left _ inside
      · exact List.mem_append_right _ (inductionHypothesis later)

/-- The walk over the rules passes those at whatever depth. -/
theorem mem_selectorListsOf_iff {list : SelectorList} {statements : List Statement} :
    list ∈ selectorListsOf statements ↔
      ∃ block span, (Statement.rule list block span).Within statements := by
  refine ⟨exists_within_of_mem_selectorListsOf, ?_⟩
  rintro ⟨block, span, within⟩
  induction within with
  | listed listed => exact mem_selectorListsOf_of_mem listed (List.mem_singleton.mpr rfl)
  | inside around _ inductionHypothesis =>
      exact mem_selectorListsOf_of_mem around inductionHypothesis

end Statements

section Selectors

variable {entry : NameKind × Text}

theorem SimpleSelector.Within.mono {simple : SimpleSelector} {list others : List Selector}
    (within : simple.Within list) (more : list ⊆ others) : simple.Within others := by
  induction within generalizing others with
  | part listed part => exact .part (more listed) part
  | inside _ inside around _ => exact .inside (around more) inside

theorem SimpleSelector.mem_names_of_name? {simple : SimpleSelector} (named : simple.name? = some entry) :
    entry ∈ simple.names := by
  cases simple with
  | byClass | byId =>
      obtain rfl := Option.some.inj named
      exact List.mem_singleton.mpr rfl
  | _ => cases named

theorem mem_namesOfParts_of_mem {combinator : Combinator} {simple : SimpleSelector}
    {parts : List SelectorPart} (part : .mk combinator simple ∈ parts) (listed : entry ∈ simple.names) :
    entry ∈ namesOfParts parts := by
  induction parts with
  | nil => cases part
  | cons first rest inductionHypothesis =>
      obtain ⟨_, other⟩ := first
      rcases List.mem_cons.mp part with same | later
      · obtain ⟨-, rfl⟩ := SelectorPart.mk.inj same
        exact List.mem_append_left _ listed
      · exact List.mem_append_right _ (inductionHypothesis later)

theorem mem_namesOfSelectors_of_mem {parts : List SelectorPart} {span : Span} {list : List Selector}
    (member : .mk parts span ∈ list) (listed : entry ∈ namesOfParts parts) :
    entry ∈ namesOfSelectors list := by
  induction list with
  | nil => cases member
  | cons first rest inductionHypothesis =>
      obtain ⟨others, _⟩ := first
      rcases List.mem_cons.mp member with same | later
      · obtain ⟨rfl, -⟩ := Selector.mk.inj same
        exact List.mem_append_left _ listed
      · exact List.mem_append_right _ (inductionHypothesis later)

theorem SimpleSelector.Within.mem_namesOfSelectors {simple : SimpleSelector} {list : List Selector}
    (within : simple.Within list) (listed : entry ∈ simple.names) : entry ∈ namesOfSelectors list := by
  induction within with
  | part member part => exact mem_namesOfSelectors_of_mem member (mem_namesOfParts_of_mem part listed)
  | inside _ _ around inside => exact around (inside listed)

mutual

theorem SimpleSelector.exists_within_of_mem_names : ∀ {simple : SimpleSelector},
    entry ∈ simple.names → simple.name? = some entry ∨
      ∃ form name inner innerSpan span, simple = .pseudo form name (.selectors inner innerSpan) span ∧
        ∃ named : SimpleSelector, named.Within inner ∧ named.name? = some entry
  | .byClass _ _, listed | .byId _ _, listed => .inl (congrArg some (List.mem_singleton.mp listed).symm)
  | .pseudo _ _ (.selectors _ _) _, listed =>
      .inr ⟨_, _, _, _, _, rfl, exists_within_of_mem_namesOfSelectors listed⟩
  | .pseudo _ _ .absent _, listed | .pseudo _ _ (.raw _) _, listed | .universal _, listed
  | .element _ _, listed | .attribute _ _, listed => nomatch listed

theorem exists_within_of_mem_namesOfSelectors : ∀ {list : List Selector},
    entry ∈ namesOfSelectors list →
      ∃ named : SimpleSelector, named.Within list ∧ named.name? = some entry
  | .mk parts span :: rest, listed => by
      rcases List.mem_append.mp listed with first | later
      · obtain ⟨combinator, simple, part, inside⟩ := exists_part_of_mem_namesOfParts first
        have here : simple.Within (.mk parts span :: rest) := .part List.mem_cons_self part
        rcases inside with named | ⟨form, name, inner, innerSpan, span, rfl, named, within, same⟩
        · exact ⟨simple, here, named⟩
        · exact ⟨named, .inside here within, same⟩
      · obtain ⟨named, within, same⟩ := exists_within_of_mem_namesOfSelectors later
        exact ⟨named, within.mono (List.subset_cons_self _ _), same⟩

theorem exists_part_of_mem_namesOfParts : ∀ {parts : List SelectorPart},
    entry ∈ namesOfParts parts → ∃ combinator simple, .mk combinator simple ∈ parts ∧
      (simple.name? = some entry ∨
        ∃ form name inner innerSpan span, simple = .pseudo form name (.selectors inner innerSpan) span ∧
          ∃ named : SimpleSelector, named.Within inner ∧ named.name? = some entry)
  | .mk combinator simple :: rest, listed => by
      rcases List.mem_append.mp listed with first | later
      · exact ⟨combinator, simple, List.mem_cons_self, simple.exists_within_of_mem_names first⟩
      · obtain ⟨combinator, simple, part, inside⟩ := exists_part_of_mem_namesOfParts later
        exact ⟨combinator, simple, List.mem_cons_of_mem _ part, inside⟩

end

end Selectors

/-- The walk over the names passes those at whatever depth. -/
theorem Stylesheet.mem_names_iff {sheet : Stylesheet} {kind : NameKind} {name : Text} :
    (kind, name) ∈ sheet.names ↔ sheet.SelectsOn kind name := by
  rw [names, List.mem_flatMap]
  constructor
  · rintro ⟨list, listed, inside⟩
    obtain ⟨block, span, rule⟩ := mem_selectorListsOf_iff.mp listed
    obtain ⟨simple, within, named⟩ := exists_within_of_mem_namesOfSelectors inside
    exact ⟨list, block, span, simple, rule, within, named⟩
  · rintro ⟨list, block, span, simple, rule, within, named⟩
    exact ⟨list, mem_selectorListsOf_iff.mpr ⟨block, span, rule⟩,
      within.mem_namesOfSelectors (SimpleSelector.mem_names_of_name? named)⟩

end ComponentStyles
