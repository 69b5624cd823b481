import ComponentStyles.Proofs.Stylesheet.Reread.Usages

/-!
# What changing a stylesheet in place keeps

Changing the terms of the entries leaves the selectors alone, changing selectors leaves the entries
alone, and dropping definitions leaves all other entries. None of them touches a kept text, and a
change that keeps terms or selectors well-formed keeps the whole tree so.
-/

namespace ComponentStyles

section Terms

variable {onDeclaration onDefinition : List Term → List Term}

mutual

theorem Statement.items_mapTerms : ∀ statement : Statement,
    (statement.mapTerms onDeclaration onDefinition).items =
      statement.items.map (Item.mapTerms onDeclaration onDefinition)
  | .rule _ _ _ => rfl
  | .definition _ => rfl
  | .importing _ _ _ => rfl
  | .conditional _ _ statements _ => itemsOf_mapTermsOf statements
  | .atRule _ _ none _ => rfl
  | .atRule _ _ (some (.declarations _)) _ => rfl
  | .atRule _ _ (some (.raw _)) _ => rfl
  | .comment _ _ => rfl

theorem itemsOf_mapTermsOf : ∀ statements : List Statement,
    itemsOf (mapTermsOf onDeclaration onDefinition statements) =
      (itemsOf statements).map (Item.mapTerms onDeclaration onDefinition)
  | [] => rfl
  | statement :: rest => by
      rw [mapTermsOf, itemsOf, itemsOf, List.map_append, statement.items_mapTerms,
        itemsOf_mapTermsOf rest]

end

mutual

theorem Statement.selectorLists_mapTerms : ∀ statement : Statement,
    (statement.mapTerms onDeclaration onDefinition).selectorLists = statement.selectorLists
  | .rule _ _ _ => rfl
  | .definition _ => rfl
  | .importing _ _ _ => rfl
  | .conditional _ _ statements _ => selectorListsOf_mapTermsOf statements
  | .atRule _ _ none _ => rfl
  | .atRule _ _ (some (.declarations _)) _ => rfl
  | .atRule _ _ (some (.raw _)) _ => rfl
  | .comment _ _ => rfl

theorem selectorListsOf_mapTermsOf : ∀ statements : List Statement,
    selectorListsOf (mapTermsOf onDeclaration onDefinition statements) =
      selectorListsOf statements
  | [] => rfl
  | statement :: rest => by
      rw [mapTermsOf, selectorListsOf, selectorListsOf, statement.selectorLists_mapTerms,
        selectorListsOf_mapTermsOf rest]

end

mutual

theorem Statement.keptTexts_mapTerms : ∀ statement : Statement,
    (statement.mapTerms onDeclaration onDefinition).keptTexts = statement.keptTexts
  | .rule _ _ _ => rfl
  | .definition _ => rfl
  | .importing _ _ _ => rfl
  | .conditional _ condition statements _ =>
      congrArg (condition :: ·) (keptTextsOf_mapTermsOf statements)
  | .atRule _ _ none _ => rfl
  | .atRule _ _ (some (.declarations _)) _ => rfl
  | .atRule _ _ (some (.raw _)) _ => rfl
  | .comment _ _ => rfl

theorem keptTextsOf_mapTermsOf : ∀ statements : List Statement,
    keptTextsOf (mapTermsOf onDeclaration onDefinition statements) = keptTextsOf statements
  | [] => rfl
  | statement :: rest => by
      rw [mapTermsOf, keptTextsOf, keptTextsOf, statement.keptTexts_mapTerms,
        keptTextsOf_mapTermsOf rest]

end

section WellFormed

/-- A change that keeps terms well-formed. -/
def KeepsWellFormed (change : List Term → List Term) : Prop :=
  ∀ terms, WellFormedTerms terms → WellFormedTerms (change terms)

theorem Item.WellFormed.mapTerms (declarations : KeepsWellFormed onDeclaration)
    (definitions : KeepsWellFormed onDefinition) {item : Item} (wellFormed : item.WellFormed) :
    (item.mapTerms onDeclaration onDefinition).WellFormed := by
  cases item with
  | declaration d => exact ⟨wellFormed.1, declarations _ wellFormed.2⟩
  | definition d => exact ⟨wellFormed.1, definitions _ wellFormed.2⟩

theorem Block.WellFormed.mapTerms (declarations : KeepsWellFormed onDeclaration)
    (definitions : KeepsWellFormed onDefinition) {block : Block} (wellFormed : block.WellFormed) :
    (block.mapTerms onDeclaration onDefinition).WellFormed := by
  intro item listed
  obtain ⟨before, listedBefore, rfl⟩ := List.mem_map.mp listed
  exact (wellFormed before listedBefore).mapTerms declarations definitions

mutual

theorem Statement.WellFormed.mapTerms (declarations : KeepsWellFormed onDeclaration)
    (definitions : KeepsWellFormed onDefinition) : ∀ {statement : Statement},
    statement.WellFormed → (statement.mapTerms onDeclaration onDefinition).WellFormed
  | .rule _ _ _, ⟨selectors, block⟩ => ⟨selectors, block.mapTerms declarations definitions⟩
  | .definition _, ⟨form, notReserved, names, terms⟩ =>
      ⟨form, notReserved, names, definitions _ terms⟩
  | .importing _ _ _, media => media
  | .conditional _ _ _ _, ⟨isKeyword, conditional, kept, inside⟩ =>
      ⟨isKeyword, conditional, kept,
        wellFormedStatements_mapTermsOf declarations definitions inside⟩
  | .atRule _ _ none _, wellFormed => wellFormed
  | .atRule _ _ (some (.declarations _)) _, ⟨isKeyword, notImport, kept, definesNothing, body⟩ => by
      refine ⟨isKeyword, notImport, kept, definesNothing, ?_⟩
      rintro _ ⟨⟩
      obtain ⟨notConditional, holdsDeclarations, block⟩ := body _ rfl
      exact ⟨notConditional, holdsDeclarations, block.mapTerms declarations definitions⟩
  | .atRule _ _ (some (.raw _)) _, wellFormed => wellFormed
  | .comment _ _, isComment => isComment

theorem wellFormedStatements_mapTermsOf (declarations : KeepsWellFormed onDeclaration)
    (definitions : KeepsWellFormed onDefinition) : ∀ {statements : List Statement},
    WellFormedStatements statements →
      WellFormedStatements (mapTermsOf onDeclaration onDefinition statements)
  | [], _ => trivial
  | _ :: _, ⟨wellFormed, wellFormedToo⟩ =>
      ⟨wellFormed.mapTerms declarations definitions,
        wellFormedStatements_mapTermsOf declarations definitions wellFormedToo⟩

end

end WellFormed

end Terms

section Append

variable (statements others : List Statement)

theorem itemsOf_append : itemsOf (statements ++ others) = itemsOf statements ++ itemsOf others := by
  induction statements with
  | nil => rfl
  | cons statement rest inductionHypothesis =>
      rw [List.cons_append, itemsOf, itemsOf, inductionHypothesis, List.append_assoc]

theorem keptTextsOf_append :
    keptTextsOf (statements ++ others) = keptTextsOf statements ++ keptTextsOf others := by
  induction statements with
  | nil => rfl
  | cons statement rest inductionHypothesis =>
      rw [List.cons_append, keptTextsOf, keptTextsOf, inductionHypothesis, List.append_assoc]

end Append

section Definitions

mutual

theorem Statement.items_withoutDefinitions : ∀ statement : Statement,
    itemsOf statement.withoutDefinitions?.toList =
      statement.items.filter fun item => item.definition?.isNone
  | .rule _ _ _ => List.append_nil _
  | .definition _ => rfl
  | .importing _ _ _ => rfl
  | .conditional _ _ statements _ =>
      (List.append_nil _).trans (itemsOf_withoutDefinitionsOf statements)
  | .atRule _ _ none _ => rfl
  | .atRule _ _ (some (.declarations _)) _ => List.append_nil _
  | .atRule _ _ (some (.raw _)) _ => rfl
  | .comment _ _ => rfl

theorem itemsOf_withoutDefinitionsOf : ∀ statements : List Statement,
    itemsOf (withoutDefinitionsOf statements) =
      (itemsOf statements).filter fun item => item.definition?.isNone
  | [] => rfl
  | statement :: rest => by
      rw [withoutDefinitionsOf, itemsOf_append, itemsOf, List.filter_append,
        statement.items_withoutDefinitions, itemsOf_withoutDefinitionsOf rest]

end

mutual

theorem Statement.selectorLists_withoutDefinitions : ∀ statement : Statement,
    selectorListsOf statement.withoutDefinitions?.toList = statement.selectorLists
  | .rule _ _ _ => rfl
  | .definition _ => rfl
  | .importing _ _ _ => rfl
  | .conditional _ _ statements _ =>
      (List.append_nil _).trans (selectorListsOf_withoutDefinitionsOf statements)
  | .atRule _ _ none _ => rfl
  | .atRule _ _ (some (.declarations _)) _ => rfl
  | .atRule _ _ (some (.raw _)) _ => rfl
  | .comment _ _ => rfl

theorem selectorListsOf_withoutDefinitionsOf : ∀ statements : List Statement,
    selectorListsOf (withoutDefinitionsOf statements) = selectorListsOf statements
  | [] => rfl
  | statement :: rest => by
      rw [withoutDefinitionsOf, selectorListsOf_append, selectorListsOf,
        statement.selectorLists_withoutDefinitions, selectorListsOf_withoutDefinitionsOf rest]

end

mutual

theorem Statement.keptTexts_withoutDefinitions : ∀ statement : Statement,
    keptTextsOf statement.withoutDefinitions?.toList = statement.keptTexts
  | .rule _ _ _ => List.append_nil _
  | .definition _ => rfl
  | .importing _ _ _ => List.append_nil _
  | .conditional _ condition statements _ =>
      (List.append_nil _).trans
        (congrArg (condition :: ·) (keptTextsOf_withoutDefinitionsOf statements))
  | .atRule _ _ none _ => rfl
  | .atRule _ _ (some (.declarations _)) _ => rfl
  | .atRule _ _ (some (.raw _)) _ => rfl
  | .comment _ _ => rfl

theorem keptTextsOf_withoutDefinitionsOf : ∀ statements : List Statement,
    keptTextsOf (withoutDefinitionsOf statements) = keptTextsOf statements
  | [] => rfl
  | statement :: rest => by
      rw [withoutDefinitionsOf, keptTextsOf_append, keptTextsOf,
        statement.keptTexts_withoutDefinitions, keptTextsOf_withoutDefinitionsOf rest]

end

theorem Block.WellFormed.withoutDefinitions {block : Block} (wellFormed : block.WellFormed) :
    block.withoutDefinitions.WellFormed :=
  fun item listed => wellFormed item (List.mem_filter.mp listed).1

mutual

theorem Statement.WellFormed.withoutDefinitions : ∀ {statement : Statement}, statement.WellFormed →
    WellFormedStatements statement.withoutDefinitions?.toList
  | .rule _ _ _, ⟨selectors, block⟩ => ⟨⟨selectors, block.withoutDefinitions⟩, trivial⟩
  | .definition _, _ => trivial
  | .importing _ _ _, media => ⟨media, trivial⟩
  | .conditional _ _ _ _, ⟨isKeyword, conditional, kept, inside⟩ =>
      ⟨⟨isKeyword, conditional, kept, wellFormedStatements_withoutDefinitionsOf inside⟩, trivial⟩
  | .atRule _ _ none _, wellFormed => ⟨wellFormed, trivial⟩
  | .atRule _ _ (some (.declarations _)) _, ⟨isKeyword, notImport, kept, definesNothing, body⟩ => by
      refine ⟨⟨isKeyword, notImport, kept, definesNothing, ?_⟩, trivial⟩
      rintro _ ⟨⟩
      obtain ⟨notConditional, holdsDeclarations, block⟩ := body _ rfl
      exact ⟨notConditional, holdsDeclarations, block.withoutDefinitions⟩
  | .atRule _ _ (some (.raw _)) _, wellFormed => ⟨wellFormed, trivial⟩
  | .comment _ _, isComment => ⟨isComment, trivial⟩

theorem wellFormedStatements_withoutDefinitionsOf : ∀ {statements : List Statement},
    WellFormedStatements statements → WellFormedStatements (withoutDefinitionsOf statements)
  | [], _ => trivial
  | _ :: _, ⟨wellFormed, wellFormedToo⟩ =>
      Cursor.wellFormedStatements_append.mpr
        ⟨wellFormed.withoutDefinitions, wellFormedStatements_withoutDefinitionsOf wellFormedToo⟩

end

end Definitions

section Selectors

variable {change : SelectorList → SelectorList}

mutual

theorem Statement.items_mapSelectors : ∀ statement : Statement,
    (statement.mapSelectors change).items = statement.items
  | .rule _ _ _ => rfl
  | .definition _ => rfl
  | .importing _ _ _ => rfl
  | .conditional _ _ statements _ => itemsOf_mapSelectorsOf statements
  | .atRule _ _ _ _ => rfl
  | .comment _ _ => rfl

theorem itemsOf_mapSelectorsOf : ∀ statements : List Statement,
    itemsOf (mapSelectorsOf change statements) = itemsOf statements
  | [] => rfl
  | statement :: rest => by
      rw [mapSelectorsOf, itemsOf, itemsOf, statement.items_mapSelectors,
        itemsOf_mapSelectorsOf rest]

end

mutual

theorem Statement.keptTexts_mapSelectors
    (same : ∀ list, keptTextsOfSelectors (change list).selectors =
      keptTextsOfSelectors list.selectors) : ∀ statement : Statement,
    (statement.mapSelectors change).keptTexts = statement.keptTexts
  | .rule selectors _ _ => same selectors
  | .definition _ => rfl
  | .importing _ _ _ => rfl
  | .conditional _ condition statements _ =>
      congrArg (condition :: ·) (keptTextsOf_mapSelectorsOf same statements)
  | .atRule _ _ _ _ => rfl
  | .comment _ _ => rfl

theorem keptTextsOf_mapSelectorsOf
    (same : ∀ list, keptTextsOfSelectors (change list).selectors =
      keptTextsOfSelectors list.selectors) : ∀ statements : List Statement,
    keptTextsOf (mapSelectorsOf change statements) = keptTextsOf statements
  | [] => rfl
  | statement :: rest => by
      rw [mapSelectorsOf, keptTextsOf, keptTextsOf, statement.keptTexts_mapSelectors same,
        keptTextsOf_mapSelectorsOf same rest]

end

mutual

theorem Statement.WellFormed.mapSelectors : ∀ {statement : Statement}, statement.WellFormed →
    (∀ list ∈ statement.selectorLists, list.WellFormed → (change list).WellFormed) →
      (statement.mapSelectors change).WellFormed
  | .rule _ _ _, ⟨selectors, block⟩, keeps => ⟨keeps _ (List.mem_singleton_self _) selectors, block⟩
  | .definition _, wellFormed, _ => wellFormed
  | .importing _ _ _, media, _ => media
  | .conditional _ _ _ _, ⟨isKeyword, conditional, kept, inside⟩, keeps =>
      ⟨isKeyword, conditional, kept, wellFormedStatements_mapSelectorsOf inside keeps⟩
  | .atRule _ _ _ _, wellFormed, _ => wellFormed
  | .comment _ _, isComment, _ => isComment

theorem wellFormedStatements_mapSelectorsOf : ∀ {statements : List Statement},
    WellFormedStatements statements →
      (∀ list ∈ selectorListsOf statements, list.WellFormed → (change list).WellFormed) →
        WellFormedStatements (mapSelectorsOf change statements)
  | [], _, _ => trivial
  | _ :: _, ⟨wellFormed, wellFormedToo⟩, keeps => by
      rw [selectorListsOf, List.forall_mem_append] at keeps
      exact ⟨wellFormed.mapSelectors keeps.1, wellFormedStatements_mapSelectorsOf wellFormedToo keeps.2⟩

end

end Selectors

section Bare

mutual

theorem SimpleSelector.keptTexts_bare : ∀ simple : SimpleSelector,
    simple.bare.keptTexts = simple.keptTexts
  | .universal _ => rfl
  | .element _ _ => rfl
  | .byClass _ _ => rfl
  | .byId _ _ => rfl
  | .attribute _ _ => rfl
  | .pseudo _ _ .absent _ => rfl
  | .pseudo _ _ (.raw _) _ => rfl
  | .pseudo _ _ (.selectors list _) _ => keptTextsOfSelectors_bareSelectors list

theorem keptTextsOfSelectors_bareSelectors : ∀ list : List Selector,
    keptTextsOfSelectors (bareSelectors list) = keptTextsOfSelectors list
  | [] => rfl
  | .mk parts _ :: rest => by
      rw [bareSelectors, keptTextsOfSelectors, keptTextsOfSelectors, keptTextsOfParts_bareParts parts,
        keptTextsOfSelectors_bareSelectors rest]

theorem keptTextsOfParts_bareParts : ∀ parts : List SelectorPart,
    keptTextsOfParts (bareParts parts) = keptTextsOfParts parts
  | [] => rfl
  | .mk _ simple :: rest => by
      rw [bareParts, keptTextsOfParts, keptTextsOfParts, simple.keptTexts_bare,
        keptTextsOfParts_bareParts rest]

end

mutual

theorem Statement.keptTexts_bare : ∀ statement : Statement,
    statement.bare.keptTexts = statement.keptTexts
  | .rule selectors _ _ => keptTextsOfSelectors_bareSelectors selectors.selectors
  | .definition _ => rfl
  | .importing _ _ _ => rfl
  | .conditional _ condition statements _ =>
      congrArg (condition :: ·) (keptTextsOf_bareStatements statements)
  | .atRule _ _ none _ => rfl
  | .atRule _ _ (some (.declarations _)) _ => rfl
  | .atRule _ _ (some (.raw _)) _ => rfl
  | .comment _ _ => rfl

theorem keptTextsOf_bareStatements : ∀ statements : List Statement,
    keptTextsOf (bareStatements statements) = keptTextsOf statements
  | [] => rfl
  | statement :: rest => by
      rw [bareStatements, keptTextsOf, keptTextsOf, statement.keptTexts_bare,
        keptTextsOf_bareStatements rest]

end

end Bare

end ComponentStyles
