import ComponentStyles.Proofs.Stylesheet.Reread.Rule

/-!
# Values that are read as they are printed

Terms need not come from a stylesheet. A row of terms is printable when every literal in it is a
single token, every name is a name, and nothing in it is read as something else behind its
neighbour. The value of a declaration that is written with such terms has the same terms again.
-/

namespace ComponentStyles

open Token

section Definitions

/-- The kinds of the tokens that are a literal wherever they stand in a value. -/
def printableKinds : List Kind :=
  [.identifier, .number, .hash, .string, .atKeyword, .colon, .dot, .greater, .plus, .tilde, .star]

mutual

def Term.Printable : Term → Prop
  | .literal text _ => ∃ kind ∈ printableKinds, kind.Spells text
  | .operator _ _ => True
  | .url target _ => '"' ∉ target
  | .call name arguments _ _ =>
      (name = [] ∨ IsFunctionName name) ∧
        (Text.sameLetters name "var".toList = true → StartsCustom arguments) ∧
        PrintableTerms arguments
  | .usage name none _ => IsVariableName name
  | .usage name (some fallback) _ => IsVariableName name ∧ fallback.Printable

def PrintableTerms : List Term → Prop
  | [] => True
  | term :: rest => term.Printable ∧ ¬ OpensComment term rest ∧ PrintableTerms rest

end

mutual

/-- A term without the places of its parts. -/
def Term.detached : Term → Term
  | .literal text _ => .literal text .detached
  | .operator op _ => .operator op .detached
  | .url target _ => .url target .detached
  | .call name arguments _ _ => .call name (detachedTerms arguments) .detached .detached
  | .usage name none _ => .usage name none .detached
  | .usage name (some fallback) _ => .usage name (some fallback.detached) .detached

def detachedTerms : List Term → List Term
  | [] => []
  | term :: rest => term.detached :: detachedTerms rest

end

instance (name : Text) : Decidable (IsVariableName name) :=
  inferInstanceAs (Decidable (_ ∧ _))

instance (name : Text) : Decidable (IsFunctionName name) :=
  inferInstanceAs (Decidable (_ ∧ _))

instance : (terms : List Term) → Decidable (StartsCustom terms)
  | .literal text _ :: _ =>
      inferInstanceAs (Decidable (Kind.identifier.Spells text ∧ Text.startsWith text _ = true))
  | [] | .usage _ _ _ :: _ | .url _ _ :: _ | .call _ _ _ _ :: _ | .operator _ _ :: _ => isFalse id

mutual

def Term.decidablePrintable : (term : Term) → Decidable term.Printable
  | .literal text _ => inferInstanceAs (Decidable (∃ kind ∈ printableKinds, kind.Spells text))
  | .operator _ _ => isTrue trivial
  | .url target _ => inferInstanceAs (Decidable ('"' ∉ target))
  | .call name arguments _ _ =>
      have : Decidable (PrintableTerms arguments) := decidablePrintableTerms arguments
      inferInstanceAs (Decidable ((name = [] ∨ IsFunctionName name) ∧
        (Text.sameLetters name "var".toList = true → StartsCustom arguments) ∧ _))
  | .usage name none _ => inferInstanceAs (Decidable (IsVariableName name))
  | .usage name (some fallback) _ =>
      have : Decidable fallback.Printable := fallback.decidablePrintable
      inferInstanceAs (Decidable (IsVariableName name ∧ _))

def decidablePrintableTerms : (terms : List Term) → Decidable (PrintableTerms terms)
  | [] => isTrue trivial
  | term :: rest =>
      have : Decidable term.Printable := term.decidablePrintable
      have : Decidable (PrintableTerms rest) := decidablePrintableTerms rest
      inferInstanceAs (Decidable (term.Printable ∧ ¬ OpensComment term rest ∧ PrintableTerms rest))

end

instance (terms : List Term) : Decidable (PrintableTerms terms) :=
  decidablePrintableTerms terms

end Definitions

section Terms

theorem Token.Kind.Spells.unique {kind other : Kind} {text : Text} (spells : kind.Spells text)
    (spellsToo : other.Spells text) : kind = other := by
  have same := (Kind.spells_iff_lexemes.mp spells).symm.trans (Kind.spells_iff_lexemes.mp spellsToo)
  simpa using same

/-- No printable token ends the value it stands in. -/
theorem not_ends_of_mem_printableKinds {kind : Kind} {text : Text} (listed : kind ∈ printableKinds)
    (spells : kind.Spells text) : text ∉ [[';'], ['!'], ['\x7d']] := by
  intro ends
  simp only [List.mem_cons, List.not_mem_nil, or_false] at ends
  rcases ends with rfl | rfl | rfl
  · obtain rfl : kind = .semicolon := spells.unique (spells_of_accepts (by rfl))
    simp [printableKinds] at listed
  · obtain rfl : kind = .bang := spells.unique (spells_of_accepts (by rfl))
    simp [printableKinds] at listed
  · obtain rfl : kind = .closeBrace := spells.unique (spells_of_accepts (by rfl))
    simp [printableKinds] at listed

theorem isLiteral_of_mem_printableKinds {kind : Kind} {text : Text} (listed : kind ∈ printableKinds)
    (spells : kind.Spells text) : IsLiteral text := by
  have facts : kind.isLiteral = true ∧ kind ∉ [.invalid, .function] := by
    clear spells
    revert listed
    cases kind <;> decide
  exact ⟨kind, facts.1, spells, tame_of_kind facts.2⟩

mutual

theorem Term.Printable.wellFormed : ∀ {term : Term}, term.Printable → term.WellFormed
  | .literal _ _, ⟨_, listed, spells⟩ => isLiteral_of_mem_printableKinds listed spells
  | .operator _ _, _ => trivial
  | .url _ _, _ => trivial
  | .call _ _ _ _, ⟨isName, custom, arguments⟩ => ⟨isName, custom, arguments.wellFormed⟩
  | .usage _ none _, isName => isName
  | .usage _ (some _) _, ⟨isName, fallback⟩ => ⟨isName, fallback.wellFormed⟩

theorem PrintableTerms.wellFormed : ∀ {terms : List Term}, PrintableTerms terms →
    WellFormedTerms terms
  | [], _ => trivial
  | _ :: _, ⟨first, _, more⟩ => ⟨first.wellFormed, more.wellFormed⟩

end

mutual

theorem Term.Printable.legible : ∀ {term : Term}, term.Printable → term.Legible
  | .literal _ _, ⟨_, listed, spells⟩ => not_ends_of_mem_printableKinds listed spells
  | .operator _ _, _ => trivial
  | .url _ _, plain => plain
  | .call _ _ _ _, ⟨_, _, arguments⟩ => arguments.legible
  | .usage _ none _, _ => trivial
  | .usage _ (some fallback) _, ⟨_, printable⟩ =>
      show fallback.Legible from printable.legible

theorem PrintableTerms.legible : ∀ {terms : List Term}, PrintableTerms terms → LegibleTerms terms
  | [], _ => trivial
  | _ :: _, ⟨first, apart, more⟩ => ⟨first.legible, apart, more.legible⟩

end

/-- Without a double quote a url is written as one. -/
theorem Term.bare_url {target : Text} {span : Span} (plain : '"' ∉ target) :
    (Term.url target span).bare = .url target .detached :=
  if_neg (mt CallsUrl.mem_quote plain)

mutual

theorem Term.Printable.bare_eq : ∀ {term : Term}, term.Printable → term.bare = term.detached
  | .literal _ _, _ => rfl
  | .operator _ _, _ => rfl
  | .url _ _, plain => Term.bare_url plain
  | .call _ _ _ _, ⟨_, _, arguments⟩ => by
      rw [Term.bare, Term.detached, arguments.bare_eq]
  | .usage _ none _, _ => rfl
  | .usage _ (some _) _, ⟨_, fallback⟩ => by
      rw [Term.bare, Term.detached, fallback.bare_eq]

theorem PrintableTerms.bare_eq : ∀ {terms : List Term}, PrintableTerms terms →
    bareTerms terms = detachedTerms terms
  | [], _ => rfl
  | _ :: _, ⟨first, _, more⟩ => by
      rw [bareTerms, detachedTerms, first.bare_eq, more.bare_eq]

end

/-- A url with the bare form of a call would be a call of `url`, which is not printable. -/
theorem bare_url_of_printable {target : Text} {span : Span} {term : Term} (printable : term.Printable)
    (same : (Term.url target span).bare = term.detached) :
    (Term.url target span).bare = .url target .detached := by
  rw [Term.bare] at same ⊢
  split at same
  case isFalse plain => exact if_neg plain
  case isTrue =>
    cases term with
    | call name arguments argumentsSpan span =>
        simp only [Term.detached, Term.call.injEq] at same
        obtain ⟨rfl, -⟩ := same
        obtain ⟨nameless | ⟨-, notUrl⟩, -⟩ := printable
        · exact absurd nameless (by decide)
        · exact absurd notUrl (by decide)
    | usage name fallback span => cases fallback <;> cases same
    | _ => cases same

mutual

theorem Term.Printable.detached_eq : ∀ {found term : Term}, term.Printable →
    found.bare = term.detached → found.detached = term.detached
  | .literal _ _, _, _, same => same
  | .operator _ _, _, _, same => same
  | .usage _ none _, _, _, same => same
  | .url _ _, _, printable, same => (bare_url_of_printable printable same).symm.trans same
  | .call _ _ _ _, term, printable, same => by
      cases term with
      | call name arguments argumentsSpan span =>
          simp only [Term.bare, Term.detached, Term.call.injEq, and_true] at same ⊢
          exact ⟨same.1, printable.2.2.detached_eq same.2⟩
      | usage name fallback span => cases fallback <;> cases same
      | _ => cases same
  | .usage _ (some _) _, term, printable, same => by
      cases term with
      | usage name fallback span =>
          cases fallback with
          | none => cases same
          | some fallback =>
              simp only [Term.bare, Term.detached, Term.usage.injEq, Option.some.injEq,
                and_true] at same ⊢
              exact ⟨same.1, printable.2.detached_eq same.2⟩
      | _ => cases same

theorem PrintableTerms.detached_eq : ∀ {found terms : List Term}, PrintableTerms terms →
    bareTerms found = detachedTerms terms → detachedTerms found = detachedTerms terms
  | [], _, _, same => same
  | _ :: _, [], _, same => by cases same
  | _ :: _, _ :: _, ⟨first, _, more⟩, same => by
      rw [bareTerms, detachedTerms, List.cons.injEq] at same
      rw [detachedTerms, detachedTerms, first.detached_eq same.1, more.detached_eq same.2]

end

end Terms

section Sheet

variable {terms : List Term}

/-- The declaration that is found where one with printable terms is written. -/
theorem exists_declaration_of_bare? {items : List Item} {d : Declaration}
    (proper : d.value.terms ≠ []) (printable : PrintableTerms d.value.terms)
    (same : items.map Item.bare? = ([Item.declaration d].filterMap Item.bare?).map some) :
    ∃ found : Declaration, items = [.declaration found] ∧ found.property = d.property ∧
      found.important = d.important ∧
        detachedTerms found.value.terms = detachedTerms d.value.terms := by
  have isBare : (Item.declaration d).bare? = some (.declaration d.bare) := by
    simp [Item.bare?, proper]
  rw [List.filterMap_cons_some isBare, List.filterMap_nil, List.map_singleton,
    List.map_eq_singleton_iff] at same
  obtain ⟨item, rfl, same⟩ := same
  cases item with
  | definition found => cases same
  | declaration found =>
      rw [Item.bare?] at same
      split at same
      · cases same
      simp only [Option.some.injEq, Item.declaration.injEq, Declaration.bare, Value.bare,
        Declaration.mk.injEq, Value.mk.injEq, and_true] at same
      obtain ⟨property, terms, important⟩ := same
      rw [printable.bare_eq] at terms
      exact ⟨found, rfl, property, important, printable.detached_eq terms⟩

/-- A declaration with printable terms is read again with the same terms. -/
theorem Stylesheet.parse_printableTerms (name : Text) (proper : terms ≠ [])
    (printable : PrintableTerms terms) :
    let source := ".x \x7b p: ".toList ++ renderTerms false terms ++ "; \x7d".toList
    let again := parse name source
    again.errors = [] ∧ ∃ (selectors : SelectorList) (body span : Span) (d : Declaration),
      again.tree.statements = [.rule selectors ⟨[.declaration d], body⟩ span] ∧
        d.property = "p".toList ∧ d.important = false ∧
          detachedTerms d.value.terms = detachedTerms terms := by
  intro source again
  let d : Declaration := ⟨"p".toList, ⟨terms, .detached⟩, false, .detached⟩
  let block : Block := ⟨[.declaration d], .detached⟩
  let list : SelectorList := ⟨[.mk [.mk .same (.byClass "x".toList .detached)] .detached], .detached⟩
  have isX : Kind.identifier.Spells "x".toList := spells_of_accepts (by rfl)
  have isList : list.WellFormed :=
    ⟨List.cons_ne_nil _ _, by simp [StartsSelector], ⟨isX, nofun, trivial⟩, trivial⟩
  have isProperty : IsProperty "p".toList := ⟨spells_of_accepts (by rfl), by decide⟩
  have isBlock : block.WellFormed :=
    List.forall_mem_singleton.mpr ⟨isProperty, printable.wellFormed⟩
  have steady : ∀ item ∈ block.items, SteadyTerms item.terms :=
    List.forall_mem_singleton.mpr (steadyTerms_of_legible printable.legible)
  have selectors : list.render = ".x".toList := by decide
  have rendered : (Item.declaration d).render? =
      some ("p: ".toList ++ renderTerms false terms ++ [';']) := by
    unfold Item.render?
    exact if_neg (fun isEmpty => proper (List.isEmpty_iff.mp isEmpty))
  have written : source = list.render ++ block.render .compact 0 := by
    rw [selectors, Block.render, List.filterMap_cons_some rendered]
    simp only [source, List.filterMap_nil, List.flatMap_singleton, List.append_assoc]
    rfl
  have stands : list.Meets .standing (block.render .compact 0) := isList.standing
  obtain ⟨quiet, found, ⟨items, body⟩, span, only, -, entries⟩ :=
    parseAt_onlyRule stands isBlock steady (.ofText name source) 0
  rw [← written] at quiet only
  obtain ⟨declared, rfl, facts⟩ := exists_declaration_of_bare? (d := d) proper printable entries
  exact ⟨quiet, found, body, span, declared, only, facts⟩

theorem Stylesheet.parse_printableTerms_calc :
    let terms : List Term :=
      [.literal "1px".toList .detached, .operator .slash .detached,
        .call "calc".toList [.usage "gap".toList (some (.call [] [.literal "-2%".toList .detached]
          .detached .detached)) .detached, .operator .comma .detached] .detached .detached,
        .call "Var".toList [.literal "--ink".toList .detached] .detached .detached,
        .url "a b.png".toList .detached]
    let again := parse "s.css".toList
      (".x \x7b p: ".toList ++ renderTerms false terms ++ "; \x7d".toList)
    terms ≠ [] ∧ PrintableTerms terms ∧
      again.errors = [] ∧ ∃ (selectors : SelectorList) (body span : Span) (d : Declaration),
        again.tree.statements = [.rule selectors ⟨[.declaration d], body⟩ span] ∧
          d.property = "p".toList ∧ d.important = false ∧
            detachedTerms d.value.terms = detachedTerms terms := by
  intro terms again
  have proper : terms ≠ [] := List.cons_ne_nil _ _
  have printable : PrintableTerms terms := by decide +kernel
  exact ⟨proper, printable, parse_printableTerms "s.css".toList proper printable⟩

end Sheet

end ComponentStyles
