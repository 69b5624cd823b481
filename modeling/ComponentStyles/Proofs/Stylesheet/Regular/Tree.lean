import ComponentStyles.Proofs.Stylesheet.Demands
import Mathlib.Data.List.Chain

/-!
# Regular stylesheets

What can be relied on in a stylesheet that has been read from any source, whatever was wrong with
it: that there is no selector without parts and no name without letters, that a reserved name never
defines a variable, and that the body of an at-rule is of the kind that its name calls for.
-/

namespace ComponentStyles

open Token

section Selectors

/-- An element can be told apart right behind it. -/
def SimpleSelector.TakesElement : SimpleSelector → Prop
  | .universal _ | .attribute _ _ | .pseudo _ _ (.raw _) _ | .pseudo _ _ (.selectors _ _) _ => True
  | .element _ _ | .byClass _ _ | .byId _ _ | .pseudo _ _ .absent _ => False

/-- Two parts that stand side by side. -/
def SelectorPart.Adjoins : SelectorPart → SelectorPart → Prop
  | .mk _ first, .mk combinator second =>
      combinator = .same → second.isElement = true → first.TakesElement

mutual

inductive SimpleSelector.Regular : SimpleSelector → Prop where
  | universal {span} : SimpleSelector.Regular (.universal span)
  | element {name span} : SimpleSelector.Regular (.element name span)
  | byClass {name span} : name ≠ [] → SimpleSelector.Regular (.byClass name span)
  | byId {name span} : name ≠ [] → SimpleSelector.Regular (.byId name span)
  | attribute {raw span} : SimpleSelector.Regular (.attribute raw span)
  | pseudo {form name argument span} :
      PseudoArgument.Regular argument →
      SimpleSelector.Regular (.pseudo form name argument span)

inductive PseudoArgument.Regular : PseudoArgument → Prop where
  | absent : PseudoArgument.Regular .absent
  | raw {text} : PseudoArgument.Regular (.raw text)
  | selectors {list span} :
      list ≠ [] →
      (∀ selector ∈ list, Selector.Regular selector) →
      PseudoArgument.Regular (.selectors list span)

inductive Selector.Regular : Selector → Prop where
  | mk {parts span} :
      StartsSelector parts →
      parts.IsChain SelectorPart.Adjoins →
      (∀ part ∈ parts, SelectorPart.Regular part) →
      Selector.Regular (.mk parts span)

inductive SelectorPart.Regular : SelectorPart → Prop where
  | mk {combinator simple} :
      SimpleSelector.Regular simple → SelectorPart.Regular (.mk combinator simple)

end

structure SelectorList.Regular (list : SelectorList) : Prop where
  notEmpty : list.selectors ≠ []
  selectors : ∀ selector ∈ list.selectors, selector.Regular

theorem SimpleSelector.takesElement_of_not_endsInName : ∀ {simple : SimpleSelector},
    simple.endsInName = false → simple.TakesElement
  | .universal _, _ | .attribute _ _, _ => trivial
  | .pseudo _ _ (.raw _) _, _ | .pseudo _ _ (.selectors _ _) _, _ => trivial
  | .element _ _, notName | .byClass _ _, notName | .byId _ _, notName => nomatch notName
  | .pseudo _ _ .absent _, notName => nomatch notName

variable {demands : Demands}

/-- Where a name is in front, no element is written right behind it. -/
theorem isChain_of_partsMeet : ∀ {parts : List SelectorPart} {afterName : Bool} {rest : Text},
    PartsMeet demands afterName parts rest → parts.IsChain SelectorPart.Adjoins
  | [], _, _, _ => .nil
  | [_], _, _, _ => .singleton _
  | .mk _ first :: .mk combinator second :: more, _, _, ⟨_, _, later⟩ => by
      refine .cons_cons ?_ (isChain_of_partsMeet later)
      obtain ⟨_, apart, _⟩ := later
      intro same isElement
      refine SimpleSelector.takesElement_of_not_endsInName (Bool.eq_false_iff.mpr fun isName => ?_)
      rw [apart isName same] at isElement
      cases isElement

mutual

theorem SimpleSelector.regular_of_meets : ∀ {simple : SimpleSelector} {rest : Text},
    simple.Meets demands rest → simple.Regular
  | .universal _, _, _ => .universal
  | .element _ _, _, _ => .element
  | .byClass _ _, _, isName => .byClass (Kind.Spells.ne_nil isName)
  | .byId _ _, _, isHash => .byId (spells_hash_iff.mp isHash).1
  | .attribute _ _, _, _ => .attribute
  | .pseudo _ _ .absent _, _, _ => .pseudo .absent
  | .pseudo _ _ (.raw _) _, _, _ => .pseudo .raw
  | .pseudo _ _ (.selectors _ _) _, _, ⟨_, _, notEmpty, meets⟩ =>
      .pseudo (.selectors notEmpty (regular_of_selectorsMeet meets))

theorem regular_of_selectorsMeet : ∀ {list : List Selector} {rest : Text},
    SelectorsMeet demands list rest → ∀ selector ∈ list, selector.Regular
  | [], _, _ => nofun
  | .mk _ _ :: _, _, ⟨starts, parts, more⟩ => by
      rw [List.forall_mem_cons]
      refine ⟨.mk starts (isChain_of_partsMeet parts) ?_, regular_of_selectorsMeet more⟩
      exact regular_of_partsMeet parts

theorem regular_of_partsMeet : ∀ {parts : List SelectorPart} {afterName : Bool} {rest : Text},
    PartsMeet demands afterName parts rest → ∀ part ∈ parts, part.Regular
  | [], _, _, _ => nofun
  | .mk _ _ :: _, _, _, ⟨simple, _, more⟩ => by
      rw [List.forall_mem_cons]
      exact ⟨.mk (SimpleSelector.regular_of_meets simple), regular_of_partsMeet more⟩

end

theorem SelectorList.Meets.regular {list : SelectorList} {rest : Text}
    (meets : list.Meets demands rest) : list.Regular :=
  ⟨meets.1, regular_of_selectorsMeet meets.2⟩

end Selectors

section Statements

/-- The usages in a term name variables, in arguments and in fallbacks too. -/
inductive Term.Regular : Term → Prop where
  | literal {text span} : Regular (.literal text span)
  | usage {name fallback span} :
      IsVariableName name →
      (∀ term ∈ fallback, Regular term) →
      Regular (.usage name fallback span)
  | url {target span} : Regular (.url target span)
  | call {name arguments argumentsSpan span} :
      (∀ term ∈ arguments, Regular term) →
      Regular (.call name arguments argumentsSpan span)
  | operator {op span} : Regular (.operator op span)

def Value.Regular (value : Value) : Prop :=
  ∀ term ∈ value.terms, term.Regular

structure Declaration.Regular (d : Declaration) : Prop where
  property : d.property ≠ []
  value : d.value.Regular

structure Definition.Regular (d : Definition) : Prop where
  name : d.name ≠ []
  value : d.value.Regular

/-- Definitions of either form stand in blocks. -/
def Item.Regular : Item → Prop
  | .declaration d => d.Regular
  | .definition d => d.Regular

def Block.Regular (block : Block) : Prop :=
  ∀ item ∈ block.items, item.Regular

/-- The body of an at-rule holds declarations just when its name calls for them. An at-rule whose
block holds statements is a conditional group. -/
structure AtRuleBody.Regular (name : Text) (body : AtRuleBody) : Prop where
  notConditional : Text.lower name ∉ conditionalNames
  declares : (∃ block, body = .declarations block) ↔ Text.lower name ∈ declarationNames
  block : ∀ block, body = .declarations block → block.Regular

inductive Statement.Regular : Statement → Prop where
  | rule {selectors block span} :
      selectors.Regular →
      block.Regular →
      Regular (.rule selectors block span)
  | definition {d} :
      d.form = .directive →
      isReserved (Text.lower d.name) = false →
      d.Regular →
      Regular (.definition d)
  | importing {target media span} :
      media ≠ some [] →
      Regular (.importing target media span)
  | conditional {name condition statements span} :
      Text.lower name ∈ conditionalNames →
      (∀ statement ∈ statements, Regular statement) →
      Regular (.conditional name condition statements span)
  | atRule {name prelude body span} :
      (∀ inside ∈ body, inside.Regular name) →
      Regular (.atRule name prelude body span)
  | comment {text span} : Regular (.comment text span)

def Stylesheet.Regular (sheet : Stylesheet) : Prop :=
  ∀ statement ∈ sheet.statements, statement.Regular

end Statements

end ComponentStyles
