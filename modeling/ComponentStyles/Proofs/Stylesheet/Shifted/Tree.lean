import ComponentStyles.Stylesheet.Basic

/-!
# The same tree further on

A tree with the span of every node a distance further on, as if more text stood in front of its own.
Nothing but spans changes.
-/

namespace ComponentStyles

section Trees

variable (distance : Nat)

mutual

def Term.shift : Term → Term
  | .literal text span => .literal text (span.shift distance)
  | .usage name none span => .usage name none (span.shift distance)
  | .usage name (some fallback) span =>
      .usage name (some fallback.shift) (span.shift distance)
  | .url target span => .url target (span.shift distance)
  | .call name arguments argumentsSpan span =>
      .call name (shiftTerms arguments) (argumentsSpan.shift distance) (span.shift distance)
  | .operator op span => .operator op (span.shift distance)

def shiftTerms : List Term → List Term
  | [] => []
  | term :: rest => term.shift :: shiftTerms rest

end

def Value.shift (value : Value) : Value :=
  ⟨shiftTerms distance value.terms, value.span.shift distance⟩

mutual

def SimpleSelector.shift : SimpleSelector → SimpleSelector
  | .universal span => .universal (span.shift distance)
  | .element name span => .element name (span.shift distance)
  | .byClass name span => .byClass name (span.shift distance)
  | .byId name span => .byId name (span.shift distance)
  | .attribute raw span => .attribute raw (span.shift distance)
  | .pseudo form name argument span => .pseudo form name argument.shift (span.shift distance)

def PseudoArgument.shift : PseudoArgument → PseudoArgument
  | .absent => .absent
  | .raw text => .raw text
  | .selectors list span => .selectors (shiftSelectors list) (span.shift distance)

def Selector.shift : Selector → Selector
  | .mk parts span => .mk (shiftParts parts) (span.shift distance)

def shiftSelectors : List Selector → List Selector
  | [] => []
  | selector :: rest => selector.shift :: shiftSelectors rest

def shiftParts : List SelectorPart → List SelectorPart
  | [] => []
  | .mk combinator simple :: rest => .mk combinator simple.shift :: shiftParts rest

end

def SelectorList.shift (list : SelectorList) : SelectorList :=
  ⟨shiftSelectors distance list.selectors, list.span.shift distance⟩

def Definition.shift (d : Definition) : Definition :=
  ⟨d.name, d.value.shift distance, d.form, d.span.shift distance⟩

def Declaration.shift (d : Declaration) : Declaration :=
  ⟨d.property, d.value.shift distance, d.important, d.span.shift distance⟩

def Item.shift : Item → Item
  | .declaration d => .declaration (d.shift distance)
  | .definition d => .definition (d.shift distance)

def Block.shift (block : Block) : Block :=
  ⟨block.items.map (Item.shift distance), block.span.shift distance⟩

def AtRuleBody.shift : AtRuleBody → AtRuleBody
  | .declarations block => .declarations (block.shift distance)
  | .raw text => .raw text

mutual

def Statement.shift : Statement → Statement
  | .rule selectors block span =>
      .rule (selectors.shift distance) (block.shift distance) (span.shift distance)
  | .definition d => .definition (d.shift distance)
  | .importing target media span => .importing target media (span.shift distance)
  | .conditional name condition statements span =>
      .conditional name condition (shiftStatements statements) (span.shift distance)
  | .atRule name prelude body span =>
      .atRule name prelude (body.map (AtRuleBody.shift distance)) (span.shift distance)
  | .comment text span => .comment text (span.shift distance)

def shiftStatements : List Statement → List Statement
  | [] => []
  | statement :: rest => statement.shift :: shiftStatements rest

end

end Trees

variable {distance : Nat}

theorem Term.shift_usage (name : Text) (fallback : Option Term) (span : Span) :
    (Term.usage name fallback span).shift distance =
      .usage name (fallback.map (Term.shift distance)) (span.shift distance) := by
  cases fallback <;> rfl

theorem shiftTerms_append (terms rest : List Term) :
    shiftTerms distance (terms ++ rest) =
      shiftTerms distance terms ++ shiftTerms distance rest := by
  induction terms with
  | nil => rfl
  | cons term terms inductionHypothesis =>
      rw [List.cons_append, shiftTerms, shiftTerms, inductionHypothesis, List.cons_append]

theorem isEmpty_shiftTerms (terms : List Term) :
    (shiftTerms distance terms).isEmpty = terms.isEmpty := by
  cases terms <;> rfl

theorem shiftTerms_toList (term? : Option Term) :
    shiftTerms distance term?.toList = (term?.map (Term.shift distance)).toList := by
  cases term? <;> rfl

theorem shiftStatements_append (statements rest : List Statement) :
    shiftStatements distance (statements ++ rest) =
      shiftStatements distance statements ++ shiftStatements distance rest := by
  induction statements with
  | nil => rfl
  | cons statement statements inductionHypothesis =>
      rw [List.cons_append, shiftStatements, shiftStatements, inductionHypothesis, List.cons_append]

theorem shiftStatements_toList (statement? : Option Statement) :
    shiftStatements distance statement?.toList =
      (statement?.map (Statement.shift distance)).toList := by
  cases statement? <;> rfl

end ComponentStyles
