import ComponentStyles.Proofs.Stylesheet.Parser.Kept
import ComponentStyles.Stylesheet.Parser.Statement
import ComponentStyles.Stylesheet.Printer
import ComponentStyles.Stylesheet.Traversal

/-!
# Well-formed trees

A tree is well-formed when every text in it is one that stands there in some stylesheet: names are
names, literals are tokens, kept texts stay within their fence, and no part of a selector runs into
the next one. What the parser makes of plain tokens is well-formed.

Not every well-formed tree can be read again from its written form. `Steady` says what else it
takes: the printer does not escape the targets of imports, a backslash escapes nothing in a url, and
a slash is written right in front of the next term. A steady url may be read as a call. `Legible` says
more, so that urls are read as urls and terms may be moved into other values.
-/

namespace ComponentStyles

open Token

section Terms

/-- Whether a token of this kind is a term as it is written. -/
def Token.Kind.isLiteral : Kind → Bool
  | .whitespace | .comment | .openBrace | .openParen | .closeParen | .openBracket | .closeBracket
  | .comma | .slash | .function | .url | .endOfInput => false
  | _ => true

/-- A text that is a single token, and one that a value may contain as it is. -/
def IsLiteral (text : Text) : Prop :=
  ∃ kind, Kind.isLiteral kind = true ∧ kind.Spells text ∧ Lexeme.IsTame ⟨kind, text⟩

def IsCustomName (name : Text) : Prop :=
  Kind.identifier.Spells name ∧ Text.startsWith name ['-', '-'] = true

def IsVariableName (name : Text) : Prop :=
  Kind.identifier.Spells name ∧ Text.startsWith name ['-', '-'] = false

def IsFunctionName (name : Text) : Prop :=
  Kind.identifier.Spells name ∧ Text.sameLetters name "url".toList = false

theorem isFunctionName_of_plain {ls : List Lexeme} {l : Lexeme} (plain : Plain ls) (listed : l ∈ ls)
    (isFunction : l.kind = .function) : IsFunctionName l.text.dropLast := by
  have notUrl := (plain.tame l listed).notUrl isFunction
  obtain ⟨name, written, isName⟩ := plain.cut.exists_name_of_function listed isFunction
  rw [written, List.dropLast_concat] at notUrl ⊢
  exact ⟨isName, notUrl⟩

/-- The first argument is a native custom property. -/
def StartsCustom : List Term → Prop
  | .literal text _ :: _ => IsCustomName text
  | _ => False

mutual

def Term.WellFormed : Term → Prop
  | .literal text _ => IsLiteral text
  | .usage name none _ => IsVariableName name
  | .usage name (some fallback) _ => IsVariableName name ∧ fallback.WellFormed
  | .url _ _ => True
  | .call name arguments _ _ =>
      (name = [] ∨ IsFunctionName name) ∧
        (Text.sameLetters name "var".toList = true → StartsCustom arguments) ∧
        WellFormedTerms arguments
  | .operator _ _ => True

def WellFormedTerms : List Term → Prop
  | [] => True
  | term :: rest => term.WellFormed ∧ WellFormedTerms rest

end

theorem wellFormedTerms_iff {terms : List Term} :
    WellFormedTerms terms ↔ ∀ term ∈ terms, term.WellFormed := by
  induction terms with
  | nil => simp [WellFormedTerms]
  | cons term rest inductionHypothesis => simp [WellFormedTerms, inductionHypothesis]

/-- A slash and a star would open a comment. -/
def OpensComment : Term → List Term → Prop
  | .operator .slash _, .literal text _ :: _ => text = ['*']
  | _, _ => False

mutual

/-- No term ends the value it stands in, no target has a double quote, and no slash is followed by a
star. -/
def Term.Legible : Term → Prop
  | .literal text _ => text ∉ [[';'], ['!'], ['\x7d']]
  | .usage _ none _ => True
  | .usage _ (some fallback) _ => fallback.Legible
  | .url target _ => '"' ∉ target
  | .call _ arguments _ _ => LegibleTerms arguments
  | .operator _ _ => True

def LegibleTerms : List Term → Prop
  | [] => True
  | term :: rest => term.Legible ∧ ¬ OpensComment term rest ∧ LegibleTerms rest

end

instance : (term : Term) → (rest : List Term) → Decidable (OpensComment term rest)
  | .operator .slash _, .literal text _ :: _ => inferInstanceAs (Decidable (text = ['*']))
  | .operator .slash _, [] | .operator .slash _, .usage _ _ _ :: _
  | .operator .slash _, .url _ _ :: _ | .operator .slash _, .call _ _ _ _ :: _
  | .operator .slash _, .operator _ _ :: _ => .isFalse id
  | .operator .comma _, _ | .literal _ _, _ | .usage _ _ _, _ | .url _ _, _ | .call _ _ _ _, _ =>
      .isFalse id

mutual

def Term.decidableLegible : (term : Term) → Decidable term.Legible
  | .literal text _ => inferInstanceAs (Decidable (text ∉ [[';'], ['!'], ['\x7d']]))
  | .usage _ none _ => .isTrue trivial
  | .usage _ (some fallback) _ => fallback.decidableLegible
  | .url target _ => inferInstanceAs (Decidable ('"' ∉ target))
  | .call _ arguments _ _ => decidableLegibleTerms arguments
  | .operator _ _ => .isTrue trivial

def decidableLegibleTerms : (terms : List Term) → Decidable (LegibleTerms terms)
  | [] => .isTrue trivial
  | term :: rest =>
      have : Decidable term.Legible := term.decidableLegible
      have : Decidable (LegibleTerms rest) := decidableLegibleTerms rest
      inferInstanceAs (Decidable (term.Legible ∧ ¬ OpensComment term rest ∧ LegibleTerms rest))

end

instance (terms : List Term) : Decidable (LegibleTerms terms) :=
  decidableLegibleTerms terms

/-- Between double quotes the target is no whole `url(...)` but a string in a call. -/
def CallsUrl (target : Text) : Prop :=
  lexemes ("url(".toList ++ (quoteTarget target ++ [')'])) =
    [⟨.function, "url(".toList⟩, ⟨.string, quoteTarget target⟩, ⟨.closeParen, [')']⟩]

instance (target : Text) : Decidable (CallsUrl target) :=
  inferInstanceAs (Decidable (_ = _))

/-- A literal that ends the value it stands in. Only a fallback can be one. -/
def Term.IsEnd : Term → Prop
  | .literal text _ => text ∈ [[';'], ['!'], ['\x7d']]
  | _ => False

instance : (term : Term) → Decidable term.IsEnd
  | .literal text _ => inferInstanceAs (Decidable (text ∈ [[';'], ['!'], ['\x7d']]))
  | .usage _ _ _ | .url _ _ | .call _ _ _ _ | .operator _ _ => .isFalse id

mutual

/-- A term that is written in the same way once it is read again. A double quote in the target of a
url makes it the string of a call. -/
def Term.Steady : Term → Prop
  | .literal _ _ => True
  | .usage _ none _ => True
  | .usage _ (some fallback) _ => fallback.Steady
  | .url target _ => '"' ∈ target → CallsUrl target
  | .call _ arguments _ _ => SteadyTerms arguments
  | .operator _ _ => True

def SteadyTerms : List Term → Prop
  | [] => True
  | term :: rest => term.Steady ∧ ¬ term.IsEnd ∧ ¬ OpensComment term rest ∧ SteadyTerms rest

end

mutual

def Term.decidableSteady : (term : Term) → Decidable term.Steady
  | .literal _ _ => .isTrue trivial
  | .usage _ none _ => .isTrue trivial
  | .usage _ (some fallback) _ => fallback.decidableSteady
  | .url target _ => inferInstanceAs (Decidable ('"' ∈ target → CallsUrl target))
  | .call _ arguments _ _ => decidableSteadyTerms arguments
  | .operator _ _ => .isTrue trivial

def decidableSteadyTerms : (terms : List Term) → Decidable (SteadyTerms terms)
  | [] => .isTrue trivial
  | term :: rest =>
      have : Decidable term.Steady := term.decidableSteady
      have : Decidable (SteadyTerms rest) := decidableSteadyTerms rest
      inferInstanceAs
        (Decidable (term.Steady ∧ ¬ term.IsEnd ∧ ¬ OpensComment term rest ∧ SteadyTerms rest))

end

instance (terms : List Term) : Decidable (SteadyTerms terms) :=
  decidableSteadyTerms terms

mutual

theorem Term.Legible.steady : ∀ {term : Term}, term.Legible → term.Steady
  | .literal _ _, _ => trivial
  | .usage _ none _, _ => trivial
  | .usage _ (some fallback) _, legible => (show fallback.Legible from legible).steady
  | .url _ _, legible => fun quote => absurd quote legible
  | .call _ _ _ _, legible => steadyTerms_of_legible legible
  | .operator _ _, _ => trivial

theorem steadyTerms_of_legible : ∀ {terms : List Term}, LegibleTerms terms → SteadyTerms terms
  | [], _ => trivial
  | term :: _, ⟨legible, apart, legibleToo⟩ => by
      refine ⟨legible.steady, ?_, apart, steadyTerms_of_legible legibleToo⟩
      cases term with
      | literal text span => exact fun ends => absurd ends legible
      | _ => exact id

end

end Terms

section Selectors

/-- Whether the written form of a simple selector ends with a name. -/
def SimpleSelector.endsInName : SimpleSelector → Bool
  | .element _ _ | .byClass _ _ | .byId _ _ | .pseudo _ _ .absent _ => true
  | _ => false

def SimpleSelector.isElement : SimpleSelector → Bool
  | .element _ _ => true
  | _ => false

/-- The first part of a selector is not tied to something in front of it. -/
def StartsSelector : List SelectorPart → Prop
  | [] => False
  | .mk combinator _ :: _ => combinator ≠ .descendant

mutual

def SimpleSelector.WellFormed : SimpleSelector → Prop
  | .universal _ => True
  | .element name _ => Kind.identifier.Spells name
  | .byClass name _ => Kind.identifier.Spells name
  | .byId name _ => Kind.hash.Spells ('#' :: name)
  | .attribute raw _ => Fence.ofAttribute.Keeps raw
  | .pseudo _ name .absent _ => Kind.identifier.Spells name
  | .pseudo _ name (.raw text) _ =>
      IsFunctionName name ∧ selectorListPseudos.contains (Text.lower name) = false ∧
        Fence.ofArgument.Keeps text
  | .pseudo _ name (.selectors list _) _ =>
      IsFunctionName name ∧ selectorListPseudos.contains (Text.lower name) = true ∧ list ≠ [] ∧
        WellFormedSelectors list

def WellFormedSelectors : List Selector → Prop
  | [] => True
  | .mk parts _ :: rest =>
      StartsSelector parts ∧ WellFormedParts false parts ∧ WellFormedSelectors rest

/-- Parts that do not run into each other; `afterName` says whether a name stands in front. -/
def WellFormedParts (afterName : Bool) : List SelectorPart → Prop
  | [] => True
  | .mk combinator simple :: rest =>
      simple.WellFormed ∧
        (afterName = true → combinator = .same → simple.isElement = false) ∧
        WellFormedParts simple.endsInName rest

end

def SelectorList.WellFormed (list : SelectorList) : Prop :=
  list.selectors ≠ [] ∧ WellFormedSelectors list.selectors

end Selectors

section Statements

def DefinitionForm.Names : DefinitionForm → Text → Prop
  | directive, name => Kind.atKeyword.Spells ('@' :: name)
  | property, name => Kind.identifier.Spells ("var-".toList ++ name) ∧ name ≠ []

/-- The name of a declaration, which is not that of a definition. -/
def IsProperty (name : Text) : Prop :=
  Kind.identifier.Spells name ∧ ¬ (Text.startsWith name "var-".toList = true ∧ 4 < name.length)

def Item.WellFormed : Item → Prop
  | declaration d => IsProperty d.property ∧ WellFormedTerms d.value.terms
  | definition d => d.form.Names d.name ∧ WellFormedTerms d.value.terms

def Block.WellFormed (block : Block) : Prop :=
  ∀ item ∈ block.items, item.WellFormed

/-- A text kept behind a fence that does not start with a comment. -/
structure KeepsBehind (fence : Fence) (text : Text) : Prop where
  keeps : fence.Keeps text
  solid : ∀ l ∈ (Token.lexemes text).head?, l.isTrivia = false

/-- A prelude behind a name that could define a variable does not start with a colon. -/
def DefinesNothing (name prelude : Text) : Prop :=
  isReserved (Text.lower name) = true ∨ ∀ l ∈ (Token.lexemes prelude).head?, l.kind ≠ .colon

def AtRuleBody.WellFormed (name : Text) : AtRuleBody → Prop
  | declarations block =>
      conditionalNames.contains (Text.lower name) = false ∧
        declarationNames.contains (Text.lower name) = true ∧ block.WellFormed
  | raw text =>
      conditionalNames.contains (Text.lower name) = false ∧
        declarationNames.contains (Text.lower name) = false ∧ Fence.ofBlock.Keeps text

mutual

def Statement.WellFormed : Statement → Prop
  | .rule selectors block _ => selectors.WellFormed ∧ block.WellFormed
  | .definition d =>
      d.form = .directive ∧ isReserved (Text.lower d.name) = false ∧
        Item.WellFormed (.definition d)
  | .importing _ media _ => ∀ text ∈ media, text ≠ [] ∧ KeepsBehind .ofMedia text
  | .conditional name condition statements _ =>
      Kind.atKeyword.Spells ('@' :: name) ∧
        conditionalNames.contains (Text.lower name) = true ∧ KeepsBehind .ofPrelude condition ∧
        WellFormedStatements statements
  | .atRule name prelude body _ =>
      Kind.atKeyword.Spells ('@' :: name) ∧ Text.lower name ≠ "import".toList ∧
        KeepsBehind .ofPrelude prelude ∧ DefinesNothing name prelude ∧
        ∀ content ∈ body, content.WellFormed name
  | .comment text _ => Kind.comment.Spells ("/*".toList ++ text ++ "*/".toList)

def WellFormedStatements : List Statement → Prop
  | [] => True
  | statement :: rest => statement.WellFormed ∧ WellFormedStatements rest

end

def Block.Legible (block : Block) : Prop :=
  ∀ item ∈ block.items, LegibleTerms item.terms

mutual

/-- The terms can be read again, and the target of an import is a string without escapes. -/
def Statement.Legible : Statement → Prop
  | .rule _ block _ => block.Legible
  | .definition d => LegibleTerms d.value.terms
  | .importing target _ _ => Kind.string.Spells ('"' :: (target ++ ['"']))
  | .conditional _ _ statements _ => LegibleStatements statements
  | .atRule _ _ (some (.declarations block)) _ => block.Legible
  | .atRule _ _ _ _ => True
  | .comment _ _ => True

def LegibleStatements : List Statement → Prop
  | [] => True
  | statement :: rest => statement.Legible ∧ LegibleStatements rest

end

instance (block : Block) : Decidable block.Legible :=
  inferInstanceAs (Decidable (∀ item ∈ block.items, LegibleTerms item.terms))

mutual

def Statement.decidableLegible : (statement : Statement) → Decidable statement.Legible
  | .rule _ block _ => inferInstanceAs (Decidable block.Legible)
  | .definition d => inferInstanceAs (Decidable (LegibleTerms d.value.terms))
  | .importing target _ _ =>
      inferInstanceAs (Decidable (Kind.string.Spells ('"' :: (target ++ ['"']))))
  | .conditional _ _ statements _ => decidableLegibleStatements statements
  | .atRule _ _ (some (.declarations block)) _ => inferInstanceAs (Decidable block.Legible)
  | .atRule _ _ (some (.raw _)) _ => .isTrue trivial
  | .atRule _ _ none _ => .isTrue trivial
  | .comment _ _ => .isTrue trivial

def decidableLegibleStatements : (statements : List Statement) → Decidable (LegibleStatements statements)
  | [] => .isTrue trivial
  | statement :: rest =>
      have : Decidable statement.Legible := statement.decidableLegible
      have : Decidable (LegibleStatements rest) := decidableLegibleStatements rest
      inferInstanceAs (Decidable (statement.Legible ∧ LegibleStatements rest))

end

instance (statements : List Statement) : Decidable (LegibleStatements statements) :=
  decidableLegibleStatements statements

mutual

/-- The targets of the imports in a statement, in document order. -/
def Statement.importTargets : Statement → List Text
  | .importing target _ _ => [target]
  | .conditional _ _ statements _ => importTargetsOf statements
  | _ => []

def importTargetsOf : List Statement → List Text
  | [] => []
  | statement :: rest => statement.importTargets ++ importTargetsOf rest

end

structure Statement.Steady (statement : Statement) : Prop where
  terms : ∀ item ∈ statement.items, SteadyTerms item.terms
  targets : ∀ target ∈ statement.importTargets, Kind.string.Spells ('"' :: (target ++ ['"']))

/-- The terms are steady, and the target of an import is a string as it is. -/
structure SteadyStatements (statements : List Statement) : Prop where
  terms : ∀ item ∈ itemsOf statements, SteadyTerms item.terms
  targets : ∀ target ∈ importTargetsOf statements, Kind.string.Spells ('"' :: (target ++ ['"']))

instance (statements : List Statement) : Decidable (SteadyStatements statements) :=
  decidable_of_iff
    ((∀ item ∈ itemsOf statements, SteadyTerms item.terms) ∧
      ∀ target ∈ importTargetsOf statements, Kind.string.Spells ('"' :: (target ++ ['"'])))
    ⟨fun ⟨terms, targets⟩ => ⟨terms, targets⟩, fun steady => ⟨steady.terms, steady.targets⟩⟩

theorem steadyStatements_nil : SteadyStatements [] :=
  ⟨nofun, nofun⟩

theorem steadyStatements_cons_iff {statement : Statement} {rest : List Statement} :
    SteadyStatements (statement :: rest) ↔ statement.Steady ∧ SteadyStatements rest := by
  constructor
  · rintro ⟨terms, targets⟩
    rw [itemsOf, List.forall_mem_append] at terms
    rw [importTargetsOf, List.forall_mem_append] at targets
    exact ⟨⟨terms.1, targets.1⟩, terms.2, targets.2⟩
  · rintro ⟨⟨terms, targets⟩, termsToo, targetsToo⟩
    constructor
    · rw [itemsOf]
      exact List.forall_mem_append.mpr ⟨terms, termsToo⟩
    · rw [importTargetsOf]
      exact List.forall_mem_append.mpr ⟨targets, targetsToo⟩

mutual

theorem Statement.Legible.steady : ∀ {statement : Statement}, statement.Legible → statement.Steady
  | .rule _ _ _, legible => ⟨fun item listed => steadyTerms_of_legible (legible item listed), nofun⟩
  | .definition _, legible =>
      ⟨List.forall_mem_singleton.mpr (steadyTerms_of_legible legible), nofun⟩
  | .importing _ _ _, legible => ⟨nofun, List.forall_mem_singleton.mpr legible⟩
  | .conditional _ _ _ _, legible =>
      have steady := steadyStatements_of_legible legible
      ⟨steady.terms, steady.targets⟩
  | .atRule _ _ none _, _ => ⟨nofun, nofun⟩
  | .atRule _ _ (some (.declarations _)) _, legible =>
      ⟨fun item listed => steadyTerms_of_legible (legible item listed), nofun⟩
  | .atRule _ _ (some (.raw _)) _, _ => ⟨nofun, nofun⟩
  | .comment _ _, _ => ⟨nofun, nofun⟩

theorem steadyStatements_of_legible : ∀ {statements : List Statement},
    LegibleStatements statements → SteadyStatements statements
  | [], _ => steadyStatements_nil
  | _ :: _, legible =>
      steadyStatements_cons_iff.mpr ⟨legible.1.steady, steadyStatements_of_legible legible.2⟩

end

end Statements

end ComponentStyles
