import ComponentStyles.Proofs.Stylesheet.WellFormed

/-!
# Demands on selectors

How selectors are built from their parts is always the same. What is asked of the names of calls and
of the kept texts is not: a text that stands in some plain stylesheet can be written anywhere, while
other texts can only be written where what follows them does not change how they are cut.
-/

namespace ComponentStyles

open Token

/-- What is asked of the name of a call, and of a text kept behind a fence where the given text
follows it. -/
structure Demands where
  calls : Text → Prop
  texts : Fence → Text → Text → Prop

mutual

/-- A simple selector that can be written in front of the given text. -/
def SimpleSelector.Meets (demands : Demands) : SimpleSelector → Text → Prop
  | .universal _, _ => True
  | .element name _, _ => Kind.identifier.Spells name
  | .byClass name _, _ => Kind.identifier.Spells name
  | .byId name _, _ => Kind.hash.Spells ('#' :: name)
  | .attribute raw _, rest => demands.texts .ofAttribute raw (']' :: rest)
  | .pseudo _ name .absent _, _ => Kind.identifier.Spells name
  | .pseudo _ name (.raw text) _, rest =>
      demands.calls name ∧ selectorListPseudos.contains (Text.lower name) = false ∧
        demands.texts .ofArgument text (')' :: rest)
  | .pseudo _ name (.selectors list _) _, rest =>
      demands.calls name ∧ selectorListPseudos.contains (Text.lower name) = true ∧ list ≠ [] ∧
        SelectorsMeet demands list (')' :: rest)

def SelectorsMeet (demands : Demands) : List Selector → Text → Prop
  | [], _ => True
  | .mk parts _ :: more, rest =>
      StartsSelector parts ∧ PartsMeet demands false parts (renderSelectors false more ++ rest) ∧
        SelectorsMeet demands more rest

def PartsMeet (demands : Demands) (afterName : Bool) : List SelectorPart → Text → Prop
  | [], _ => True
  | .mk combinator simple :: more, rest =>
      simple.Meets demands (renderParts false more ++ rest) ∧
        (afterName = true → combinator = .same → simple.isElement = false) ∧
        PartsMeet demands simple.endsInName more rest

end

def SelectorList.Meets (demands : Demands) (list : SelectorList) (rest : Text) : Prop :=
  list.selectors ≠ [] ∧ SelectorsMeet demands list.selectors rest

mutual

/-- The names of the pseudo selectors with an argument, at any depth. -/
def SimpleSelector.calls : SimpleSelector → List Text
  | .pseudo _ name (.raw _) _ => [name]
  | .pseudo _ name (.selectors list _) _ => name :: callsOfSelectors list
  | _ => []

def callsOfSelectors : List Selector → List Text
  | [] => []
  | .mk parts _ :: more => callsOfParts parts ++ callsOfSelectors more

def callsOfParts : List SelectorPart → List Text
  | [] => []
  | .mk _ simple :: more => simple.calls ++ callsOfParts more

end

def SelectorList.calls (list : SelectorList) : List Text :=
  callsOfSelectors list.selectors

/-- The characters behind the two fences of a selector. -/
def Closes (d : Char) : Prop :=
  d ∈ [']', ')']

theorem Closes.delimits {d : Char} (closes : Closes d) : Delimits d := by
  unfold Closes at closes
  simp only [List.mem_cons, List.not_mem_nil, or_false] at closes
  cases closes <;> subst d <;> exact ⟨by decide, by decide⟩

/-- Whatever text the one demands allow, the others allow too. -/
def Demands.TextsAllowedBy (demands weaker : Demands) : Prop :=
  ∀ {fence text d rest}, Closes d → demands.texts fence text (d :: rest) →
    weaker.texts fence text (d :: rest)

section Weakening

variable {demands weaker : Demands}

mutual

theorem SimpleSelector.Meets.imp (texts : demands.TextsAllowedBy weaker) :
    ∀ {simple : SimpleSelector} {rest : Text},
      (∀ name ∈ simple.calls, demands.calls name → weaker.calls name) →
        simple.Meets demands rest → simple.Meets weaker rest
  | .universal _, _, _, _ => trivial
  | .element _ _, _, _, isName => isName
  | .byClass _ _, _, _, isName => isName
  | .byId _ _, _, _, isHash => isHash
  | .attribute _ _, _, _, kept => texts (by simp [Closes]) kept
  | .pseudo _ _ .absent _, _, _, isName => isName
  | .pseudo _ name (.raw _) _, _, calls, ⟨called, takesText, kept⟩ =>
      ⟨calls name List.mem_cons_self called, takesText, texts (by simp [Closes]) kept⟩
  | .pseudo _ name (.selectors _ _) _, _, calls, ⟨called, takesList, notEmpty, meets⟩ =>
      ⟨calls name List.mem_cons_self called, takesList, notEmpty,
        SelectorsMeet.imp texts (fun _ listed => calls _ (List.mem_cons_of_mem _ listed)) meets⟩

theorem SelectorsMeet.imp (texts : demands.TextsAllowedBy weaker) :
    ∀ {list : List Selector} {rest : Text},
      (∀ name ∈ callsOfSelectors list, demands.calls name → weaker.calls name) →
        SelectorsMeet demands list rest → SelectorsMeet weaker list rest
  | [], _, _, _ => trivial
  | .mk _ _ :: _, _, calls, ⟨starts, parts, more⟩ => by
      rw [callsOfSelectors, List.forall_mem_append] at calls
      exact ⟨starts, PartsMeet.imp texts calls.1 parts, SelectorsMeet.imp texts calls.2 more⟩

theorem PartsMeet.imp (texts : demands.TextsAllowedBy weaker) :
    ∀ {parts : List SelectorPart} {afterName : Bool} {rest : Text},
      (∀ name ∈ callsOfParts parts, demands.calls name → weaker.calls name) →
        PartsMeet demands afterName parts rest → PartsMeet weaker afterName parts rest
  | [], _, _, _, _ => trivial
  | .mk _ _ :: _, _, _, calls, ⟨simple, apart, more⟩ => by
      rw [callsOfParts, List.forall_mem_append] at calls
      exact ⟨simple.imp texts calls.1, apart, PartsMeet.imp texts calls.2 more⟩

end

end Weakening

namespace Demands

/-- The texts of plain stylesheets, which can be written anywhere. -/
def plain : Demands :=
  ⟨IsFunctionName, fun fence text _ => fence.Keeps text⟩

/-- What can be read again from where it is written. -/
def standing : Demands :=
  ⟨IsFunctionName, Fence.KeepsBefore⟩

end Demands

mutual

theorem SimpleSelector.meets_plain_iff : ∀ {simple : SimpleSelector} {rest : Text},
    simple.Meets .plain rest ↔ simple.WellFormed
  | .universal _, _ => Iff.rfl
  | .element _ _, _ => Iff.rfl
  | .byClass _ _, _ => Iff.rfl
  | .byId _ _, _ => Iff.rfl
  | .attribute _ _, _ => Iff.rfl
  | .pseudo _ _ .absent _, _ => Iff.rfl
  | .pseudo _ _ (.raw _) _, _ => Iff.rfl
  | .pseudo _ _ (.selectors _ _) _, _ => by
      unfold SimpleSelector.Meets SimpleSelector.WellFormed
      rw [selectorsMeet_plain_iff]
      rfl

theorem selectorsMeet_plain_iff : ∀ {list : List Selector} {rest : Text},
    SelectorsMeet .plain list rest ↔ WellFormedSelectors list
  | [], _ => Iff.rfl
  | .mk _ _ :: _, _ => by
      unfold SelectorsMeet WellFormedSelectors
      rw [partsMeet_plain_iff, selectorsMeet_plain_iff]

theorem partsMeet_plain_iff : ∀ {parts : List SelectorPart} {afterName : Bool} {rest : Text},
    PartsMeet .plain afterName parts rest ↔ WellFormedParts afterName parts
  | [], _, _ => Iff.rfl
  | .mk _ _ :: _, _, _ => by
      unfold PartsMeet WellFormedParts
      rw [SimpleSelector.meets_plain_iff, partsMeet_plain_iff]

end

theorem texts_standing_of_plain : Demands.plain.TextsAllowedBy .standing :=
  fun closes keeps => Fence.Keeps.keepsBefore keeps closes.delimits

theorem SelectorList.WellFormed.standing {list : SelectorList} {rest : Text}
    (wellFormed : list.WellFormed) : list.Meets .standing rest :=
  ⟨wellFormed.1, (selectorsMeet_plain_iff.mpr wellFormed.2).imp texts_standing_of_plain fun _ _ => id⟩

end ComponentStyles
