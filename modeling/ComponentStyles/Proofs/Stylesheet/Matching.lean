import ComponentStyles.Proofs.Template.NodePath

/-!
What selectors match in a template.

Tags, classes, ids and the places of elements are read off the template. What attribute selectors
and pseudo selectors say of an element is left to an interpretation, which may look at everything
but the values of class and id attributes; a pseudo selector with selectors in its argument is
interpreted from what those match.
-/

namespace ComponentStyles

/-- The test says the same of templates that differ in the values of class and id attributes
only. -/
def IgnoresNames (test : List Node → NodePath → Prop) : Prop :=
  ∀ ⦃nodes others : List Node⦄,
    mapAttributesOf Attribute.withoutNames nodes = mapAttributesOf Attribute.withoutNames others →
      ∀ path, test nodes path ↔ test others path

theorem ignoresNames_of_emptied {test : List Node → NodePath → Prop}
    (same : ∀ nodes path,
      test (mapAttributesOf Attribute.withoutNames nodes) path ↔ test nodes path) :
    IgnoresNames test := by
  intro nodes others alike path
  rw [← same nodes, alike, same others]

/-- The meaning of the selectors that are more than a name. -/
structure Interpretation where
  /-- The name in an element selector means elements of a tag. -/
  element : Text → Text → Prop
  /-- What stands in brackets. -/
  bracketed : Text → List Node → NodePath → Prop
  /-- The argument, if there is one, is text. -/
  pseudo : PseudoForm → Text → Option Text → List Node → NodePath → Prop
  /-- The relation holds between an anchor and what the argument matches from there. -/
  nested : PseudoForm → Text → (NodePath → NodePath → Prop) → List Node → NodePath → Prop
  bracketed_ignores : ∀ raw, IgnoresNames (bracketed raw)
  pseudo_ignores : ∀ form name argument, IgnoresNames (pseudo form name argument)
  nested_ignores : ∀ form name found, IgnoresNames (nested form name found)

/-- Takes what stands in brackets for the name of an attribute that is there, and every list of
selectors for `:is` unless it belongs to `:not`. -/
def Interpretation.simple : Interpretation where
  element name tag := Text.sameLetters name tag
  bracketed raw nodes path :=
    ∃ node ∈ nodeAt? nodes path, ∃ a ∈ node.attributes, Text.sameLetters a.name raw
  pseudo _ _ _ _ _ := False
  nested _ name found _ path :=
    if Text.sameLetters name "not".toList then ¬ found path path else found path path
  bracketed_ignores raw := by
    refine ignoresNames_of_emptied fun nodes path => ?_
    rw [nodeAt?_mapAttributesOf]
    cases nodeAt? nodes path with
    | none => rfl
    | some node => simp [Attribute.name_withoutNames]
  pseudo_ignores _ _ _ _ _ _ _ := Iff.rfl
  nested_ignores _ _ _ _ _ _ _ := Iff.rfl

/-- The second path leads to where a combinator wants it, seen from the first. Only elements count
as siblings. -/
def Combinator.Links (nodes : List Node) : Combinator → NodePath → NodePath → Prop
  | .same, first, second => first = second
  | .descendant, above, below => ∃ way, way ≠ [] ∧ below = above ++ way
  | .child, above, below => ∃ index, below = above ++ [index]
  | .next, before, behind =>
      ∃ parent index later, before = parent ++ [index] ∧ behind = parent ++ [later] ∧
        index < later ∧ ∀ between, index < between → between < later →
          ¬ IsElementAt nodes (parent ++ [between])
  | .subsequent, before, behind =>
      ∃ parent index later, before = parent ++ [index] ∧ behind = parent ++ [later] ∧
        index < later

/-- Where a chain starts: anywhere, unless a combinator in front ties it to the anchors. -/
def startOf (anchors : NodePath → Prop) : List SelectorPart → NodePath → Prop
  | .mk .same _ :: _ => fun _ => True
  | _ => anchors

mutual

/-- A simple selector holds of the element at the end of a path. -/
def SimpleSelector.Holds (meaning : Interpretation) (nodes : List Node) :
    SimpleSelector → NodePath → Prop
  | .universal _, _ => True
  | .element name _, path => ∃ tag ∈ tagAt? nodes path, meaning.element name tag
  | .byClass name _, path => HasName nodes path .ofClass name
  | .byId name _, path => HasName nodes path .ofId name
  | .attribute raw _, path => meaning.bracketed raw nodes path
  | .pseudo form name .absent _, path => meaning.pseudo form name none nodes path
  | .pseudo form name (.raw text) _, path => meaning.pseudo form name (some text) nodes path
  | .pseudo form name (.selectors list _) _, path =>
      meaning.nested form name (fun anchor => MatchedBy meaning nodes list (· = anchor)) nodes path

/-- One of the selectors matches the element at the end of a path, from one of the anchors. -/
def MatchedBy (meaning : Interpretation) (nodes : List Node) :
    List Selector → (NodePath → Prop) → NodePath → Prop
  | [], _, _ => False
  | .mk parts _ :: rest, anchors, path =>
      ReachedBy meaning nodes parts (startOf anchors parts) path ∨
        MatchedBy meaning nodes rest anchors path

/-- The parts of a selector lead to the end of a path from one of the paths reached so far. -/
def ReachedBy (meaning : Interpretation) (nodes : List Node) :
    List SelectorPart → (NodePath → Prop) → NodePath → Prop
  | [], reached, path => reached path
  | .mk combinator simple :: rest, reached, path =>
      ReachedBy meaning nodes rest
        (fun next => IsElementAt nodes next ∧ simple.Holds meaning nodes next ∧
          ∃ earlier, reached earlier ∧ combinator.Links nodes earlier next) path

end

end ComponentStyles
