import ComponentStyles.Proofs.Stylesheet.Progress
import ComponentStyles.Proofs.Template.Reread

/-!
# The template reader makes progress

The productions and the loops of the reader call each other as they need them, without a look at the
characters that are left. Each node and each attribute takes a character, so that the reader does what
they say. Wherever one starts or stops, the position is a boundary of the text.
-/

namespace ComponentStyles

/-- The productions and the loops of the reader. Each is listed behind those that it enters at the
character that it starts at. -/
inductive Reader.Production
  | blanks
  | name
  | closingTag
  | attributeValue (start : Nat)
  | attributes
  | comment
  | text
  | rawText (tag : Text)
  | element
  | nodes (inElement : Bool)

/-- Whether no attribute follows. -/
def Reader.atTagEnd (r : Reader) : Bool :=
  r.rest.isEmpty || r.isAt ">" || r.isAt "/>"

namespace Reader.Production

section Bodies

abbrev Result : Production → Type
  | blanks => Unit
  | name => Text
  | closingTag => Text
  | attributeValue _ => Text
  | attributes => List Attribute
  | comment => Node
  | text => Node
  | rawText _ => List Node
  | element => Node
  | nodes _ => List Node

/-- What the reader reads for a production. -/
def run : (production : Production) → Reader → production.Result × Reader
  | blanks, r => ((), r.skipBlanks)
  | name, r => r.readName
  | closingTag, r => r.readClosingTag
  | attributeValue start, r => r.readAttributeValue start
  | attributes, r => r.parseAttributes
  | comment, r => r.parseComment
  | text, r => r.parseText
  | rawText tag, r => r.parseRawText tag
  | element, r => r.parseElement
  | nodes inElement, r => r.parseNodes inElement

abbrev Steps (Value : Type) : Type :=
  Calling Result Reader (Value × Reader)

def closingTagBody (r : Reader) : Steps Text :=
  .call .name (r.skip 2) fun name next => .done (name, next.readThroughTagEnd.2)

/-- The attributes from behind the first name on. -/
def namedBody (r : Reader) (name : Text) (named : Reader) : Steps (List Attribute) :=
  let again (value : Option Text) (next : Reader) : Steps (List Attribute) :=
    .call .attributes next fun attributes last =>
      .done (⟨name, value, ⟨r.pos, next.pos⟩⟩ :: attributes, last)
  match name, r.rest with
  | [], c :: _ =>
      .call .attributes ((r.skip 1).report (.attribute (.unexpectedCharacter c)) r.pos)
        fun attributes last => .done (attributes, last)
  | _, _ =>
      .call .blanks named fun _ behind =>
        if behind.isAt "=" then
          .call .blanks (behind.skip 1) fun _ quoted =>
            .call (.attributeValue r.pos) quoted fun value next => again (some value) next
        else again none named

def attributesBody (r : Reader) : Steps (List Attribute) :=
  .call .blanks r fun _ r =>
    if r.atTagEnd then .done ([], r) else .call .name r (namedBody r)

/-- The end of an element from behind its content on. -/
def closingBody (r : Reader) (tag : Text) (attributes : List Attribute) (children : List Node)
    (behind : Reader) : Steps Node :=
  let finish (last : Reader) : Steps Node :=
    .done (.element tag attributes children false ⟨r.pos, last.pos⟩, last)
  if behind.rest.isEmpty then finish (behind.report (.unclosedTag tag) r.pos)
  else
    .call .closingTag behind fun closing last =>
      if Text.sameLetters closing tag then finish last
      else finish (last.report (.mismatchedTag tag closing) behind.pos)

/-- An element from behind its attributes on. -/
def taggedBody (r : Reader) (tag : Text) (attributes : List Attribute) (next : Reader) : Steps Node :=
  let alone (last : Reader) : Steps Node :=
    .done (.element tag attributes [] true ⟨r.pos, last.pos⟩, last)
  if next.isAt "/>" then alone (next.skip 2)
  else if next.isAt ">" then
    if isVoid tag then alone (next.skip 1)
    else if isRawText tag then
      .call (.rawText tag) (next.skip 1) (closingBody r tag attributes)
    else .call (.nodes true) (next.skip 1) (closingBody r tag attributes)
  else alone (next.report (.unexpectedEnd .tagEnd) r.pos)

def elementBody (r : Reader) : Steps Node :=
  .call .name (r.skip 1) fun tag named => .call .attributes named (taggedBody r tag)

def nodesBody (inElement : Bool) (r : Reader) : Steps (List Node) :=
  let again (node : Option Node) (next : Reader) : Steps (List Node) :=
    .call (.nodes inElement) next fun nodes last => .done (node.toList ++ nodes, last)
  if r.rest.isEmpty then .done ([], r)
  else if r.isAt "<!--" then .call .comment r fun comment next => again (some comment) next
  else if r.isAt "</" then
    if inElement then .done ([], r)
    else
      .call .closingTag r fun name next =>
        again none (next.report (.mismatchedTag [] name) r.pos)
  else if r.isAt "<!" || r.isAt "<?" then again (some r.parseMarkup.1) r.parseMarkup.2
  else if r.atTag then .call .element r fun element next => again (some element) next
  else .call .text r fun text next => again (some text) next

/-- What a production does, with the productions that it calls. -/
def body : (production : Production) → Reader → Steps production.Result
  | blanks, r => .done ((), r.skipBlanks)
  | name, r => .done r.readName
  | closingTag, r => closingTagBody r
  | attributeValue start, r => .done (r.readAttributeValue start)
  | attributes, r => attributesBody r
  | comment, r => .done r.parseComment
  | text, r => .done r.parseText
  | rawText tag, r => .done (r.parseRawText tag)
  | element, r => elementBody r
  | nodes inElement, r => nodesBody inElement r

end Bodies

end Reader.Production

namespace Reader

section Shorter

variable {r next : Reader}

theorem shorter_parseNode (proper : r.rest ≠ []) :
    r.parseNode.2.rest.length < r.rest.length :=
  shorter_of_onward proper (accepts_parseNode_of proper (accepts_parseElement r)).onward

theorem rest_ne_nil_of_isAt {text : String} (here : r.isAt text = true) (some : text.toList ≠ []) :
    r.rest ≠ [] :=
  (isAt_iff.mp here).ne_nil some

/-- What stands inside of an element is shorter than the element. -/
theorem shorter_inside (opens : r.tagAttributes.2.isAt ">" = true) :
    (r.tagAttributes.2.skip 1).rest.length < r.rest.length := by
  have tag := (accepts_tagAttributes r).onward
  have proper := rest_ne_nil_of_isAt opens (by decide)
  exact shorter_of_onward ((tag.trans (accepts_skip r 1).onward).ne_nil proper)
    ((accepts_skip _ 1).onward.trans tag)

theorem not_comment_of_closing (closing : r.isAt "</" = true) : ¬ r.isAt "<!--" = true := by
  obtain ⟨rest, whole⟩ := isAt_iff.mp closing
  simp [isAt_iff, ← whole]

theorem shorter_readName (named : r.readName.1 ≠ []) :
    r.readName.2.rest.length < r.rest.length := by
  have whole : r.readName.1 ++ r.readName.2.rest = r.rest := List.takeWhile_append_dropWhile
  have some := List.length_pos_iff.mpr named
  have lengths := congrArg List.length whole
  rw [List.length_append] at lengths
  omega

theorem attributeStep_end (ends : r.skipBlanks.atTagEnd = true) : r.attributeStep = none :=
  if_pos ends

theorem attributeStep_unnamed {c : Char} {more : Text} (inside : ¬ r.skipBlanks.atTagEnd = true)
    (unnamed : r.skipBlanks.readName.1 = []) (whole : r.skipBlanks.rest = c :: more) :
    r.attributeStep = some ([], (r.skipBlanks.skip 1).report
      (.attribute (.unexpectedCharacter c)) r.skipBlanks.pos) := by
  unfold attributeStep
  dsimp only
  split
  case isTrue ends => exact absurd ends inside
  case isFalse => simp only [unnamed, whole]

theorem attributeStep_named (inside : ¬ r.skipBlanks.atTagEnd = true)
    (named : r.skipBlanks.readName.1 ≠ []) :
    r.attributeStep =
      let read := r.skipBlanks.readName.2.readAttribute r.skipBlanks.readName.1 r.skipBlanks.pos
      some ([read.1], read.2) := by
  unfold attributeStep readAttribute
  dsimp only
  split
  case isTrue ends => exact absurd ends inside
  case isFalse =>
    split
    case h_1 unnamed _ => exact absurd unnamed named
    case h_2 => split <;> rfl

theorem rest_ne_nil_of_inside (inside : ¬ r.atTagEnd = true) : r.rest ≠ [] := by
  intro nothing
  simp [atTagEnd, nothing] at inside

theorem named_of_inside (inside : ¬ r.atTagEnd = true)
    (other : ∀ c more, r.readName.1 = [] → r.rest = c :: more → False) : r.readName.1 ≠ [] := by
  intro unnamed
  obtain ⟨c, more, whole⟩ := List.exists_cons_of_ne_nil (rest_ne_nil_of_inside inside)
  exact other c more unnamed whole

theorem suffix_readAttribute (named : Reader) (name : Text) (start : Nat) :
    (named.readAttribute name start).2.rest <:+ named.rest := by
  have sign := (accepts_skipBlanks named).trans (accepts_skip _ 1)
  have value := (sign.trans (accepts_skipBlanks _)).trans (accepts_readAttributeValue _ start)
  unfold readAttribute
  dsimp only
  split
  · exact value.onward
  · exact List.suffix_refl _

theorem shorter_attributeStep {attributes : List Attribute}
    (step : r.attributeStep = some (attributes, next)) : next.rest.length < r.rest.length := by
  have blanks := (accepts_skipBlanks r).onward.length_le
  by_cases ends : r.skipBlanks.atTagEnd = true
  · rw [attributeStep_end ends] at step
    cases step
  have proper := rest_ne_nil_of_inside ends
  by_cases named : r.skipBlanks.readName.1 = []
  · obtain ⟨c, more, whole⟩ := List.exists_cons_of_ne_nil proper
    rw [attributeStep_unnamed ends named whole] at step
    cases step
    exact (shorter_of_onward proper (List.suffix_refl _)).trans_le blanks
  · rw [attributeStep_named ends named] at step
    cases step
    exact ((suffix_readAttribute _ _ _).length_le.trans_lt (shorter_readName named)).trans_le blanks

theorem parseAttributes_done (declines : r.attributeStep = none) :
    r.parseAttributes = ([], r.skipBlanks) := by
  rw [parseAttributes, repeatedly, declines]

theorem parseAttributes_more {attributes : List Attribute}
    (step : r.attributeStep = some (attributes, next)) :
    r.parseAttributes = (attributes ++ next.parseAttributes.1, next.parseAttributes.2) := by
  rw [parseAttributes, repeatedly, step]
  simp only [shorter_attributeStep step, if_true]
  rfl

end Shorter

namespace Production

section Values

variable {r : Reader}

theorem value_namedBody (inside : ¬ r.skipBlanks.atTagEnd = true) :
    (namedBody r.skipBlanks r.skipBlanks.readName.1 r.skipBlanks.readName.2).value run =
      run .attributes r := by
  unfold namedBody
  dsimp only
  split
  case h_1 unnamed whole =>
    exact (parseAttributes_more (attributeStep_unnamed inside unnamed whole)).symm
  case h_2 other =>
    have named := named_of_inside inside other
    rw [run, parseAttributes_more (attributeStep_named inside named), readAttribute]
    by_cases assigned : r.skipBlanks.readName.2.skipBlanks.isAt "=" = true
    · simp only [Calling.value, run, assigned, if_true]
      rfl
    · simp only [Calling.value, run, assigned, Bool.false_eq_true, if_false]
      rfl

theorem value_attributesBody (r : Reader) :
    (attributesBody r).value run = run .attributes r := by
  by_cases ends : r.skipBlanks.atTagEnd = true
  · rw [run, parseAttributes_done (attributeStep_end ends)]
    simp only [attributesBody, Calling.value, run, ends, if_true]
  · rw [← value_namedBody ends]
    simp only [attributesBody, Calling.value, run, ends, Bool.false_eq_true, if_false]

theorem value_closingBody (r : Reader) (tag : Text) (attributes : List Attribute)
    (children : List Node) (behind : Reader) :
    (closingBody r tag attributes children behind).value run =
      let last := behind.closeElement tag r.pos
      (.element tag attributes children false ⟨r.pos, last.pos⟩, last) := by
  unfold closingBody closeElement
  dsimp only
  split
  · rfl
  · by_cases same : Text.sameLetters behind.readClosingTag.1 tag = true <;>
      simp only [Calling.value, run, same, if_true, Bool.false_eq_true, if_false]

theorem value_elementBody (r : Reader) : (elementBody r).value run = run .element r := by
  rw [run, parseElement_eq]
  change (taggedBody r r.tagName r.tagAttributes.1 r.tagAttributes.2).value run = _
  unfold taggedBody
  dsimp only
  split
  · rfl
  split
  case isFalse => rfl
  case isTrue opens =>
    simp only [parseChildren, shorter_inside opens, if_true]
    split
    · rfl
    split
    · exact value_closingBody r _ _ _ _
    · exact value_closingBody r _ _ _ _

theorem value_nodesBody (inElement : Bool) (r : Reader) :
    (nodesBody inElement r).value run = run (.nodes inElement) r := by
  unfold nodesBody
  dsimp only
  split
  case isTrue nothing =>
    rw [run, parseNodes_end (by rw [nothing, Bool.true_or])]
    rfl
  case isFalse some =>
    have more (inside : ¬ (inElement && r.isAt "</") = true) : run (.nodes inElement) r =
        (r.parseNode.1.toList ++ (r.parseNode.2.parseNodes inElement).1,
          (r.parseNode.2.parseNodes inElement).2) :=
      parseNodes_more (by simpa [some] using inside) (shorter_parseNode (by simpa using some))
    by_cases closing : r.isAt "</" = true
    · have noComment : ¬ r.isAt "<!--" = true := not_comment_of_closing closing
      rw [if_neg noComment, if_pos closing]
      cases inElement with
      | true =>
          rw [run, parseNodes_end (by rw [closing, Bool.true_and, Bool.or_true])]
          rfl
      | false =>
          rw [more (by simp), parseNode, if_neg noComment, if_pos closing]
          rfl
    rw [more (by simp [closing]), parseNode, if_neg closing, if_neg closing]
    split
    · rfl
    split
    · rfl
    split <;> rfl

end Values

section Calls

open Routines

variable {caller callee : Production} {r next : Reader}

/-- The calls of a body go on with what its production has, or with less of it. -/
abbrev Descends {Value : Type} (caller : Production) (r : Reader) (steps : Steps Value) : Prop :=
  steps.All run fun callee next => Below Reader.rest Production.ctorIdx (caller, r) (callee, next)

theorem below_of_attributeStep {attributes : List Attribute}
    (step : r.attributeStep = some (attributes, next)) :
    Below Reader.rest Production.ctorIdx (caller, r) (callee, next) :=
  .shorter (accepts_attributeStep step).onward (shorter_attributeStep step)

theorem descends_namedBody (inside : ¬ r.skipBlanks.atTagEnd = true) :
    Descends .attributes r
      (namedBody r.skipBlanks r.skipBlanks.readName.1 r.skipBlanks.readName.2) := by
  have name := (accepts_skipBlanks r).trans (accepts_readName _)
  have behind := name.trans (accepts_skipBlanks _)
  have sign := behind.trans (accepts_skip _ 1)
  have quoted := sign.trans (accepts_skipBlanks _)
  unfold namedBody
  dsimp only
  split
  case h_1 unnamed whole =>
    exact ⟨below_of_attributeStep (attributeStep_unnamed inside unnamed whole), trivial⟩
  case h_2 other =>
    have named := named_of_inside inside other
    have step := attributeStep_named inside named
    refine ⟨.lower name.onward rfl, ?_⟩
    by_cases assigned : r.skipBlanks.readName.2.skipBlanks.isAt "=" = true
    · simp only [readAttribute, assigned, if_true] at step
      simp only [run, assigned, if_true]
      exact ⟨.lower sign.onward rfl, .lower quoted.onward rfl,
        below_of_attributeStep step, trivial⟩
    · simp only [readAttribute, assigned, Bool.false_eq_true, if_false] at step
      simp only [run, assigned, Bool.false_eq_true, if_false]
      exact ⟨below_of_attributeStep step, trivial⟩

theorem descends_attributesBody (r : Reader) : Descends .attributes r (attributesBody r) := by
  have blanks := (accepts_skipBlanks r).onward
  refine ⟨.lower (List.suffix_refl _) rfl, ?_⟩
  by_cases ends : r.skipBlanks.atTagEnd = true
  · simp only [run, ends, if_true]
    trivial
  · simp only [run, ends, Bool.false_eq_true, if_false]
    exact ⟨.lower blanks rfl, descends_namedBody ends⟩

theorem descends_closingBody {attributes : List Attribute} {children : List Node} {tag : Text}
    {behind : Reader} (suffix : behind.rest <:+ r.rest) :
    Descends .element r (closingBody r tag attributes children behind) := by
  unfold closingBody
  dsimp only
  split
  · trivial
  · refine ⟨.lower suffix rfl, ?_⟩
    dsimp only
    split <;> trivial

theorem descends_elementBody (r : Reader) : Descends .element r (elementBody r) := by
  have name := (accepts_skip r 1).trans (accepts_readName _)
  have tag : Accepts r r.tagAttributes.2 _ := (accepts_skip r 1).trans (accepts_tagAttributes r)
  refine ⟨.lower (accepts_skip r 1).onward rfl, .lower name.onward rfl, ?_⟩
  change Descends .element r (taggedBody r r.tagName r.tagAttributes.1 r.tagAttributes.2)
  unfold taggedBody
  dsimp only
  split
  · trivial
  split
  case isFalse => trivial
  case isTrue opens =>
    have body := tag.trans (accepts_skip r.tagAttributes.2 1)
    split
    · trivial
    split
    · exact ⟨.lower body.onward rfl,
        descends_closingBody (body.trans (accepts_parseRawText _ _)).onward⟩
    · exact ⟨.shorter body.onward (shorter_inside opens),
        descends_closingBody (body.trans (accepts_parseNodes true _)).onward⟩

theorem descends_nodesBody (inElement : Bool) (r : Reader) :
    Descends (.nodes inElement) r (nodesBody inElement r) := by
  unfold nodesBody
  dsimp only
  split
  · trivial
  case isFalse some =>
    have proper : r.rest ≠ [] := by simpa using some
    have again : Below Reader.rest Production.ctorIdx (.nodes inElement, r)
        (.nodes inElement, r.parseNode.2) :=
      .shorter
        ((accepts_parseNode_of proper (accepts_parseElement r)).onward.trans (accepts_skip r 1).onward)
        (shorter_parseNode proper)
    unfold parseNode at again
    split
    case isTrue comment =>
      rw [if_pos comment] at again
      exact ⟨.lower (List.suffix_refl _) rfl, again, trivial⟩
    case isFalse noComment =>
      rw [if_neg noComment] at again
      split
      case isTrue closing =>
        rw [if_pos closing] at again
        split
        · trivial
        · exact ⟨.lower (List.suffix_refl _) rfl, again, trivial⟩
      case isFalse noClosing =>
        rw [if_neg noClosing] at again
        split
        case isTrue markup =>
          rw [if_pos markup] at again
          exact ⟨again, trivial⟩
        case isFalse noMarkup =>
          rw [if_neg noMarkup] at again
          split
          case isTrue opens =>
            rw [if_pos opens] at again
            exact ⟨.lower (List.suffix_refl _) rfl, again, trivial⟩
          case isFalse noTag =>
            rw [if_neg noTag] at again
            exact ⟨.lower (List.suffix_refl _) rfl, again, trivial⟩

end Calls

section Positions

variable {text : Text} {r : Reader}

/-- A production starts at a place in the text. The value of an attribute stands behind the place that
the attribute starts at. -/
def StandsIn (text : Text) : Production → Reader → Prop
  | attributeValue start, r => r.Stands text ∧ text.IsBoundary start ∧ start ≤ r.pos
  | _, r => r.Stands text

theorem StandsIn.stands {production : Production} (standsIn : StandsIn text production r) :
    r.Stands text := by
  cases production with
  | attributeValue start => exact standsIn.1
  | _ => exact standsIn

theorem goes_run {production : Production} (standsIn : StandsIn text production r) :
    Goes text r (production.run r).2 True := by
  have stands := standsIn.stands
  cases production with
  | blanks => exact goes_skipBlanks stands
  | name => exact goes_readName stands
  | closingTag => exact goes_readClosingTag stands
  | attributeValue start => exact goes_readAttributeValue stands standsIn.2.1 standsIn.2.2
  | attributes => exact goes_parseAttributes stands
  | comment => exact (goes_parseComment stands).imp fun _ => trivial
  | text => exact (goes_parseText stands).imp fun _ => trivial
  | rawText tag => exact (goes_parseRawText stands tag).imp fun _ => trivial
  | element => exact (goes_parseElement r stands).imp fun _ => trivial
  | nodes inElement => exact (goes_parseNodes inElement r stands).imp fun _ => trivial

theorem standsIn_namedBody (stands : r.Stands text) :
    (namedBody r r.readName.1 r.readName.2).All run (StandsIn text) := by
  have name := goes_readName stands
  have behind := name.trans (goes_skipBlanks name.stands)
  have sign := behind.trans (goes_skip behind.stands 1)
  have quoted := sign.trans (goes_skipBlanks sign.stands)
  have value := goes_readAttributeValue quoted.stands stands.boundary quoted.onward
  have skipped := goes_skip stands 1
  unfold namedBody
  dsimp only
  split
  · exact ⟨(skipped.report _ stands.boundary skipped.onward).stands, trivial⟩
  · refine ⟨name.stands, ?_⟩
    dsimp only
    split
    · exact ⟨sign.stands, ⟨quoted.stands, stands.boundary, quoted.onward⟩, value.stands, trivial⟩
    · exact ⟨name.stands, trivial⟩

theorem standsIn_closingBody {attributes : List Attribute} {children : List Node} {tag : Text}
    {behind : Reader} (stands : behind.Stands text) :
    (closingBody r tag attributes children behind).All run (StandsIn text) := by
  unfold closingBody
  dsimp only
  split
  · trivial
  · refine ⟨stands, ?_⟩
    dsimp only
    split <;> trivial

theorem standsIn_taggedBody {attributes : List Attribute} {tag : Text} {next : Reader}
    (stands : next.Stands text) : (taggedBody r tag attributes next).All run (StandsIn text) := by
  have body := (goes_skip stands 1).stands
  unfold taggedBody
  dsimp only
  split
  · trivial
  split
  case isFalse => trivial
  split
  · trivial
  split
  · exact ⟨body, standsIn_closingBody (goes_parseRawText body tag).stands⟩
  · exact ⟨body, standsIn_closingBody (goes_parseNodes true _ body).stands⟩

theorem standsIn_nodesBody (inElement : Bool) (stands : r.Stands text) :
    (nodesBody inElement r).All run (StandsIn text) := by
  have closing := goes_readClosingTag stands
  unfold nodesBody
  dsimp only
  split
  · trivial
  split
  · exact ⟨stands, (goes_parseComment stands).stands, trivial⟩
  split
  · split
    · trivial
    · exact ⟨stands, (closing.report _ stands.boundary closing.onward).stands, trivial⟩
  split
  · exact ⟨(goes_parseMarkup stands).stands, trivial⟩
  split
  · exact ⟨stands, (goes_parseElement r stands).stands, trivial⟩
  · exact ⟨stands, (goes_parseText stands).stands, trivial⟩

theorem standsIn_body {production : Production} (standsIn : StandsIn text production r) :
    (production.body r).All run (StandsIn text) := by
  have stands := standsIn.stands
  cases production with
  | closingTag => exact ⟨(goes_skip stands 2).stands, trivial⟩
  | attributes =>
      have blanks := (goes_skipBlanks stands).stands
      refine ⟨stands, ?_⟩
      dsimp only
      split
      · trivial
      · exact ⟨blanks, standsIn_namedBody blanks⟩
  | element =>
      have opened := goes_skip stands 1
      have name := goes_readName opened.stands
      exact ⟨opened.stands, name.stands, standsIn_taggedBody (goes_tagAttributes stands).stands⟩
  | nodes inElement => exact standsIn_nodesBody inElement stands
  | _ => trivial

end Positions

theorem value_body (production : Production) (r : Reader) :
    (production.body r).value run = production.run r := by
  cases production with
  | attributes => exact value_attributesBody r
  | element => exact value_elementBody r
  | nodes inElement => exact value_nodesBody inElement r
  | _ => rfl

theorem descends_body (production : Production) (r : Reader) :
    Descends production r (production.body r) := by
  cases production with
  | closingTag => exact ⟨.lower (accepts_skip r 2).onward rfl, trivial⟩
  | attributes => exact descends_attributesBody r
  | element => exact descends_elementBody r
  | nodes inElement => exact descends_nodesBody inElement r
  | _ => trivial

end Production

/-- The productions of the reader, with what they call. -/
def reading : Routines Production Reader :=
  ⟨Production.Result, Production.body, Production.run, Production.value_body⟩

theorem makesProgress_reading : reading.MakesProgress rest Production.ctorIdx :=
  Routines.makesProgress fun {caller callee} calls =>
    Calling.all_iff.mp (Production.descends_body caller.1 caller.2) callee calls

/-- Nodes outside of elements are read up to the end of the text. -/
theorem rest_parseNodes (r : Reader) : (r.parseNodes false).2.rest = [] := by
  by_cases ends : r.rest = []
  · rw [parseNodes_end (by simp [ends])]
    exact ends
  rw [parseNodes_more (by simpa using ends) (shorter_parseNode ends)]
  exact rest_parseNodes _
termination_by r.rest.length
decreasing_by exact shorter_parseNode ends

section Reached

variable {text : Text} {caller callee : Production × Reader}

/-- Whatever is called while a text is read starts at a place in the text. -/
theorem standsIn_of_chain
    (chain : Relation.ReflTransGen reading.Calls (.nodes false, start text) caller) :
    caller.1.StandsIn text caller.2 := by
  induction chain with
  | refl => exact stands_start text
  | tail _ calls inductionHypothesis =>
      exact Calling.all_iff.mp (Production.standsIn_body inductionHypothesis) _ calls

/-- Where less of the text is left, the position is further on. -/
theorem Stands.pos_lt {r next : Reader} (stands : r.Stands text) (standsNext : next.Stands text)
    (shorter : next.rest.length < r.rest.length) : r.pos < next.pos := by
  obtain ⟨before, whole, size⟩ := stands.rest
  obtain ⟨front, wholeToo, sizeToo⟩ := standsNext.rest
  by_contra notOnward
  have starts : front <+: before :=
    Text.prefix_of_size_le ⟨_, wholeToo⟩ ⟨_, whole⟩ (by omega)
  have notLonger := starts.length_le
  have lengths := congrArg List.length (whole.trans wholeToo.symm)
  rw [List.length_append, List.length_append] at lengths
  omega

/-- A production that is entered again while a text is read starts further on. -/
theorem pos_lt_of_chain
    (reached : Relation.ReflTransGen reading.Calls (.nodes false, start text) caller)
    (chain : Relation.TransGen reading.Calls caller callee)
    (again : callee.1.ctorIdx = caller.1.ctorIdx) : caller.2.pos < callee.2.pos := by
  have standsIn := standsIn_of_chain reached
  have standsInNext := standsIn_of_chain (reached.trans chain.to_reflTransGen)
  exact standsIn.stands.pos_lt standsInNext.stands
    (makesProgress_reading.consumes caller callee chain again)

end Reached

end Reader

/-- Both parsers make progress on every input and read it up to its end. The position in a template
stays within the text and on the boundaries of its characters. -/
theorem makesProgress_parsers :
    (Cursor.parsing.MakesProgress Cursor.rest Cursor.Production.ctorIdx ∧
      ∀ offset text, ((Cursor.start offset text
        (Token.ofText offset text)).parseStatements false).2.rest = []) ∧
    Reader.reading.MakesProgress Reader.rest Reader.Production.ctorIdx ∧
      ∀ text, ((Reader.start text).parseNodes false).2.rest = [] ∧
        ∀ caller : Reader.Production × Reader,
          Relation.ReflTransGen Reader.reading.Calls (.nodes false, .start text) caller →
            (∀ pos ∈ [caller.2.pos, (caller.1.run caller.2).2.pos],
              pos ≤ Text.size text ∧ text.IsBoundary pos) ∧
            ∀ callee, Relation.TransGen Reader.reading.Calls caller callee →
              callee.1.ctorIdx = caller.1.ctorIdx → caller.2.pos < callee.2.pos := by
  refine ⟨⟨Cursor.makesProgress_parsing, Cursor.rest_parseStatements⟩,
    Reader.makesProgress_reading, fun text => ⟨Reader.rest_parseNodes _, fun caller reached => ?_⟩⟩
  have standsIn := Reader.standsIn_of_chain reached
  have boundary := standsIn.stands.boundary
  have boundaryBehind := (Reader.Production.goes_run standsIn).stands.boundary
  refine ⟨?_, fun callee chain again => Reader.pos_lt_of_chain reached chain again⟩
  simp only [List.mem_cons, List.not_mem_nil, or_false, forall_eq_or_imp, forall_eq]
  exact ⟨⟨boundary.le, boundary⟩, boundaryBehind.le, boundaryBehind⟩

end ComponentStyles
