import ComponentStyles.Proofs.Source.Boundary
import ComponentStyles.Template.Parser

/-!
# Where nodes stand

A reader of a text stands in it if what lies behind its position is what it still has to read. It
goes on from there only by what it takes, so the span of a text node covers the content of the node,
elements stop at boundaries, and every error points into the text.
-/

namespace ComponentStyles

variable {text : Text}

section Places

mutual

/-- Elements stop at a boundary of the text, and every text node covers its content. -/
def Node.StandsIn (text : Text) : Node → Prop
  | .element _ _ children _ span => text.IsBoundary span.stop ∧ NodesStandIn text children
  | .text content span => span.Covers text content
  | .comment _ _ => True

def NodesStandIn (text : Text) : List Node → Prop
  | [] => True
  | node :: rest => node.StandsIn text ∧ NodesStandIn text rest

end

theorem nodesStandIn_iff {nodes : List Node} :
    NodesStandIn text nodes ↔ ∀ node ∈ nodes, node.StandsIn text := by
  induction nodes with
  | nil => simp [NodesStandIn]
  | cons node rest inductionHypothesis => simp [NodesStandIn, inductionHypothesis]

theorem nodesStandIn_toList {node? : Option Node} {rest : List Node}
    (first : ∀ node ∈ node?, node.StandsIn text) (later : NodesStandIn text rest) :
    NodesStandIn text (node?.toList ++ rest) := by
  cases node? with
  | none => exact later
  | some node => exact ⟨first node rfl, later⟩

end Places

namespace Reader

variable {r next last : Reader} {taken rest : Text} {found foundToo : Prop}

section Goes

/-- A reader of a text. -/
structure Stands (text : Text) (r : Reader) : Prop where
  rest : ∃ before, before ++ r.rest = text ∧ Text.size before = r.pos
  errors : ∀ e ∈ r.errors, e.span.IsWithin text

theorem stands_start (text : Text) : (start text).Stands text :=
  ⟨⟨[], rfl, rfl⟩, nofun⟩

theorem Stands.boundary (stands : r.Stands text) : text.IsBoundary r.pos := by
  obtain ⟨before, rfl, size⟩ := stands.rest
  exact ⟨before, List.prefix_append _ _, size⟩

/-- A step of a reader has come to a place in the text that is not further in front, and has found
something out. -/
structure Goes (text : Text) (r next : Reader) (found : Prop) : Prop where
  stands : next.Stands text
  onward : r.pos ≤ next.pos
  found : found

theorem Goes.imp (goes : Goes text r next found) (imp : found → foundToo) :
    Goes text r next foundToo :=
  ⟨goes.stands, goes.onward, imp goes.found⟩

theorem Goes.trans (first : Goes text r next found) (second : Goes text next last foundToo) :
    Goes text r last (found ∧ foundToo) :=
  ⟨second.stands, first.onward.trans second.onward, first.found, second.found⟩

theorem goes_refl (stands : r.Stands text) : Goes text r r True :=
  ⟨stands, Nat.le_refl _, trivial⟩

/-- What is read covers the text from one position to the other. -/
theorem goes_goTo (stands : r.Stands text) (cut : taken ++ rest = r.rest) :
    Goes text r (r.goTo taken rest)
      (Span.Covers ⟨r.pos, (r.goTo taken rest).pos⟩ text taken) := by
  obtain ⟨before, whole, size⟩ := stands.rest
  rw [← cut, ← List.append_assoc] at whole
  have sizeThrough : Text.size (before ++ taken) = (r.goTo taken rest).pos := by
    rw [Text.size_append, size]
    rfl
  refine ⟨⟨⟨before ++ taken, whole, sizeThrough⟩, stands.errors⟩, Nat.le_add_right _ _, ?_⟩
  exact ⟨before, ⟨rest, whole⟩, by rw [size, sizeThrough]⟩

theorem goes_skip (stands : r.Stands text) (count : Nat) : Goes text r (r.skip count)
    (Span.Covers ⟨r.pos, (r.skip count).pos⟩ text (r.rest.take count)) :=
  goes_goTo stands (List.take_append_drop count r.rest)

theorem goes_readWhile (stands : r.Stands text) (test : Char → Bool) :
    Goes text r (r.readWhile test).2
      (Span.Covers ⟨r.pos, (r.readWhile test).2.pos⟩ text (r.readWhile test).1) :=
  goes_goTo stands List.takeWhile_append_dropWhile

theorem goes_skipBlanks (stands : r.Stands text) : Goes text r r.skipBlanks True :=
  (goes_readWhile stands _).imp fun _ => trivial

theorem goes_readName (stands : r.Stands text) : Goes text r r.readName.2 True :=
  (goes_readWhile stands _).imp fun _ => trivial

theorem goes_finish (stands : r.Stands text) : Goes text r r.finish True :=
  (goes_goTo stands (List.append_nil _)).imp fun _ => trivial

/-- A problem of what was read since a boundary points into the text. -/
theorem Goes.report (goes : Goes text r last found) (problem : Problem) {start : Nat}
    (boundary : text.IsBoundary start) (before : start ≤ last.pos) :
    Goes text r (last.report problem start) found where
  stands := by
    refine ⟨goes.stands.rest, fun e listed => ?_⟩
    rcases List.mem_append.mp listed with listed | listed
    · exact goes.stands.errors e listed
    · rw [List.mem_singleton.mp listed]
      exact ⟨boundary, goes.stands.boundary, before⟩
  onward := goes.onward
  found := goes.found

theorem goes_readThroughTagEnd (stands : r.Stands text) : Goes text r r.readThroughTagEnd.2
    (Span.Covers ⟨r.pos, r.readThroughTagEnd.2.pos⟩ text r.readThroughTagEnd.1) := by
  have before := goes_readWhile stands (· != '>')
  exact (before.trans (goes_skip before.stands 1)).imp fun found => found.1.append found.2

theorem goes_readClosingTag (stands : r.Stands text) : Goes text r r.readClosingTag.2 True := by
  have opened := goes_skip stands 2
  have named := opened.trans (goes_readName opened.stands)
  exact (named.trans (goes_readThroughTagEnd named.stands)).imp fun _ => trivial

end Goes

section Attributes

theorem goes_readAttributeValue (stands : r.Stands text) {start : Nat}
    (boundary : text.IsBoundary start) (before : start ≤ r.pos) :
    Goes text r (r.readAttributeValue start).2 True := by
  rw [readAttributeValue]
  split
  · exact goes_refl stands
  case h_2 quote _ _ =>
    split
    · have opened := goes_skip stands 1
      have value := opened.trans (goes_readWhile opened.stands (· != quote))
      dsimp only
      split
      · exact (value.report _ boundary (before.trans value.onward)).imp fun _ => trivial
      · exact (value.trans (goes_skip value.stands 1)).imp fun _ => trivial
    · exact (goes_readWhile stands _).imp fun _ => trivial

theorem goes_attributeStep {attributes : List Attribute} (stands : r.Stands text)
    (step : r.attributeStep = some (attributes, next)) : Goes text r next True := by
  have blank := goes_skipBlanks stands
  have name := goes_readName blank.stands
  have behind := name.trans (goes_skipBlanks name.stands)
  have sign := behind.trans (goes_skip behind.stands 1)
  have value := sign.trans (goes_skipBlanks sign.stands)
  simp only [attributeStep] at step
  split at step
  · cases step
  split at step
  · cases step
    have skipped := goes_skip blank.stands 1
    exact (blank.trans (skipped.report _ blank.stands.boundary skipped.onward)).imp
      fun _ => trivial
  · split at step
    · cases step
      exact ((blank.trans value).trans (goes_readAttributeValue value.stands
        blank.stands.boundary value.onward)).imp fun _ => trivial
    · cases step
      exact (blank.trans name).imp fun _ => trivial

theorem goes_repeatedly {α : Type} {step : Reader → Option (List α × Reader)}
    (goes : ∀ {r found next}, r.Stands text → step r = some (found, next) → Goes text r next True)
    (stands : r.Stands text) : Goes text r (r.repeatedly step).2 True := by
  induction r using repeatedly.induct step with
  | case1 r declines =>
      rw [repeatedly, declines]
      exact goes_refl stands
  | case2 r found next stepped shorter _ _ _ inductionHypothesis =>
      rw [repeatedly, stepped]
      simp only [shorter, if_true]
      have first := goes stands stepped
      exact (first.trans (inductionHypothesis first.stands)).imp fun _ => trivial
  | case3 r found next stepped stuck =>
      rw [repeatedly, stepped]
      simp only [stuck, if_false]
      exact goes stands stepped

theorem goes_parseAttributes (stands : r.Stands text) : Goes text r r.parseAttributes.2 True := by
  have attributes := goes_repeatedly goes_attributeStep stands
  exact (attributes.trans (goes_skipBlanks attributes.stands)).imp fun _ => trivial

end Attributes

section Leaves

theorem splitBefore?_append {part whole before behind : Text}
    (split : Text.splitBefore? part whole = some (before, behind)) : before ++ behind = whole := by
  induction whole generalizing before behind with
  | nil =>
      rw [Text.splitBefore?] at split
      split at split <;> cases split
      rfl
  | cons c rest inductionHypothesis =>
      rw [Text.splitBefore?] at split
      split at split
      · cases split
        rfl
      · obtain ⟨⟨front, found⟩, later, same⟩ := Option.map_eq_some_iff.mp split
        cases same
        rw [List.cons_append, inductionHypothesis later]

theorem splitRawText_append (tag whole : Text) :
    (splitRawText tag whole).1 ++ (splitRawText tag whole).2 = whole := by
  induction whole with
  | nil => rfl
  | cons c rest inductionHypothesis =>
      rw [splitRawText]
      split
      · rfl
      · exact congrArg (c :: ·) inductionHypothesis

theorem goes_parseComment (stands : r.Stands text) :
    Goes text r r.parseComment.2 (r.parseComment.1.StandsIn text) := by
  have body := goes_skip stands 4
  simp only [parseComment]
  split
  case h_1 content behind split =>
    have inside := body.trans (goes_goTo body.stands (splitBefore?_append split))
    exact (inside.trans (goes_skip inside.stands 3)).imp fun _ => trivial
  case h_2 =>
    have everything := body.trans (goes_finish body.stands)
    exact (everything.report _ stands.boundary everything.onward).imp fun _ => trivial

theorem goes_parseText (stands : r.Stands text) :
    Goes text r r.parseText.2 (r.parseText.1.StandsIn text) := by
  have first := goes_skip stands 1
  exact (first.trans (goes_readWhile first.stands (· != '<'))).imp
    fun found => found.1.append found.2

theorem goes_parseMarkup (stands : r.Stands text) :
    Goes text r r.parseMarkup.2 (r.parseMarkup.1.StandsIn text) :=
  goes_readThroughTagEnd stands

theorem goes_parseRawText (stands : r.Stands text) (tag : Text) :
    Goes text r (r.parseRawText tag).2 (NodesStandIn text (r.parseRawText tag).1) := by
  refine (goes_goTo stands (splitRawText_append (Text.lower tag) r.rest)).imp fun covers => ?_
  rw [parseRawText]
  dsimp only
  split
  · trivial
  · exact ⟨covers, trivial⟩

theorem goes_closeElement (stands : r.Stands text) (tag : Text) {start : Nat}
    (boundary : text.IsBoundary start) (before : start ≤ r.pos) :
    Goes text r (r.closeElement tag start) True := by
  rw [closeElement]
  split
  · exact (goes_refl stands).report _ boundary before
  · have closing := goes_readClosingTag stands
    dsimp only
    split
    · exact closing
    · exact closing.report _ stands.boundary closing.onward

end Leaves

section Equations

/-- Reads the next node, or reports a closing tag. -/
def parseNode (r : Reader) : Option Node × Reader :=
  if r.isAt "<!--" then (some r.parseComment.1, r.parseComment.2)
  else if r.isAt "</" then
    (none, r.readClosingTag.2.report (.mismatchedTag [] r.readClosingTag.1) r.pos)
  else if r.isAt "<!" || r.isAt "<?" then (some r.parseMarkup.1, r.parseMarkup.2)
  else if r.atTag then (some r.parseElement.1, r.parseElement.2)
  else (some r.parseText.1, r.parseText.2)

/-- The ways to read the next node. -/
@[elab_as_elim]
theorem parseNode_cases {motive : Option Node × Reader → Prop}
    (comment : r.isAt "<!--" = true → motive (some r.parseComment.1, r.parseComment.2))
    (closing : r.isAt "</" = true →
      motive (none, r.readClosingTag.2.report (.mismatchedTag [] r.readClosingTag.1) r.pos))
    (markup : ¬ r.isAt "<!--" = true → (r.isAt "<!" || r.isAt "<?") = true →
      motive (some r.parseMarkup.1, r.parseMarkup.2))
    (element : r.atTag = true → motive (some r.parseElement.1, r.parseElement.2))
    (plain : ¬ r.isAt "</" = true → ¬ (r.isAt "<!" || r.isAt "<?") = true → ¬ r.atTag = true →
      motive (some r.parseText.1, r.parseText.2)) : motive r.parseNode := by
  rw [parseNode]
  split
  case isTrue opens => exact comment opens
  case isFalse noComment =>
    split
    case isTrue closes => exact closing closes
    case isFalse noClosing =>
      split
      case isTrue opens => exact markup noComment opens
      case isFalse noMarkup =>
        split
        case isTrue opens => exact element opens
        case isFalse noTag => exact plain noClosing noMarkup noTag

theorem parseNodes_end {inElement : Bool}
    (ends : (r.rest.isEmpty || (inElement && r.isAt "</")) = true) :
    r.parseNodes inElement = ([], r) := by
  rw [parseNodes]
  exact if_pos ends

theorem parseNodes_more {inElement : Bool}
    (inside : ¬ (r.rest.isEmpty || (inElement && r.isAt "</")) = true)
    (shorter : r.parseNode.2.rest.length < r.rest.length) :
    r.parseNodes inElement =
      (r.parseNode.1.toList ++ (r.parseNode.2.parseNodes inElement).1,
        (r.parseNode.2.parseNodes inElement).2) := by
  rw [parseNodes]
  exact (if_neg inside).trans (dif_pos shorter)

theorem parseNodes_stuck {inElement : Bool}
    (inside : ¬ (r.rest.isEmpty || (inElement && r.isAt "</")) = true)
    (stuck : ¬ r.parseNode.2.rest.length < r.rest.length) :
    r.parseNodes inElement = (r.parseNode.1.toList, r.parseNode.2) := by
  rw [parseNodes]
  exact (if_neg inside).trans (dif_neg stuck)

/-- The name of the tag that opens here. -/
def tagName (r : Reader) : Text :=
  (r.skip 1).readName.1

/-- The attributes of the tag that opens here, and the place behind them. -/
def tagAttributes (r : Reader) : List Attribute × Reader :=
  (r.skip 1).readName.2.parseAttributes

/-- Reads what stands inside the element that starts at `r`, from behind its tag. -/
def parseChildren (r body : Reader) : List Node × Reader :=
  if isRawText r.tagName then body.parseRawText r.tagName
  else if body.rest.length < r.rest.length then body.parseNodes true
  else ([], body)

theorem parseElement_eq (r : Reader) : r.parseElement =
    let next := r.tagAttributes.2
    if next.isAt "/>" then
      (.element r.tagName r.tagAttributes.1 [] true ⟨r.pos, (next.skip 2).pos⟩, next.skip 2)
    else if next.isAt ">" then
      let body := next.skip 1
      if isVoid r.tagName then
        (.element r.tagName r.tagAttributes.1 [] true ⟨r.pos, body.pos⟩, body)
      else
        let last := (r.parseChildren body).2.closeElement r.tagName r.pos
        (.element r.tagName r.tagAttributes.1 (r.parseChildren body).1 false ⟨r.pos, last.pos⟩,
          last)
    else
      let last := next.report (.unexpectedEnd .tagEnd) r.pos
      (.element r.tagName r.tagAttributes.1 [] true ⟨r.pos, last.pos⟩, last) := by
  rw [parseElement]
  rfl

end Equations

section Nodes

theorem goes_parseNode_of (stands : r.Stands text)
    (element : Goes text r r.parseElement.2 (r.parseElement.1.StandsIn text)) :
    Goes text r r.parseNode.2 (∀ node ∈ r.parseNode.1, node.StandsIn text) := by
  have found {node : Node} (standsIn : node.StandsIn text) :
      ∀ other ∈ some node, other.StandsIn text := by
    rintro _ ⟨⟩
    exact standsIn
  refine parseNode_cases ?comment ?closing ?markup ?element ?plain
  case comment => exact fun _ => (goes_parseComment stands).imp found
  case closing =>
    intro _
    have closing := goes_readClosingTag stands
    exact (closing.report _ stands.boundary closing.onward).imp fun _ => nofun
  case markup => exact fun _ _ => (goes_parseMarkup stands).imp found
  case element => exact fun _ => element.imp found
  case plain => exact fun _ _ _ => (goes_parseText stands).imp found

theorem goes_tagAttributes (stands : r.Stands text) : Goes text r r.tagAttributes.2 True := by
  have opened := goes_skip stands 1
  have named := opened.trans (goes_readName opened.stands)
  exact (named.trans (goes_parseAttributes named.stands)).imp fun _ => trivial

mutual

theorem goes_parseNodes (inElement : Bool) (r : Reader) (stands : r.Stands text) :
    Goes text r (r.parseNodes inElement).2 (NodesStandIn text (r.parseNodes inElement).1) := by
  by_cases ends : (r.rest.isEmpty || (inElement && r.isAt "</")) = true
  · rw [parseNodes_end ends]
    exact (goes_refl stands).imp fun _ => trivial
  have first := goes_parseNode_of stands (goes_parseElement r stands)
  by_cases shorter : r.parseNode.2.rest.length < r.rest.length
  · rw [parseNodes_more ends shorter]
    exact (first.trans (goes_parseNodes inElement r.parseNode.2 first.stands)).imp
      fun found => nodesStandIn_toList found.1 found.2
  · rw [parseNodes_stuck ends shorter, ← List.append_nil r.parseNode.1.toList]
    exact first.imp fun found => nodesStandIn_toList found trivial
termination_by 2 * r.rest.length + 1

theorem goes_parseElement (r : Reader) (stands : r.Stands text) :
    Goes text r r.parseElement.2 (r.parseElement.1.StandsIn text) := by
  have opened := goes_tagAttributes stands
  have body := opened.trans (goes_skip opened.stands 1)
  rw [parseElement_eq]
  dsimp only
  split
  · have closed := opened.trans (goes_skip opened.stands 2)
    exact closed.imp fun _ => ⟨closed.stands.boundary, trivial⟩
  split
  · split
    · exact body.imp fun _ => ⟨body.stands.boundary, trivial⟩
    · have children : Goes text (r.tagAttributes.2.skip 1)
          (r.parseChildren (r.tagAttributes.2.skip 1)).2
          (NodesStandIn text (r.parseChildren (r.tagAttributes.2.skip 1)).1) := by
        rw [parseChildren]
        split
        · exact goes_parseRawText body.stands _
        split
        case isTrue shorter => exact goes_parseNodes true _ body.stands
        case isFalse => exact (goes_refl body.stands).imp fun _ => trivial
      have inside := body.trans children
      have closed := inside.trans (goes_closeElement inside.stands r.tagName stands.boundary
        inside.onward)
      exact closed.imp fun found => ⟨closed.stands.boundary, found.1.2⟩
  · have failed := opened.report (.unexpectedEnd .tagEnd) stands.boundary opened.onward
    exact failed.imp fun _ => ⟨failed.stands.boundary, trivial⟩
termination_by 2 * r.rest.length

end

end Nodes

end Reader

/-- The nodes that are read from a text stand in it, and so do the errors. -/
theorem Template.standsIn_parse (name text : Text) :
    NodesStandIn text (parse name text).tree.nodes ∧
      ∀ e ∈ (parse name text).errors, e.span.IsWithin text := by
  have read := Reader.goes_parseNodes false (.start text) (Reader.stands_start text)
  exact ⟨read.found, read.stands.errors⟩

end ComponentStyles
