import ComponentStyles.Proofs.Template.Reread

/-!
# Templates that are built by hand

A list of nodes need not come from a file. What it must keep to, for its written form to be read as
the same list, is said here in terms of the nodes alone: every rule keeps one part of a node from
being read as something else or from ending too early.
-/

namespace ComponentStyles

section Definitions

def Attribute.WellFormed (a : Attribute) : Prop :=
  IsAttributeName a.name ∧ a.IsQuotable

/-- Nothing, or one text that does not hold the closing tag of its element. -/
def IsRawChild (tag : Text) : List Node → Prop
  | [] => True
  | [.text content _] =>
      content ≠ [] ∧ ¬ '<' :: '/' :: Text.lower tag <:+: Text.lower content
  | _ => False

def Node.isText : Node → Bool
  | text _ _ => true
  | _ => false

mutual

def Node.WellFormed : Node → Prop
  | .element tag attributes children selfClosing _ =>
      IsTagName tag ∧ (∀ a ∈ attributes, a.WellFormed) ∧
        (isVoid tag = true → selfClosing = true) ∧
        if selfClosing = true then children = []
        else if isRawText tag = true then IsRawChild tag children
        else NodesWellFormed children
  | .text content _ => content ≠ [] ∧ '<' ∉ content
  | .comment content _ => ¬ "-->".toList <:+: content

/-- Two texts side by side would be read as one. -/
def NodesWellFormed : List Node → Prop
  | [] => True
  | node :: rest =>
      node.WellFormed ∧ (node.isText = true → ∀ next ∈ rest.head?, next.isText = false) ∧
        NodesWellFormed rest

end

theorem isTagName_iff {tag : Text} :
    IsTagName tag ↔ tag.all isNameSign = true ∧ tag.head?.any Char.isAlpha = true := by
  unfold IsTagName
  rw [List.all_eq_true]
  cases tag <;> simp

instance (tag : Text) : Decidable (IsTagName tag) :=
  decidable_of_iff _ isTagName_iff.symm

instance (a : Attribute) : Decidable a.WellFormed :=
  inferInstanceAs (Decidable ((_ ∧ ∀ c ∈ a.name, isNameSign c = true) ∧ a.IsQuotable))

instance (tag : Text) : (children : List Node) → Decidable (IsRawChild tag children)
  | [] => isTrue trivial
  | [.text content _] =>
      inferInstanceAs (Decidable (content ≠ [] ∧ ¬ _ <:+: Text.lower content))
  | [.element ..] => isFalse not_false
  | [.comment ..] => isFalse not_false
  | _ :: _ :: _ => isFalse (by simp [IsRawChild])

mutual

instance Node.decidableWellFormed : (node : Node) → Decidable node.WellFormed
  | .element tag attributes children selfClosing _ =>
      have := decidableNodesWellFormed children
      have : Decidable (children = []) := decidable_of_iff _ List.isEmpty_iff
      inferInstanceAs (Decidable (_ ∧ (∀ a ∈ attributes, a.WellFormed) ∧ _ ∧
        if selfClosing = true then children = []
        else if isRawText tag = true then IsRawChild tag children
        else NodesWellFormed children))
  | .text content _ => inferInstanceAs (Decidable (content ≠ [] ∧ '<' ∉ content))
  | .comment content _ => inferInstanceAs (Decidable (¬ "-->".toList <:+: content))

instance decidableNodesWellFormed : (nodes : List Node) → Decidable (NodesWellFormed nodes)
  | [] => isTrue trivial
  | node :: rest =>
      have := node.decidableWellFormed
      have := decidableNodesWellFormed rest
      inferInstanceAs (Decidable (node.WellFormed ∧ (node.isText = true →
        ∀ next ∈ rest.head?, next.isText = false) ∧ NodesWellFormed rest))

end

end Definitions

section Ends

variable {content name tag behind : Text}

/-- The end of a comment cannot begin inside a text and go on in the end that follows the text. -/
theorem isComment_of_not_within (free : ¬ "-->".toList <:+: content) : IsComment content := by
  intro rest
  induction content with
  | nil => rfl
  | cons c more inductionHypothesis =>
      have free' : ¬ ['-', '-', '>'] <:+: c :: more := free
      have apart : ¬ Text.startsWith (c :: more ++ ("-->".toList ++ rest)) "-->".toList = true := by
        unfold Text.startsWith
        rw [List.isPrefixOf_iff_prefix]
        match more with
        | [] => simp
        | [d] => simp
        | d :: e :: others =>
            intro starts
            apply free'
            apply List.IsPrefix.isInfix
            simpa using starts
      have inside := inductionHypothesis (fun holds => free (List.infix_cons holds))
      rw [List.cons_append] at apart ⊢
      rw [Text.splitBefore?, if_neg apart, inside]
      rfl

/-- A closing tag has its only `<` in front, so none begins inside a text and ends behind it. -/
theorem not_closes_of_not_within (noSign : '<' ∉ name)
    (free : ¬ '<' :: '/' :: name <:+: Text.lower content) (proper : content ≠ []) :
    Text.lower ((content ++ '<' :: behind).take (name.length + 2)) ≠ '<' :: '/' :: name := by
  intro closes
  obtain ⟨first, more, rfl⟩ := List.exists_cons_of_ne_nil proper
  by_cases inside : name.length + 2 ≤ (first :: more).length
  · apply free
    rw [List.take_append_of_le_length inside] at closes
    rw [← closes]
    apply List.IsPrefix.isInfix
    unfold Text.lower
    exact (List.take_prefix _ _).map _
  · obtain ⟨left, whole⟩ : ∃ left, name.length + 2 = (first :: more).length + (left + 1) :=
      ⟨name.length + 1 - (first :: more).length, by omega⟩
    have split : first :: more ++ '<' :: behind.take left =
        (first :: more ++ '<' :: behind).take (name.length + 2) := by
      rw [whole, List.take_length_add_append, List.take_succ_cons]
    rw [← split] at closes
    have listed : '<' ∈ '/' :: name := by
      have tail := congrArg List.tail closes
      simp only [List.tail_cons] at tail
      rw [← tail]
      simp [Text.lower]
    simp [noSign] at listed

theorem splitRawText_of_not_within (noSign : '<' ∉ name)
    (free : ¬ '<' :: '/' :: name <:+: Text.lower content)
    (closes : Text.lower (('<' :: behind).take (name.length + 2)) = '<' :: '/' :: name) :
    Reader.splitRawText name (content ++ '<' :: behind) = (content, '<' :: behind) := by
  induction content with
  | nil =>
      rw [List.nil_append, Reader.splitRawText, if_pos closes]
  | cons c more inductionHypothesis =>
      have apart := @not_closes_of_not_within _ _ behind noSign free (List.cons_ne_nil c more)
      have later := inductionHypothesis (fun holds => free (List.infix_cons holds))
      rw [List.cons_append] at apart ⊢
      rw [Reader.splitRawText, if_neg apart, later]

theorem notMem_lower_of_isRawText (raw : isRawText tag = true) : '<' ∉ Text.lower tag := by
  unfold isRawText at raw
  rcases Bool.or_eq_true_iff.mp raw with same | same
  all_goals
    unfold Text.sameLetters at same
    rw [beq_iff_eq.mp same]
    decide

theorem IsRawChild.exists_text {node : Node} {rest : List Node} (child : IsRawChild tag (node :: rest)) :
    ∃ content span, node = .text content span ∧ rest = [] := by
  cases node with
  | element _ _ _ _ _ => exact child.elim
  | comment _ _ => exact child.elim
  | text content span =>
      cases rest with
      | nil => exact ⟨content, span, rfl, rfl⟩
      | cons _ _ => exact child.elim

theorem IsRawChild.isRawContent {children : List Node} (raw : isRawText tag = true)
    (child : IsRawChild tag children) : IsRawContent tag children := by
  have split {content : Text} (free : ¬ '<' :: '/' :: Text.lower tag <:+: Text.lower content)
      (rest : Text) : Reader.splitRawText (Text.lower tag)
        (content ++ ("</".toList ++ (tag ++ rest))) = (content, "</".toList ++ (tag ++ rest)) := by
    have closes : Text.lower (('<' :: '/' :: (tag ++ rest)).take ((Text.lower tag).length + 2)) =
        '<' :: '/' :: Text.lower tag := by
      simp [Text.lower]
    exact splitRawText_of_not_within (notMem_lower_of_isRawText raw) free closes
  cases children with
  | nil =>
      refine ⟨.inl rfl, ?_⟩
      have apart : ¬ '<' :: '/' :: Text.lower tag <:+: Text.lower [] := by simp [Text.lower]
      simpa [renderNodes] using split apart
  | cons node rest =>
      obtain ⟨content, span, rfl, rfl⟩ := child.exists_text
      obtain ⟨proper, free⟩ := child
      refine ⟨.inr ⟨content, span, proper, rfl⟩, ?_⟩
      simpa [renderNodes, Node.render] using split free

end Ends

section Nodes

variable {node : Node} {nodes : List Node} {next : Option Char}

/-- Whatever is not a text is written with a `<` in front. -/
theorem head?_render_of_not_isText (markup : node.isText = false) :
    node.render.head? = some '<' := by
  cases node with
  | text content span => cases markup
  | element tag attributes children selfClosing span => simp [Node.render]
  | comment content span => simp [Node.render]

/-- Behind a text stands the `<` of the next node or that of a closing tag, or nothing. -/
theorem head?_or_of_alone (ends : ∀ c ∈ next, c = '<')
    (alone : ∀ node ∈ nodes.head?, node.isText = false) :
    ∀ c ∈ (renderNodes nodes).head?.or next, c = '<' := by
  intro c first
  cases nodes with
  | nil => exact ends c first
  | cons node rest =>
      have begins := head?_render_of_not_isText (alone node rfl)
      simp [renderNodes, begins] at first
      exact first.symm

theorem isTextBefore_of_notMem {content : Text} (proper : content ≠ []) (inside : '<' ∉ content)
    (ends : ∀ c ∈ next, c = '<') : IsTextBefore next content := by
  obtain ⟨first, more, rfl⟩ := List.exists_cons_of_ne_nil proper
  apply IsTextBefore.plain
  · rintro rfl
    simp at inside
  · exact fun listed => inside (List.mem_cons_of_mem first listed)
  · exact ends

mutual

theorem Node.WellFormed.isReadable : ∀ {node : Node} {next : Option Char}, node.WellFormed →
    (node.isText = true → ∀ c ∈ next, c = '<') → node.IsReadable next
  | .text _ _, _, wellFormed, ends =>
      isTextBefore_of_notMem wellFormed.1 wellFormed.2 (ends rfl)
  | .comment _ _, _, wellFormed, _ => isComment_of_not_within wellFormed
  | .element tag attributes children selfClosing span, next, wellFormed, ends => by
      obtain ⟨isTag, named, closes, inside⟩ := wellFormed
      refine ⟨isTag, fun a listed => (named a listed).1, ?_⟩
      cases selfClosing with
      | true => simpa using inside
      | false =>
          simp only [Bool.false_eq_true, if_false] at inside ⊢
          refine ⟨by simpa using closes, ?_⟩
          by_cases raw : isRawText tag = true
          · rw [if_pos raw] at inside ⊢
            exact inside.isRawContent raw
          · rw [if_neg raw] at inside ⊢
            exact NodesWellFormed.areReadable inside (by simp)

theorem NodesWellFormed.areReadable : ∀ {nodes : List Node} {next : Option Char},
    NodesWellFormed nodes → (∀ c ∈ next, c = '<') → NodesAreReadable nodes next
  | [], _, _, _ => trivial
  | node :: rest, next, wellFormed, ends => by
      obtain ⟨first, alone, more⟩ := wellFormed
      constructor
      · exact first.isReadable fun isText => head?_or_of_alone ends (alone isText)
      · exact more.areReadable ends

end

mutual

theorem Node.WellFormed.isQuotable : ∀ {node : Node}, node.WellFormed → node.IsQuotable
  | .text _ _, _ => trivial
  | .comment _ _, _ => trivial
  | .element tag attributes children selfClosing span, wellFormed => by
      obtain ⟨-, named, -, inside⟩ := wellFormed
      refine ⟨fun a listed => (named a listed).2, ?_⟩
      by_cases closed : selfClosing = true
      · rw [if_pos closed] at inside
        rw [inside]
        trivial
      rw [if_neg closed] at inside
      by_cases raw : isRawText tag = true
      · rw [if_pos raw] at inside
        cases children with
        | nil => trivial
        | cons node rest =>
            obtain ⟨_, _, rfl, rfl⟩ := inside.exists_text
            exact ⟨trivial, trivial⟩
      · rw [if_neg raw] at inside
        exact NodesWellFormed.areQuotable inside

theorem NodesWellFormed.areQuotable : ∀ {nodes : List Node}, NodesWellFormed nodes →
    NodesAreQuotable nodes
  | [], _ => trivial
  | _ :: _, wellFormed => ⟨wellFormed.1.isQuotable, wellFormed.2.2.areQuotable⟩

end

end Nodes

/-- What is written for a well-formed list of nodes is read without errors, as the same list. -/
theorem Template.parse_renderNodes (name : Text) {nodes : List Node}
    (wellFormed : NodesWellFormed nodes) :
    let again := parse name (renderNodes nodes)
    again.errors = [] ∧ bareNodes again.tree.nodes = bareNodes nodes := by
  intro again
  have readable : NodesAreReadable nodes ([] : Text).head? := wellFormed.areReadable (by simp)
  have whole : (Reader.start (renderNodes nodes)).rest = renderNodes nodes ++ [] := by
    simp [Reader.start]
  have read := Reader.rereads_parseNodes nodes false readable whole rfl
  have quotable := wellFormed.areQuotable
  exact ⟨read.errors quotable, read.same_iff.mpr quotable⟩

theorem Template.parse_renderNodes_card :
    let card : List Node :=
      [.comment " a -- b ".toList .detached,
        .element "Card".toList [⟨"note".toList, some "say \"hi\"".toList, .detached⟩]
          [.text "x > y".toList .detached, .element "BR".toList [] [] true .detached,
            .element "Style".toList [] [.text "p </ q".toList .detached] false .detached]
          false .detached]
    let again := parse "t.html".toList (renderNodes card)
    NodesWellFormed card ∧ again.errors = [] ∧ bareNodes again.tree.nodes = bareNodes card := by
  intro card again
  have wellFormed : NodesWellFormed card := by decide +kernel
  exact ⟨wellFormed, parse_renderNodes "t.html".toList wellFormed⟩

end ComponentStyles
