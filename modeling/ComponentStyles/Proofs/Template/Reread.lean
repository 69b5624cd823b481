import ComponentStyles.Proofs.Template.WellFormed

/-!
# Reading a written template again

Written nodes are read again one after the other, and each is what it was up to its place, as long
as the values of its attributes end at the quote that is written behind them. A value with both
quotes does not: its attribute is read with what stands in front of the first quote.
-/

namespace ComponentStyles

section Definitions

def Attribute.bare (a : Attribute) : Attribute :=
  ⟨a.name, a.value, .detached⟩

mutual

/-- A node without the places of its parts. -/
def Node.bare : Node → Node
  | .element tag attributes children selfClosing _ =>
      .element tag (attributes.map Attribute.bare) (bareNodes children) selfClosing .detached
  | .text content _ => .text content .detached
  | .comment content _ => .comment content .detached

def bareNodes : List Node → List Node
  | [] => []
  | node :: rest => node.bare :: bareNodes rest

end

/-- Whether there is a quote that the value does not hold. -/
def Attribute.IsQuotable (a : Attribute) : Prop :=
  ∀ value ∈ a.value, '"' ∉ value ∨ '\'' ∉ value

mutual

/-- Whether the values of all attributes in a node can be quoted. -/
def Node.IsQuotable : Node → Prop
  | .element _ attributes children _ _ =>
      (∀ a ∈ attributes, a.IsQuotable) ∧ NodesAreQuotable children
  | .text _ _ => True
  | .comment _ _ => True

def NodesAreQuotable : List Node → Prop
  | [] => True
  | node :: rest => node.IsQuotable ∧ NodesAreQuotable rest

end

instance (a : Attribute) : Decidable a.IsQuotable :=
  inferInstanceAs (Decidable (∀ value ∈ a.value, _))

mutual

instance Node.decidableIsQuotable : (node : Node) → Decidable node.IsQuotable
  | .element _ attributes children _ _ =>
      have := decidableNodesAreQuotable children
      inferInstanceAs (Decidable ((∀ a ∈ attributes, a.IsQuotable) ∧ NodesAreQuotable children))
  | .text _ _ => isTrue trivial
  | .comment _ _ => isTrue trivial

instance decidableNodesAreQuotable : (nodes : List Node) → Decidable (NodesAreQuotable nodes)
  | [] => isTrue trivial
  | node :: rest =>
      have := node.decidableIsQuotable
      have := decidableNodesAreQuotable rest
      inferInstanceAs (Decidable (node.IsQuotable ∧ NodesAreQuotable rest))

end

theorem quoteFor_eq (value : Text) : quoteFor value = '"' ∨ quoteFor value = '\'' := by
  unfold quoteFor
  split <;> simp

theorem quoteFor_notMem_iff {value : Text} :
    quoteFor value ∉ value ↔ '"' ∉ value ∨ '\'' ∉ value := by
  unfold quoteFor
  split
  case isTrue holds => simp [List.contains_iff_mem.mp holds]
  case isFalse free =>
    have absent : '"' ∉ value := mt List.contains_iff_mem.mpr free
    simp [absent]

end Definitions

namespace Reader

variable {r next : Reader} {taken rest tail : Text}

/-- A step of a reader has read up to the given rest, and what it has read is right, unless a value
cannot be quoted: then it is wrong. -/
structure Rereads (r next : Reader) (rest : Text) (same quotable : Prop) : Prop where
  same_iff : same ↔ quotable
  rest : quotable → next.rest = rest
  errors : quotable → next.errors = r.errors

theorem Rereads.of_not_quotable {same quotable : Prop} (wrong : ¬ quotable) (differs : ¬ same) :
    Rereads r next rest same quotable :=
  ⟨iff_of_false differs wrong, fun right => absurd right wrong, fun right => absurd right wrong⟩

theorem readWhile_eq {test : Char → Bool} (whole : r.rest = taken ++ rest)
    (inside : ∀ c ∈ taken, test c = true) (stops : ∀ c ∈ rest.head?, test c = false) :
    r.readWhile test = (taken, r.goTo taken rest) := by
  have stopsAt : rest.takeWhile test = [] ∧ rest.dropWhile test = rest := by
    cases rest with
    | nil => exact ⟨rfl, rfl⟩
    | cons c more => simp [stops c rfl]
  unfold readWhile
  simp [whole, List.takeWhile_append_of_pos inside, List.dropWhile_append_of_pos inside, stopsAt]

section Attributes

theorem isBlank_of_isNameSign {c : Char} (sign : isNameSign c = true) : Text.isBlank c = false := by
  simp only [isNameSign, Bool.not_eq_true', Bool.or_eq_false_iff] at sign
  exact sign.1.1.1

/-- What can stand behind an attribute. -/
structure EndsAttribute (rest : Text) : Prop where
  name : ∀ c ∈ rest.head?, isNameSign c = false
  value : ∀ c ∈ (rest.dropWhile Text.isBlank).head?, c ≠ '='

theorem endsAttribute_render {a : Attribute} (named : IsAttributeName a.name) (rest : Text) :
    EndsAttribute (a.render ++ rest) := by
  obtain ⟨first, more, whole⟩ := List.exists_cons_of_ne_nil named.1
  have sign : isNameSign first = true := named.2 first (by simp [whole])
  have notBlank := isBlank_of_isNameSign sign
  have blank : Text.isBlank ' ' = true := by decide
  constructor
  · simp [Attribute.render, isNameSign, blank]
  · have notEqual : first ≠ '=' := by
      rintro rfl
      revert sign
      decide
    simp [Attribute.render, whole, blank, notBlank, notEqual]

/-- What a tag ends with. -/
def IsTagEnd (tail : Text) : Prop :=
  (∃ rest, tail = '>' :: rest) ∨ ∃ rest, tail = ' ' :: '/' :: '>' :: rest

theorem IsTagEnd.endsAttribute (isEnd : IsTagEnd tail) : EndsAttribute tail := by
  have blank : Text.isBlank ' ' = true ∧ Text.isBlank '/' = false ∧ Text.isBlank '>' = false := by
    decide
  rcases isEnd with ⟨rest, rfl⟩ | ⟨rest, rfl⟩ <;> constructor <;> simp [isNameSign, blank]

theorem attributeStep_of_isTagEnd (isEnd : IsTagEnd r.rest) : r.attributeStep = none := by
  have blank : Text.isBlank ' ' = true ∧ Text.isBlank '/' = false ∧ Text.isBlank '>' = false := by
    decide
  have ends : (r.skipBlanks.rest.isEmpty || r.skipBlanks.isAt ">" ||
      r.skipBlanks.isAt "/>") = true := by
    rcases isEnd with ⟨rest, whole⟩ | ⟨rest, whole⟩ <;>
      simp [skipBlanks, readWhile, goTo, isAt, Text.startsWith, whole, blank]
  unfold attributeStep
  simp only [ends, if_true]

/-- A value is read up to the first quote of the kind that it is written between. -/
theorem rereads_readAttributeValue {quote : Char} {value : Text}
    (quotes : quote = '"' ∨ quote = '\'') (whole : r.rest = quote :: (value ++ quote :: rest))
    (start : Nat) : Rereads r (r.readAttributeValue start).2 rest
      ((r.readAttributeValue start).1 = value) (quote ∉ value) := by
  have inside : (r.skip 1).rest = value ++ quote :: rest := by simp [skip, goTo, whole]
  have unfolded : r.readAttributeValue start =
      if ((r.skip 1).readWhile (· != quote)).2.rest.isEmpty then
        (((r.skip 1).readWhile (· != quote)).1,
          ((r.skip 1).readWhile (· != quote)).2.report (.attribute .unterminatedValue) start)
      else
        (((r.skip 1).readWhile (· != quote)).1, ((r.skip 1).readWhile (· != quote)).2.skip 1) := by
    unfold readAttributeValue
    rw [whole]
    rcases quotes with rfl | rfl <;> rfl
  by_cases free : quote ∉ value
  · have read : (r.skip 1).readWhile (· != quote) =
        (value, (r.skip 1).goTo value (quote :: rest)) := by
      apply readWhile_eq inside
      · intro c listed
        simp only [bne_iff_ne]
        rintro rfl
        exact free listed
      · simp
    rw [unfolded, read]
    constructor <;> simp [free, goTo, skip]
  · have stops : quote ∉ ((r.skip 1).readWhile (· != quote)).1 := by
      intro listed
      simpa using List.mem_takeWhile_imp listed
    have differs : (r.readAttributeValue start).1 ≠ value := by
      rintro rfl
      apply free
      rw [unfolded]
      split <;> exact stops
    exact .of_not_quotable free differs

theorem rest_skipBlanks {c : Char} {more : Text} (whole : r.rest = c :: more)
    (notBlank : Text.isBlank c = false) : r.skipBlanks.rest = c :: more := by
  simp [skipBlanks, readWhile, goTo, whole, notBlank]

/-- Reads an attribute behind its name. -/
def readAttribute (named : Reader) (name : Text) (start : Nat) : Attribute × Reader :=
  let behind := named.skipBlanks
  if behind.isAt "=" then
    let (value, last) := (behind.skip 1).skipBlanks.readAttributeValue start
    (⟨name, some value, ⟨start, last.pos⟩⟩, last)
  else
    (⟨name, none, ⟨start, named.pos⟩⟩, named)

theorem attributeStep_of_name {name : Text} (isName : IsAttributeName name)
    (ends : ∀ c ∈ rest.head?, isNameSign c = false) (whole : r.skipBlanks.rest = name ++ rest) :
    r.attributeStep =
      let read := (r.skipBlanks.goTo name rest).readAttribute name r.skipBlanks.pos
      some ([read.1], read.2) := by
  have read : r.skipBlanks.readName = (name, r.skipBlanks.goTo name rest) :=
    readWhile_eq whole isName.2 ends
  obtain ⟨first, more, rfl⟩ := List.exists_cons_of_ne_nil isName.1
  have sign : isNameSign first = true := isName.2 first List.mem_cons_self
  have inside : ¬ (r.skipBlanks.rest.isEmpty || r.skipBlanks.isAt ">" || r.skipBlanks.isAt "/>") =
      true := by
    have apart : '>' ≠ first ∧ '/' ≠ first := by
      constructor <;> rintro rfl <;> revert sign <;> decide
    simp [isAt, Text.startsWith, whole, apart]
  unfold attributeStep readAttribute
  rw [if_neg inside]
  simp only [read]
  split <;> rfl

theorem rereads_readAttribute (named : Reader) {name : Text} {value : Option Text} {start : Nat}
    {span : Span} (ends : EndsAttribute rest)
    (whole : named.rest =
      (value.elim [] fun value => '=' :: quoteFor value :: value ++ [quoteFor value]) ++ rest) :
    Rereads named (named.readAttribute name start).2 rest
      ((named.readAttribute name start).1.bare = Attribute.bare ⟨name, value, span⟩)
      (Attribute.IsQuotable ⟨name, value, span⟩) := by
  unfold readAttribute
  cases value with
  | none =>
      change named.rest = rest at whole
      have noSign : ¬ named.skipBlanks.isAt "=" = true := by
        intro sign
        obtain ⟨more, behind⟩ := isAt_iff.mp sign
        change _ = named.rest.dropWhile Text.isBlank at behind
        rw [whole] at behind
        exact ends.value '=' (by simp [← behind]) rfl
      rw [if_neg noSign]
      refine ⟨iff_of_true rfl ?_, fun _ => whole, fun _ => rfl⟩
      rintro value ⟨⟩
  | some value =>
      have quotes := quoteFor_eq value
      have notBlank : Text.isBlank (quoteFor value) = false := by
        rcases quotes with same | same <;> rw [same] <;> decide
      have equals : named.rest = '=' :: quoteFor value :: (value ++ quoteFor value :: rest) := by
        simp [whole]
      have behind := rest_skipBlanks equals (by decide)
      have sign : named.skipBlanks.isAt "=" = true := isAt_iff.mpr ⟨_, behind.symm⟩
      have quoted : (named.skipBlanks.skip 1).rest =
          quoteFor value :: (value ++ quoteFor value :: rest) := by
        simp [skip, goTo, behind]
      obtain ⟨same_iff, leaves, clean⟩ :=
        rereads_readAttributeValue quotes (rest_skipBlanks quoted notBlank) start
      rw [if_pos sign]
      have quotable_iff :
          Attribute.IsQuotable ⟨name, some value, span⟩ ↔ quoteFor value ∉ value := by
        rw [quoteFor_notMem_iff]
        simp [Attribute.IsQuotable]
      rw [quotable_iff]
      refine ⟨?_, leaves, clean⟩
      rw [← same_iff]
      simp [Attribute.bare]

/-- The name and the value of a written attribute are read again, and nothing else is. -/
theorem rereads_attributeStep {a : Attribute} (named : IsAttributeName a.name)
    (ends : EndsAttribute rest) (whole : r.rest = a.render ++ rest) :
    ∃ again next, r.attributeStep = some ([again], next) ∧
      Rereads r next rest (again.bare = a.bare) a.IsQuotable := by
  obtain ⟨name, value, span⟩ := a
  let tail :=
    (value.elim [] fun value => '=' :: quoteFor value :: value ++ [quoteFor value]) ++ rest
  have blanks : r.skipBlanks.rest = name ++ tail := by
    obtain ⟨first, more, rfl⟩ := List.exists_cons_of_ne_nil named.1
    have notBlank := isBlank_of_isNameSign (named.2 first List.mem_cons_self)
    have blank : Text.isBlank ' ' = true := by decide
    simp [skipBlanks, readWhile, goTo, whole, Attribute.render, blank, notBlank, tail]
  have nameEnds : ∀ c ∈ tail.head?, isNameSign c = false := by
    cases value with
    | none => exact ends.name
    | some value => simp [tail, isNameSign]
  refine ⟨_, _, attributeStep_of_name named nameEnds blanks, ?_⟩
  obtain ⟨same_iff, leaves, clean⟩ :=
    rereads_readAttribute (r.skipBlanks.goTo name tail) ends rfl
  exact ⟨same_iff, leaves, clean⟩

/-- Written attributes are read again one by one, up to the first one that cannot be quoted. -/
theorem rereads_attributes {attributes : List Attribute} (isEnd : IsTagEnd tail)
    (named : ∀ a ∈ attributes, IsAttributeName a.name)
    (whole : r.rest = attributes.flatMap Attribute.render ++ tail) :
    Rereads r (r.repeatedly attributeStep).2 tail
      ((r.repeatedly attributeStep).1.map Attribute.bare = attributes.map Attribute.bare)
      (∀ a ∈ attributes, a.IsQuotable) := by
  induction attributes generalizing r with
  | nil =>
      change r.rest = tail at whole
      rw [repeatedly, attributeStep_of_isTagEnd (whole ▸ isEnd)]
      exact ⟨by simp, fun _ => whole, fun _ => rfl⟩
  | cons a others inductionHypothesis =>
      obtain ⟨first, more⟩ := List.forall_mem_cons.mp named
      have ends : EndsAttribute (others.flatMap Attribute.render ++ tail) := by
        cases others with
        | nil => exact isEnd.endsAttribute
        | cons b rest =>
            rw [List.flatMap_cons, List.append_assoc]
            exact endsAttribute_render (more b List.mem_cons_self) _
      rw [List.flatMap_cons, List.append_assoc] at whole
      obtain ⟨again, next, step, same_iff, leaves, clean⟩ := rereads_attributeStep first ends whole
      rw [repeatedly, step]
      by_cases quotable : a.IsQuotable
      · have shorter : next.rest.length < r.rest.length := by
          have blank : 0 < a.render.length := by simp [Attribute.render]
          rw [leaves quotable, whole]
          simp only [List.length_append]
          omega
        obtain ⟨same_iff_more, leavesMore, cleanMore⟩ := inductionHypothesis more (leaves quotable)
        simp only [shorter, if_true]
        constructor
        · rw [List.forall_mem_cons, ← same_iff_more, ← same_iff]
          simp
        · intro all
          exact leavesMore (List.forall_mem_cons.mp all).2
        · intro all
          exact (cleanMore (List.forall_mem_cons.mp all).2).trans (clean quotable)
      · -- The first attribute is read wrong, whatever is read behind it.
        have differs := mt same_iff.mp quotable
        have notAll : ¬ ∀ b ∈ a :: others, b.IsQuotable :=
          fun all => quotable (all a List.mem_cons_self)
        apply Rereads.of_not_quotable notAll
        dsimp only
        split <;> simp [differs]

/-- What is left of the end of a tag behind the blanks in front of it. -/
theorem rereads_tagAttributes {tag : Text} {attributes : List Attribute} (isTag : IsTagName tag)
    (isEnd : IsTagEnd tail) (named : ∀ a ∈ attributes, IsAttributeName a.name)
    (whole : r.rest = '<' :: (tag ++ (attributes.flatMap Attribute.render ++ tail))) :
    r.tagName = tag ∧ Rereads r r.tagAttributes.2 (tail.dropWhile Text.isBlank)
      (r.tagAttributes.1.map Attribute.bare = attributes.map Attribute.bare)
      (∀ a ∈ attributes, a.IsQuotable) := by
  have inside : (r.skip 1).rest = tag ++ (attributes.flatMap Attribute.render ++ tail) := by
    simp [skip, goTo, whole]
  have ends : ∀ c ∈ (attributes.flatMap Attribute.render ++ tail).head?, isNameSign c = false := by
    cases attributes with
    | nil => exact isEnd.endsAttribute.name
    | cons a others => simp [Attribute.render, isNameSign, show Text.isBlank ' ' = true by decide]
  let behind := (r.skip 1).goTo tag (attributes.flatMap Attribute.render ++ tail)
  have read : (r.skip 1).readName = (tag, behind) := readWhile_eq inside isTag.1 ends
  have whole : behind.rest = attributes.flatMap Attribute.render ++ tail := rfl
  obtain ⟨same_iff, leaves, clean⟩ := rereads_attributes isEnd named whole
  unfold tagName tagAttributes parseAttributes
  rw [read]
  refine ⟨rfl, same_iff, ?_, clean⟩
  intro all
  change List.dropWhile Text.isBlank _ = _
  rw [leaves all]

end Attributes

section Leaves

theorem parseNode_of_no_markup {first : Char} {more : Text} (whole : r.rest = first :: more)
    (noMarkup : first = '<' → ∀ c ∈ more.head?, c ≠ '!' ∧ c ≠ '?' ∧ c ≠ '/') :
    r.parseNode = if r.atTag then (some r.parseElement.1, r.parseElement.2)
      else (some r.parseText.1, r.parseText.2) := by
  have absent {text : String} {mark : Char} {others : Text}
      (same : text.toList = '<' :: mark :: others) (opens : mark = '!' ∨ mark = '?' ∨ mark = '/') :
      ¬ r.isAt text = true := by
    intro here
    obtain ⟨behind, split⟩ := isAt_iff.mp here
    rw [same, whole] at split
    obtain ⟨rfl, rfl⟩ := List.cons.inj split
    have apart := noMarkup rfl mark (by simp)
    simp [apart] at opens
  unfold parseNode
  rw [if_neg (absent rfl (by decide)), if_neg (absent rfl (by decide)), if_neg]
  rw [Bool.or_eq_true_iff, not_or]
  exact ⟨absent rfl (by decide), absent rfl (by decide)⟩

theorem parseNode_of_stray {first : Char} {more : Text} (whole : r.rest = first :: more)
    (stray : first = '<' → ∀ c ∈ more.head?, opensMarkup c = false) :
    r.parseNode = (some r.parseText.1, r.parseText.2) := by
  have closed : first = '<' → ∀ c ∈ more.head?,
      ((c ≠ '!' ∧ c ≠ '?') ∧ c ≠ '/') ∧ c.isAlpha = false := by
    intro opens c here
    have notOpen := stray opens c here
    simpa [opensMarkup] using notOpen
  have noTag : ¬ r.atTag = true := by
    unfold atTag
    split
    case h_1 c others same =>
      rw [whole] at same
      obtain ⟨rfl, rfl⟩ := List.cons.inj same
      simp [(closed rfl c rfl).2]
    case h_2 => simp
  rw [parseNode_of_no_markup whole, if_neg noTag]
  intro opens c here
  obtain ⟨⟨⟨notMark, notQuestion⟩, notSlash⟩, -⟩ := closed opens c here
  exact ⟨notMark, notQuestion, notSlash⟩

theorem parseNode_of_markup {mark : Char} {more : Text} (whole : r.rest = '<' :: mark :: more)
    (marks : mark = '!' ∨ mark = '?') (noComment : ¬ (mark = '!' ∧ ['-', '-'] <+: more)) :
    r.parseNode = (some r.parseMarkup.1, r.parseMarkup.2) := by
  have noCommentHere : ¬ r.isAt "<!--" = true := by
    intro here
    obtain ⟨behind, split⟩ := isAt_iff.mp here
    rw [whole] at split
    obtain ⟨rfl, rfl⟩ := List.cons.inj (List.cons.inj split).2
    exact noComment ⟨rfl, behind, rfl⟩
  have noClosing : ¬ r.isAt "</" = true := by
    intro here
    obtain ⟨behind, split⟩ := isAt_iff.mp here
    rw [whole] at split
    obtain ⟨rfl, -⟩ := List.cons.inj (List.cons.inj split).2
    revert marks
    decide
  have opens : (r.isAt "<!" || r.isAt "<?") = true := by
    rw [Bool.or_eq_true_iff, isAt_iff, isAt_iff, whole]
    rcases marks with rfl | rfl
    · exact .inl ⟨more, rfl⟩
    · exact .inr ⟨more, rfl⟩
  unfold parseNode
  rw [if_neg noCommentHere, if_neg noClosing, if_pos opens]

/-- Plain text is read up to the next bracket. -/
theorem readWhile_plain {first : Char} {more : Text} (whole : r.rest = first :: (more ++ rest))
    (inside : '<' ∉ more) (ends : ∀ c ∈ rest.head?, c = '<') :
    (r.skip 1).readWhile (· != '<') = (more, (r.skip 1).goTo more rest) := by
  apply readWhile_eq
  · simp [skip, goTo, whole]
  · intro c listed
    simp only [bne_iff_ne]
    rintro rfl
    exact inside listed
  · intro c here
    simp [ends c here]

/-- A document type or a processing instruction is read up to its end, or to the end of the input. -/
theorem readThroughTagEnd_markup {mark : Char} {more : Text}
    (whole : r.rest = '<' :: mark :: (more ++ rest)) (marks : mark = '!' ∨ mark = '?')
    (ends : (∃ inside, more = inside ++ ['>'] ∧ '>' ∉ inside) ∨ '>' ∉ more ∧ rest.head? = none) :
    r.readThroughTagEnd.1 = '<' :: mark :: more ∧ r.readThroughTagEnd.2.rest = rest := by
  have apart : mark ≠ '>' := by rcases marks with rfl | rfl <;> decide
  have notEnd {text : Text} (free : '>' ∉ text) :
      ∀ c ∈ '<' :: mark :: text, (c != '>') = true := by
    intro c listed
    simp only [bne_iff_ne]
    rintro rfl
    simp [free, apart.symm] at listed
  unfold readThroughTagEnd
  rcases ends with ⟨inside, rfl, free⟩ | ⟨free, nothing⟩
  · have whole : r.rest = ('<' :: mark :: inside) ++ '>' :: rest := by simp [whole]
    rw [readWhile_eq whole (notEnd free) (by simp)]
    simp [goTo, skip]
  · obtain rfl := List.head?_eq_none_iff.mp nothing
    rw [readWhile_eq whole (notEnd free) (by simp)]
    simp [goTo, skip]

theorem rereads_text {content : Text} {span : Span} (isText : IsTextBefore rest.head? content)
    (whole : r.rest = content ++ rest) : Rereads r r.parseNode.2 rest
      (r.parseNode.1.map Node.bare = some (Node.bare (.text content span))) True := by
  cases isText with
  | @plain first more stray inside ends =>
      have strayToo : first = '<' → ∀ c ∈ (more ++ rest).head?, opensMarkup c = false := by
        intro opens c here
        cases more with
        | nil =>
            rw [ends c here]
            decide
        | cons d others => exact stray opens c here
      rw [parseNode_of_stray whole strayToo]
      unfold parseText
      rw [readWhile_plain whole inside ends]
      constructor <;> simp [goTo, skip, whole, Node.bare]
  | @markup mark more marks noComment ends =>
      have noCommentToo : ¬ (mark = '!' ∧ ['-', '-'] <+: more ++ rest) := by
        rintro ⟨opens, begins⟩
        apply noComment opens
        rcases ends with ⟨inside, rfl, -⟩ | ⟨-, nothing⟩
        · rcases inside with _ | ⟨c, _ | ⟨d, others⟩⟩
          · simp at begins
          · simp at begins
          · simpa using begins
        · rwa [List.head?_eq_none_iff.mp nothing, List.append_nil] at begins
      have read := readThroughTagEnd_markup whole marks ends
      rw [parseNode_of_markup whole marks noCommentToo]
      constructor
      · simp [parseMarkup, read, Node.bare]
      · exact fun _ => read.2
      · exact fun _ => rfl

theorem rereads_comment {content : Text} {span : Span} (isComment : IsComment content)
    (whole : r.rest = Node.render (.comment content span) ++ rest) : Rereads r r.parseNode.2 rest
      (r.parseNode.1.map Node.bare = some (Node.bare (.comment content span))) True := by
  have opens : r.isAt "<!--" = true := by
    rw [isAt_iff, whole, Node.render, List.append_assoc, List.append_assoc]
    exact List.prefix_append _ _
  have body : (r.skip 4).rest = content ++ ("-->".toList ++ rest) := by
    simp [skip, goTo, whole, Node.render]
  unfold parseNode
  rw [if_pos opens]
  unfold parseComment
  simp only [body, isComment rest]
  constructor <;> simp [goTo, skip, Node.bare]

end Leaves

section Elements

variable {tag : Text} {attributes : List Attribute} {children : List Node} {span : Span}

theorem parseNode_of_tag (isTag : IsTagName tag) (whole : r.rest = '<' :: (tag ++ rest)) :
    r.parseNode = (some r.parseElement.1, r.parseElement.2) := by
  obtain ⟨-, first, more, rfl, alpha⟩ := isTag
  have opens : r.atTag = true := by simp [atTag, whole, alpha]
  rw [parseNode_of_no_markup whole, if_pos opens]
  rintro - c ⟨⟩
  refine ⟨?_, ?_, ?_⟩ <;> rintro rfl <;> revert alpha <;> decide

theorem exists_parseElement (r : Reader) : ∃ children selfClosing span,
    r.parseElement.1 = .element r.tagName r.tagAttributes.1 children selfClosing span := by
  rw [parseElement_eq]
  dsimp only
  split
  · exact ⟨_, _, _, rfl⟩
  split
  · split <;> exact ⟨_, _, _, rfl⟩
  · exact ⟨_, _, _, rfl⟩

/-- The name and the attributes of a tag are read as they were written, up to the given rest. -/
structure ReadsTag (r : Reader) (tag : Text) (attributes : List Attribute) (behind : Text) :
    Prop where
  name : r.tagName = tag
  same : r.tagAttributes.1.map Attribute.bare = attributes.map Attribute.bare
  quotable : ∀ a ∈ attributes, a.IsQuotable
  behind : r.tagAttributes.2.rest = behind
  errors : r.tagAttributes.2.errors = r.errors

/-- An element with an attribute that is read wrong is not read as it was, so only those remain of
which the tag is read as it was. -/
theorem rereads_element_of_tag {selfClosing : Bool} (isTag : IsTagName tag)
    (named : ∀ a ∈ attributes, IsAttributeName a.name) (isEnd : IsTagEnd tail)
    (whole : r.rest = '<' :: (tag ++ (attributes.flatMap Attribute.render ++ tail)))
    (element : r.ReadsTag tag attributes (tail.dropWhile Text.isBlank) →
      Rereads r r.parseElement.2 rest
        (r.parseElement.1.bare = Node.bare (.element tag attributes children selfClosing span))
        (Node.IsQuotable (.element tag attributes children selfClosing span))) :
    Rereads r r.parseElement.2 rest
      (r.parseElement.1.bare = Node.bare (.element tag attributes children selfClosing span))
      (Node.IsQuotable (.element tag attributes children selfClosing span)) := by
  obtain ⟨name, same_iff, leaves, clean⟩ := rereads_tagAttributes isTag isEnd named whole
  by_cases quotable : ∀ a ∈ attributes, a.IsQuotable
  · exact element ⟨name, same_iff.mpr quotable, quotable, leaves quotable, clean quotable⟩
  · have notAll : ¬ Node.IsQuotable (.element tag attributes children selfClosing span) :=
      fun all => quotable all.1
    obtain ⟨otherChildren, otherClosing, otherSpan, read⟩ := r.exists_parseElement
    apply Rereads.of_not_quotable notAll
    rw [read]
    simp [Node.bare, mt same_iff.mp quotable]

theorem leaves_closeElement (isTag : IsTagName tag) (start : Nat)
    (whole : r.rest = "</".toList ++ (tag ++ '>' :: rest)) :
    (r.closeElement tag start).rest = rest ∧ (r.closeElement tag start).errors = r.errors := by
  have inside : (r.skip 2).rest = tag ++ '>' :: rest := by simp [skip, goTo, whole]
  have read : (r.skip 2).readName = (tag, (r.skip 2).goTo tag ('>' :: rest)) :=
    readWhile_eq inside isTag.1 (by simp)
  have proper : ¬ r.rest.isEmpty = true := by simp [whole]
  have alike : Text.sameLetters tag tag = true := by simp [Text.sameLetters]
  unfold closeElement readClosingTag
  rw [if_neg proper, read]
  simp only [alike, if_true]
  exact ⟨by simp [readThroughTagEnd, readWhile, goTo, skip], rfl⟩

/-- An element is read again if what stands inside is. -/
theorem rereads_element_of_children (isTag : IsTagName tag)
    (named : ∀ a ∈ attributes, IsAttributeName a.name) (notVoid : isVoid tag = false)
    (inside : ∀ body : Reader,
      body.rest = renderNodes children ++ ("</".toList ++ (tag ++ '>' :: rest)) →
        body.rest.length < r.rest.length → r.tagName = tag →
          Rereads body (r.parseChildren body).2 ("</".toList ++ (tag ++ '>' :: rest))
            (bareNodes (r.parseChildren body).1 = bareNodes children) (NodesAreQuotable children))
    (whole : r.rest = Node.render (.element tag attributes children false span) ++ rest) :
    Rereads r r.parseElement.2 rest
      (r.parseElement.1.bare = Node.bare (.element tag attributes children false span))
      (Node.IsQuotable (.element tag attributes children false span)) := by
  let content := renderNodes children ++ ("</".toList ++ (tag ++ '>' :: rest))
  have split : r.rest =
      '<' :: (tag ++ (attributes.flatMap Attribute.render ++ '>' :: content)) := by
    simp [whole, Node.render, content]
  apply rereads_element_of_tag isTag named (.inl ⟨_, rfl⟩) split
  rintro ⟨name, same, quotable, left, clean⟩
  have behind : r.tagAttributes.2.rest = '>' :: content := left
  let body := r.tagAttributes.2.skip 1
  have bodyRest : body.rest = content := by simp [body, skip, goTo, behind]
  have shorter : body.rest.length < r.rest.length := by
    rw [bodyRest, split]
    simp only [List.length_cons, List.length_append]
    omega
  have read : r.parseElement =
      let last := (r.parseChildren body).2.closeElement r.tagName r.pos
      (.element r.tagName r.tagAttributes.1 (r.parseChildren body).1 false ⟨r.pos, last.pos⟩,
        last) := by
    simp [parseElement_eq, isAt, Text.startsWith, behind, name, notVoid, body]
  obtain ⟨children_iff, childrenLeaves, childrenClean⟩ := inside body bodyRest shorter name
  rw [read, name]
  constructor
  · simp only [Node.bare, Node.IsQuotable, same, children_iff, Node.element.injEq, true_and,
      and_true]
    exact ⟨fun all => ⟨quotable, all⟩, fun all => all.2⟩
  · intro all
    exact (leaves_closeElement isTag r.pos (childrenLeaves all.2)).1
  · intro all
    rw [(leaves_closeElement isTag r.pos (childrenLeaves all.2)).2, childrenClean all.2]
    exact clean

/-- An element without content is read again, whether its name or a slash closes it. -/
theorem rereads_element_of_selfClosing (isTag : IsTagName tag)
    (named : ∀ a ∈ attributes, IsAttributeName a.name)
    (whole : r.rest = Node.render (.element tag attributes [] true span) ++ rest) :
    Rereads r r.parseElement.2 rest
      (r.parseElement.1.bare = Node.bare (.element tag attributes [] true span))
      (Node.IsQuotable (.element tag attributes [] true span)) := by
  by_cases void : isVoid tag = true
  · have split : r.rest = '<' :: (tag ++ (attributes.flatMap Attribute.render ++ '>' :: rest)) := by
      simp [whole, Node.render, void]
    apply rereads_element_of_tag isTag named (.inl ⟨_, rfl⟩) split
    rintro ⟨name, same, quotable, left, clean⟩
    have behind : r.tagAttributes.2.rest = '>' :: rest := left
    have read : r.parseElement = (.element tag r.tagAttributes.1 [] true
        ⟨r.pos, (r.tagAttributes.2.skip 1).pos⟩, r.tagAttributes.2.skip 1) := by
      simp [parseElement_eq, isAt, Text.startsWith, behind, name, void]
    rw [read]
    refine ⟨?_, fun _ => by simp [skip, goTo, behind], fun _ => clean⟩
    simpa [Node.bare, Node.IsQuotable, NodesAreQuotable, same] using quotable
  · have split : r.rest =
        '<' :: (tag ++ (attributes.flatMap Attribute.render ++ ' ' :: '/' :: '>' :: rest)) := by
      simp [whole, Node.render, void]
    apply rereads_element_of_tag isTag named (.inr ⟨_, rfl⟩) split
    rintro ⟨name, same, quotable, left, clean⟩
    have behind : r.tagAttributes.2.rest = '/' :: '>' :: rest := left
    have read : r.parseElement = (.element tag r.tagAttributes.1 [] true
        ⟨r.pos, (r.tagAttributes.2.skip 2).pos⟩, r.tagAttributes.2.skip 2) := by
      simp [parseElement_eq, isAt, Text.startsWith, behind, name]
    rw [read]
    refine ⟨?_, fun _ => by simp [skip, goTo, behind], fun _ => clean⟩
    simpa [Node.bare, Node.IsQuotable, NodesAreQuotable, same] using quotable

end Elements

section Nodes

theorem rereads_parseChildren_of_raw {tag : Text} {children : List Node} {body : Reader}
    (name : r.tagName = tag) (raw : isRawText tag = true) (isRaw : IsRawContent tag children)
    (whole : body.rest = renderNodes children ++ ("</".toList ++ (tag ++ rest))) :
    Rereads body (r.parseChildren body).2 ("</".toList ++ (tag ++ rest))
      (bareNodes (r.parseChildren body).1 = bareNodes children) (NodesAreQuotable children) := by
  obtain ⟨single, split⟩ := isRaw
  have splitHere := split rest
  rw [← whole] at splitHere
  unfold parseChildren parseRawText
  rw [if_pos (by rw [name, raw]), name, splitHere]
  rcases single with rfl | ⟨content, span, proper, rfl⟩
  · exact ⟨by simp [renderNodes, NodesAreQuotable], fun _ => rfl, fun _ => rfl⟩
  · refine ⟨?_, fun _ => rfl, fun _ => rfl⟩
    simp [renderNodes, Node.render, proper, bareNodes, Node.bare, NodesAreQuotable, Node.IsQuotable]

/-- A node is written with something, and not like a closing tag. -/
theorem render_of_isReadable {node : Node} (readable : node.IsReadable rest.head?) :
    node.render ≠ [] ∧ ¬ "</".toList <+: node.render ++ rest := by
  cases node with
  | element tag attributes children selfClosing span =>
      obtain ⟨⟨-, first, more, rfl, alpha⟩, -⟩ := readable
      refine ⟨by simp [Node.render], ?_⟩
      have apart : '/' ≠ first := by
        rintro rfl
        revert alpha
        decide
      simp [Node.render, apart]
  | comment content span => exact ⟨by simp [Node.render], by simp [Node.render]⟩
  | text content span =>
      cases readable with
      | @plain first more stray inside ends =>
          refine ⟨by simp [Node.render], ?_⟩
          rintro ⟨behind, split⟩
          have split : '<' :: '/' :: behind = first :: (more ++ rest) := split
          obtain ⟨rfl, tail⟩ := List.cons.inj split
          cases more with
          | nil =>
              have wrong := ends '/' (by simpa using congrArg List.head? tail.symm)
              revert wrong
              decide
          | cons c others =>
              have wrong := stray rfl c rfl
              obtain ⟨rfl, -⟩ := List.cons.inj tail
              revert wrong
              decide
      | @markup mark more marks noComment ends =>
          refine ⟨by simp [Node.render], ?_⟩
          rcases marks with rfl | rfl <;> simp [Node.render]

theorem exists_parseNode (noClosing : ¬ r.isAt "</" = true) :
    ∃ node, r.parseNode.1 = some node := by
  refine parseNode_cases ?comment ?closing ?markup ?element ?plain
  case closing => exact fun closes => absurd closes noClosing
  case comment | element => exact fun _ => ⟨_, rfl⟩
  case markup => exact fun _ _ => ⟨_, rfl⟩
  case plain => exact fun _ _ _ => ⟨_, rfl⟩

/-- Nodes of which the first one is read wrong are not read as they were. -/
theorem bareNodes_parseNodes_ne {node : Node} (inElement : Bool) (others : List Node)
    (proper : r.rest ≠ []) (noClosing : ¬ r.isAt "</" = true)
    (differs : r.parseNode.1.map Node.bare ≠ some node.bare) :
    bareNodes (r.parseNodes inElement).1 ≠ bareNodes (node :: others) := by
  obtain ⟨again, read⟩ := exists_parseNode noClosing
  have inside : ¬ (r.rest.isEmpty || (inElement && r.isAt "</")) = true := by
    simp [proper, noClosing]
  have differs : again.bare ≠ node.bare := by simpa [read] using differs
  by_cases shorter : r.parseNode.2.rest.length < r.rest.length
  · rw [parseNodes_more inside shorter, read]
    simp [bareNodes, differs]
  · rw [parseNodes_stuck inside shorter, read]
    simp [bareNodes, differs]

mutual

theorem rereads_parseNode : ∀ (node : Node) {rest : Text} {r : Reader},
    node.IsReadable rest.head? → r.rest = node.render ++ rest →
      Rereads r r.parseNode.2 rest (r.parseNode.1.map Node.bare = some node.bare) node.IsQuotable
  | .text content span, rest, r, readable, whole => rereads_text readable whole
  | .comment content span, rest, r, readable, whole => rereads_comment readable whole
  | .element tag attributes children selfClosing span, rest, r, readable, whole => by
      obtain ⟨isTag, named, inside⟩ := readable
      have opens : ∃ others, r.rest = '<' :: (tag ++ others) := by
        simp [whole, Node.render]
      obtain ⟨others, opens⟩ := opens
      rw [parseNode_of_tag isTag opens]
      simp only [Option.map_some, Option.some.injEq]
      cases selfClosing with
      | true =>
          obtain rfl : children = [] := by simpa using inside
          exact rereads_element_of_selfClosing isTag named whole
      | false =>
          obtain ⟨notVoid, inside⟩ : isVoid tag = false ∧ if isRawText tag = true then
              IsRawContent tag children else NodesAreReadable children (some '<') := by
            simpa using inside
          apply rereads_element_of_children isTag named notVoid _ whole
          intro body bodyRest shorter name
          by_cases raw : isRawText tag = true
          · rw [if_pos raw] at inside
            exact rereads_parseChildren_of_raw name raw inside bodyRest
          · rw [if_neg raw] at inside
            have read : r.parseChildren body = body.parseNodes true := by
              unfold parseChildren
              rw [if_neg (by rwa [name]), if_pos shorter]
            rw [read]
            exact rereads_parseNodes children true inside bodyRest rfl

theorem rereads_parseNodes : ∀ (nodes : List Node) {rest : Text} {r : Reader} (inElement : Bool),
    NodesAreReadable nodes rest.head? → r.rest = renderNodes nodes ++ rest →
      (rest.isEmpty || (inElement && Text.startsWith rest "</".toList)) = true →
      Rereads r (r.parseNodes inElement).2 rest
        (bareNodes (r.parseNodes inElement).1 = bareNodes nodes) (NodesAreQuotable nodes)
  | [], rest, r, inElement, _, whole, ends => by
      change r.rest = rest at whole
      rw [← whole] at ends
      rw [parseNodes_end ends]
      exact ⟨by simp [NodesAreQuotable], fun _ => whole, fun _ => rfl⟩
  | node :: others, rest, r, inElement, readable, whole, ends => by
      obtain ⟨first, more⟩ := readable
      rw [← List.head?_append] at first
      have split : r.rest = node.render ++ (renderNodes others ++ rest) := by
        simp [whole, renderNodes]
      obtain ⟨proper, noClosing⟩ := render_of_isReadable first
      have properHere : r.rest ≠ [] := by simp [split, proper]
      have noClosingHere : ¬ r.isAt "</" = true := by rwa [isAt_iff, split]
      obtain ⟨same_iff, leaves, clean⟩ := rereads_parseNode node first split
      by_cases quotable : node.IsQuotable
      · obtain ⟨again, read, same⟩ := Option.map_eq_some_iff.mp (same_iff.mpr quotable)
        have inside : ¬ (r.rest.isEmpty || (inElement && r.isAt "</")) = true := by
          simp [properHere, noClosingHere]
        have shorter : r.parseNode.2.rest.length < r.rest.length := by
          have some := List.length_pos_of_ne_nil proper
          rw [leaves quotable, split]
          simp only [List.length_append]
          omega
        obtain ⟨more_iff, leavesMore, cleanMore⟩ :=
          rereads_parseNodes others inElement more (leaves quotable) ends
        rw [parseNodes_more inside shorter, read]
        constructor
        · simp [bareNodes, same, more_iff, NodesAreQuotable, quotable]
        · exact fun all => leavesMore all.2
        · exact fun all => (cleanMore all.2).trans (clean quotable)
      · have differs := bareNodes_parseNodes_ne inElement others properHere noClosingHere
          (mt same_iff.mp quotable)
        have notAll : ¬ NodesAreQuotable (node :: others) := fun all => quotable all.1
        exact .of_not_quotable notAll differs

end

end Nodes

end Reader

/-- A template that is read without errors is the same when it is written and read again, and again
there are no errors, just when no attribute value holds both a single and a double quote. -/
theorem Template.reread_iff {name source : Text} (accepted : (parse name source).errors = []) :
    let nodes := (parse name source).tree.nodes
    let again := parse name (renderNodes nodes)
    again.errors = [] ∧ bareNodes again.tree.nodes = bareNodes nodes ↔ NodesAreQuotable nodes := by
  intro nodes again
  have readable : NodesAreReadable nodes ([] : Text).head? := areReadable_parse accepted
  have whole : (Reader.start (renderNodes nodes)).rest = renderNodes nodes ++ [] := by
    simp [Reader.start]
  obtain ⟨same_iff, -, clean⟩ := Reader.rereads_parseNodes nodes false readable whole rfl
  constructor
  · rintro ⟨-, same⟩
    exact same_iff.mp same
  · intro quotable
    exact ⟨clean quotable, same_iff.mpr quotable⟩

theorem Template.reread_iff_stray :
    let source := "<p class='say \"hi\"' hidden>a < b<BR/><style>p > q</STYLE></p>".toList
    let nodes := (parse "t.html".toList source).tree.nodes
    let again := parse "t.html".toList (renderNodes nodes)
    again.errors = [] ∧ bareNodes again.tree.nodes = bareNodes nodes := by
  intro source nodes again
  have accepted : (parse "t.html".toList source).errors = [] := by decide +kernel
  have quotable : NodesAreQuotable nodes := by decide +kernel
  exact (reread_iff accepted).mpr quotable

/-- An unquoted value with both quotes is written between single quotes and ends at its own. -/
theorem Template.not_reread_bothQuotes :
    let source := "<a b=x'\"y></a>".toList
    let nodes := (parse "t.html".toList source).tree.nodes
    let again := parse "t.html".toList (renderNodes nodes)
    (parse "t.html".toList source).errors = [] ∧ bareNodes again.tree.nodes ≠ bareNodes nodes := by
  intro source nodes again
  refine ⟨by decide +kernel, ?_⟩
  intro same
  have written : renderNodes (bareNodes again.tree.nodes) ≠ renderNodes (bareNodes nodes) := by
    decide +kernel
  exact written (congrArg renderNodes same)

end ComponentStyles
