import ComponentStyles.Proofs.Template.Located
import ComponentStyles.Template.Printer
import Mathlib.Data.List.TakeWhile

/-!
# What an accepted template consists of

A node can be read again if its parts end where they are read to end: names hold nothing that ends a
name, a text goes on to the next `<`, a comment does not hold its own end. What follows a node only
matters by its first character, and a node is written with the first character that it was read
with. So the nodes that are read without an error can all be read again.
-/

namespace ComponentStyles

section Definitions

/-- Whether a character may stand in the name of a tag or of an attribute. -/
def isNameSign (c : Char) : Bool :=
  !(Text.isBlank c || c = '>' || c = '/' || c = '=')

def IsAttributeName (name : Text) : Prop :=
  name ≠ [] ∧ ∀ c ∈ name, isNameSign c = true

def IsTagName (tag : Text) : Prop :=
  (∀ c ∈ tag, isNameSign c = true) ∧ ∃ first rest, tag = first :: rest ∧ first.isAlpha = true

/-- Whether something other than text begins with `<` and this character. -/
def opensMarkup (c : Char) : Bool :=
  c = '!' || c = '?' || c = '/' || c.isAlpha

/-- A text that is read as one node if the character behind it is the given one. -/
inductive IsTextBefore (next : Option Char) : Text → Prop where
  | plain {first : Char} {more : Text}
      (stray : first = '<' → ∀ c ∈ more.head?, opensMarkup c = false)
      (inside : '<' ∉ more) (ends : ∀ c ∈ next, c = '<') : IsTextBefore next (first :: more)
  /-- A document type or a processing instruction. -/
  | markup {mark : Char} {more : Text} (marks : mark = '!' ∨ mark = '?')
      (noComment : mark = '!' → ¬ ['-', '-'] <+: more)
      (ends : (∃ inside, more = inside ++ ['>'] ∧ '>' ∉ inside) ∨ '>' ∉ more ∧ next = none) :
      IsTextBefore next ('<' :: mark :: more)

def IsComment (content : Text) : Prop :=
  ∀ rest, Text.splitBefore? "-->".toList (content ++ ("-->".toList ++ rest)) =
    some (content, "-->".toList ++ rest)

/-- What may stand in an element whose content is a single text. -/
def IsRawContent (tag : Text) (children : List Node) : Prop :=
  (children = [] ∨ ∃ content span, content ≠ [] ∧ children = [.text content span]) ∧
    ∀ rest, Reader.splitRawText (Text.lower tag)
      (renderNodes children ++ ("</".toList ++ (tag ++ rest))) =
        (renderNodes children, "</".toList ++ (tag ++ rest))

mutual

/-- A node that can be read again if the character behind it is the given one. -/
def Node.IsReadable : Node → Option Char → Prop
  | .element tag attributes children selfClosing _, _ =>
      IsTagName tag ∧ (∀ a ∈ attributes, IsAttributeName a.name) ∧
        if selfClosing = true then children = []
        else isVoid tag = false ∧
          if isRawText tag = true then IsRawContent tag children
          else NodesAreReadable children (some '<')
  | .text content _, next => IsTextBefore next content
  | .comment content _, _ => IsComment content

def NodesAreReadable : List Node → Option Char → Prop
  | [], _ => True
  | node :: rest, next =>
      node.IsReadable ((renderNodes rest).head?.or next) ∧ NodesAreReadable rest next

end

end Definitions

namespace Reader

variable {r next last : Reader} {found foundToo : Prop}

section Accepts

/-- A step of a reader goes on in the text and, if there are no errors behind it, has come without
errors to what it has found out. -/
structure Accepts (r next : Reader) (found : Prop) : Prop where
  onward : next.rest <:+ r.rest
  clean : next.errors = [] → r.errors = [] ∧ found

theorem Accepts.imp (accepts : Accepts r next found) (imp : found → foundToo) :
    Accepts r next foundToo :=
  ⟨accepts.onward, fun clean => (accepts.clean clean).imp_right imp⟩

theorem Accepts.trans (first : Accepts r next found) (second : Accepts next last foundToo) :
    Accepts r last (found ∧ foundToo) := by
  refine ⟨second.onward.trans first.onward, ?_⟩
  intro clean
  obtain ⟨cleanNext, foundNext⟩ := second.clean clean
  obtain ⟨cleanFirst, foundFirst⟩ := first.clean cleanNext
  exact ⟨cleanFirst, foundFirst, foundNext⟩

theorem accepts_refl (r : Reader) : Accepts r r True :=
  ⟨List.suffix_refl _, fun clean => ⟨clean, trivial⟩⟩

theorem accepts_skip (r : Reader) (count : Nat) : Accepts r (r.skip count) True :=
  ⟨List.drop_suffix _ _, fun clean => ⟨clean, trivial⟩⟩

theorem accepts_readWhile (r : Reader) (test : Char → Bool) :
    Accepts r (r.readWhile test).2 (∀ c ∈ (r.readWhile test).1, test c = true) :=
  ⟨List.dropWhile_suffix _, fun clean => ⟨clean, fun _ => List.mem_takeWhile_imp⟩⟩

theorem accepts_skipBlanks (r : Reader) : Accepts r r.skipBlanks True :=
  (accepts_readWhile r _).imp fun _ => trivial

theorem accepts_readName (r : Reader) :
    Accepts r r.readName.2 (∀ c ∈ r.readName.1, isNameSign c = true) :=
  accepts_readWhile r isNameSign

/-- Where an error is reported, nothing is claimed. -/
theorem Accepts.report (accepts : Accepts r next found) (problem : Problem) (start : Nat) :
    Accepts r (next.report problem start) foundToo := by
  refine ⟨accepts.onward, ?_⟩
  intro clean
  simp [Reader.report] at clean

theorem accepts_readThroughTagEnd (r : Reader) : Accepts r r.readThroughTagEnd.2 True :=
  ((accepts_readWhile r (· != '>')).trans (accepts_skip _ 1)).imp fun _ => trivial

theorem accepts_readClosingTag (r : Reader) : Accepts (r.skip 2) r.readClosingTag.2 True :=
  ((accepts_readName (r.skip 2)).trans (accepts_readThroughTagEnd _)).imp fun _ => trivial

/-- What goes on behind a character has less left. -/
theorem shorter_of_onward (proper : r.rest ≠ []) (onward : next.rest <:+ (r.skip 1).rest) :
    next.rest.length < r.rest.length := by
  have notLonger := onward.length_le
  have some := List.length_pos_iff.mpr proper
  simp only [skip, goTo, List.length_drop] at notLonger
  omega

end Accepts

section Attributes

theorem accepts_readAttributeValue (r : Reader) (start : Nat) :
    Accepts r (r.readAttributeValue start).2 True := by
  unfold readAttributeValue
  split
  · exact accepts_refl r
  case h_2 quote _ _ =>
    split
    · have value := (accepts_skip r 1).trans (accepts_readWhile (r.skip 1) (· != quote))
      dsimp only
      split
      · exact value.report _ _
      · exact (value.trans (accepts_skip _ 1)).imp fun _ => trivial
    · exact (accepts_readWhile r _).imp fun _ => trivial

theorem accepts_attributeStep {attributes : List Attribute}
    (step : r.attributeStep = some (attributes, next)) :
    Accepts r next (∀ a ∈ attributes, IsAttributeName a.name) := by
  have blanks := accepts_skipBlanks r
  have name := blanks.trans (accepts_readName r.skipBlanks)
  unfold attributeStep at step
  simp only [] at step
  split at step
  · cases step
  case isFalse inside =>
    split at step
    case h_1 =>
      cases step
      exact (blanks.trans (accepts_skip _ 1)).report _ _
    case h_2 other =>
      have named : r.skipBlanks.readName.1 ≠ [] := by
        intro noName
        cases rest : r.skipBlanks.rest with
        | nil => simp [rest] at inside
        | cons c more => exact other c more noName rest
      split at step
      · cases step
        have behind := name.trans (accepts_skipBlanks _)
        have value := (behind.trans (accepts_skip _ 1)).trans (accepts_skipBlanks _)
        refine (value.trans (accepts_readAttributeValue _ _)).imp ?_
        rintro ⟨⟨⟨⟨⟨-, signs⟩, -⟩, -⟩, -⟩, -⟩
        simpa [IsAttributeName] using ⟨named, signs⟩
      · cases step
        refine name.imp ?_
        rintro ⟨-, signs⟩
        simpa [IsAttributeName] using ⟨named, signs⟩

theorem accepts_repeatedly {α : Type} {Holds : α → Prop}
    {step : Reader → Option (List α × Reader)}
    (accepts : ∀ {r found next}, step r = some (found, next) →
      Accepts r next (∀ a ∈ found, Holds a)) (r : Reader) :
    Accepts r (r.repeatedly step).2 (∀ a ∈ (r.repeatedly step).1, Holds a) := by
  induction r using repeatedly.induct step with
  | case1 r declines =>
      rw [repeatedly, declines]
      exact (accepts_refl r).imp fun _ => List.forall_mem_nil _
  | case2 r found next stepped shorter _ _ _ inductionHypothesis =>
      rw [repeatedly, stepped]
      simp only [shorter, if_true]
      refine ((accepts stepped).trans inductionHypothesis).imp ?_
      rintro ⟨first, more⟩ a listed
      rcases List.mem_append.mp listed with here | later
      · exact first a here
      · exact more a later
  | case3 r found next stepped stuck =>
      rw [repeatedly, stepped]
      simp only [stuck, if_false]
      exact accepts stepped

theorem accepts_parseAttributes (r : Reader) :
    Accepts r r.parseAttributes.2 (∀ a ∈ r.parseAttributes.1, IsAttributeName a.name) := by
  have attributes := accepts_repeatedly (fun step => accepts_attributeStep step) r
  exact (attributes.trans (accepts_skipBlanks _)).imp fun found => found.1

theorem accepts_tagAttributes (r : Reader) :
    Accepts (r.skip 1) r.tagAttributes.2
      ((∀ c ∈ r.tagName, isNameSign c = true) ∧
        ∀ a ∈ r.tagAttributes.1, IsAttributeName a.name) :=
  (accepts_readName (r.skip 1)).trans (accepts_parseAttributes _)

end Attributes

section Windows

variable {part front behind other content tag : Text}

theorem take_append_congr {width : Nat} (same : behind.take width = other.take width) :
    (front ++ behind).take width = (front ++ other).take width := by
  have shorter : width - front.length ≤ width := Nat.sub_le _ _
  rw [List.take_append, List.take_append, ← Nat.min_eq_left shorter, ← List.take_take,
    ← List.take_take, same]

theorem startsWith_iff_take :
    Text.startsWith content part = true ↔ part = content.take part.length := by
  unfold Text.startsWith
  rw [List.isPrefixOf_iff_prefix, List.prefix_iff_eq_take]

/-- Where a text is split depends only on as much of what follows as it is searched for. -/
theorem splitBefore?_of_window (proper : part ≠ [])
    (split : Text.splitBefore? part (content ++ behind) = some (content, behind))
    (same : behind.take part.length = other.take part.length) :
    Text.splitBefore? part (content ++ other) = some (content, other) := by
  have starts_iff (front : Text) : Text.startsWith (front ++ behind) part = true ↔
      Text.startsWith (front ++ other) part = true := by
    rw [startsWith_iff_take, startsWith_iff_take, take_append_congr same]
  induction content with
  | nil =>
      have starts : Text.startsWith behind part = true := by
        cases behind with
        | nil => simp [Text.splitBefore?, proper] at split
        | cons c rest =>
            rw [List.nil_append, Text.splitBefore?] at split
            split at split
            · assumption
            · obtain ⟨found, -, wrong⟩ := Option.map_eq_some_iff.mp split
              simp at wrong
      have startsToo := (starts_iff []).mp starts
      cases other with
      | nil => simp [Text.startsWith, proper] at startsToo
      | cons c rest =>
          rw [List.nil_append] at startsToo ⊢
          rw [Text.splitBefore?, if_pos startsToo]
  | cons c rest inductionHypothesis =>
      rw [List.cons_append, Text.splitBefore?] at split ⊢
      split at split
      · simp at split
      case isFalse apart =>
        obtain ⟨⟨before, found⟩, later, whole⟩ := Option.map_eq_some_iff.mp split
        simp only [Prod.mk.injEq, List.cons.injEq, true_and] at whole
        obtain ⟨rfl, rfl⟩ := whole
        have apartToo := mt (starts_iff (c :: before)).mpr apart
        rw [List.cons_append] at apartToo
        rw [if_neg apartToo, inductionHypothesis later]
        rfl

theorem startsWith_of_splitBefore? (proper : part ≠ [])
    (split : Text.splitBefore? part content = some (front, behind)) :
    Text.startsWith behind part = true := by
  induction content generalizing front with
  | nil => simp [Text.splitBefore?, proper] at split
  | cons c rest inductionHypothesis =>
      rw [Text.splitBefore?] at split
      split at split
      · cases split
        assumption
      · obtain ⟨⟨before, found⟩, later, whole⟩ := Option.map_eq_some_iff.mp split
        cases whole
        exact inductionHypothesis later

theorem isComment_of_split (split : Text.splitBefore? "-->".toList (content ++ behind) =
    some (content, behind)) : IsComment content := by
  intro rest
  have starts := startsWith_of_splitBefore? (by decide) split
  apply splitBefore?_of_window (by decide) split
  rw [← startsWith_iff_take.mp starts]
  rfl

theorem splitRawText_of_window (proper : behind ≠ [])
    (split : splitRawText tag (content ++ behind) = (content, behind))
    (same : (Text.lower behind).take (tag.length + 2) = (Text.lower other).take (tag.length + 2)) :
    splitRawText tag (content ++ other) = (content, other) := by
  have closes_iff (front : Text) :
      Text.lower ((front ++ behind).take (tag.length + 2)) = '<' :: '/' :: tag ↔
        Text.lower ((front ++ other).take (tag.length + 2)) = '<' :: '/' :: tag := by
    unfold Text.lower at same ⊢
    rw [List.map_take, List.map_take, List.map_append, List.map_append, take_append_congr same]
  induction content with
  | nil =>
      obtain ⟨c, rest, rfl⟩ := List.exists_cons_of_ne_nil proper
      have closes : Text.lower ((c :: rest).take (tag.length + 2)) = '<' :: '/' :: tag := by
        rw [List.nil_append, splitRawText] at split
        split at split
        · assumption
        · simp at split
      have closesToo := (closes_iff []).mp closes
      cases other with
      | nil => simp [Text.lower] at closesToo
      | cons d more =>
          rw [List.nil_append] at closesToo ⊢
          rw [splitRawText, if_pos closesToo]
  | cons c rest inductionHypothesis =>
      rw [List.cons_append, splitRawText] at split ⊢
      split at split
      · simp at split
      case isFalse apart =>
        simp only [Prod.mk.injEq, List.cons.injEq, true_and] at split
        have apartToo := mt (closes_iff (c :: rest)).mpr apart
        rw [List.cons_append] at apartToo
        rw [if_neg apartToo, inductionHypothesis (Prod.ext split.1 split.2)]

theorem lower_take_of_splitRawText (proper : behind ≠ [])
    (split : splitRawText tag content = (front, behind)) :
    (Text.lower behind).take (tag.length + 2) = '<' :: '/' :: tag := by
  induction content generalizing front with
  | nil =>
      cases split
      exact absurd rfl proper
  | cons c rest inductionHypothesis =>
      rw [splitRawText] at split
      split at split
      case isTrue closes =>
        cases split
        rw [← closes]
        exact List.map_take.symm
      case isFalse =>
        cases split
        exact inductionHypothesis rfl

theorem splitRawText_of_split (proper : behind ≠ [])
    (split : splitRawText (Text.lower tag) (content ++ behind) = (content, behind)) (rest : Text) :
    splitRawText (Text.lower tag) (content ++ ("</".toList ++ (tag ++ rest))) =
      (content, "</".toList ++ (tag ++ rest)) := by
  apply splitRawText_of_window proper split
  rw [lower_take_of_splitRawText proper split]
  have front : "</".toList ++ (tag ++ rest) = ("</".toList ++ tag) ++ rest := by simp
  unfold Text.lower
  rw [front, List.map_append, List.take_left']
  · rfl
  · simp

end Windows

section Leaves

theorem accepts_parseComment (r : Reader) : Accepts (r.skip 4) r.parseComment.2
    (∃ content span, r.parseComment.1 = .comment content span ∧ IsComment content) := by
  unfold parseComment
  simp only []
  split
  case h_1 content behind split =>
    have whole := splitBefore?_append split
    have inside : Accepts (r.skip 4) ((r.skip 4).goTo content behind) True :=
      ⟨⟨content, whole⟩, fun clean => ⟨clean, trivial⟩⟩
    refine (inside.trans (accepts_skip _ 3)).imp fun _ => ⟨content, _, rfl, ?_⟩
    rw [← whole] at split
    exact isComment_of_split split
  case h_2 =>
    have everything : Accepts (r.skip 4) (r.skip 4).finish True :=
      ⟨List.nil_suffix, fun clean => ⟨clean, trivial⟩⟩
    exact everything.report _ _

theorem isRawContent_parseRawText {tag : Text} (proper : (r.parseRawText tag).2.rest ≠ []) :
    IsRawContent tag (r.parseRawText tag).1 := by
  have whole := splitRawText_append (Text.lower tag) r.rest
  have split : splitRawText (Text.lower tag)
      ((splitRawText (Text.lower tag) r.rest).1 ++ (splitRawText (Text.lower tag) r.rest).2) =
        splitRawText (Text.lower tag) r.rest := by
    rw [whole]
  have again := splitRawText_of_split proper split
  unfold parseRawText
  cases content : (splitRawText (Text.lower tag) r.rest).1 with
  | nil =>
      rw [content] at again
      exact ⟨.inl (by simp [content]), by simpa [content, renderNodes] using again⟩
  | cons c more =>
      rw [content] at again
      let last := r.goTo (c :: more) (splitRawText (Text.lower tag) r.rest).2
      refine ⟨.inr ⟨c :: more, ⟨r.pos, last.pos⟩, List.cons_ne_nil c more, ?_⟩, ?_⟩
      · simp [content, last]
      · simpa [content, renderNodes, Node.render] using again

theorem accepts_parseRawText (r : Reader) (tag : Text) : Accepts r (r.parseRawText tag).2 True :=
  ⟨⟨_, splitRawText_append (Text.lower tag) r.rest⟩, fun clean => ⟨clean, trivial⟩⟩

theorem accepts_closeElement (r : Reader) (tag : Text) (start : Nat) :
    Accepts r (r.closeElement tag start) (r.rest ≠ []) := by
  unfold closeElement
  split
  · exact (accepts_refl r).report _ _
  case isFalse proper =>
    have closing := (accepts_skip r 2).trans (accepts_readClosingTag r)
    simp only []
    split
    · exact closing.imp fun _ => by simpa using proper
    · exact closing.report _ _

theorem readWhile_stops (r : Reader) (test : Char → Bool) :
    ∀ c ∈ (r.readWhile test).2.rest.head?, test c = false := by
  have stops := List.head?_dropWhile_not test r.rest
  intro c first
  change (r.rest.dropWhile test).head? = some c at first
  simpa [first] using stops

/-- A text goes on to the next `<`, and it is read as nothing else. -/
theorem accepts_parseText {first : Char} {more : Text} (whole : r.rest = first :: more)
    (stray : first = '<' → ∀ c ∈ more.head?, opensMarkup c = false) :
    Accepts (r.skip 1) r.parseText.2 (∃ content span,
      r.parseText.1 = .text (first :: content) span ∧
        IsTextBefore r.parseText.2.rest.head? (first :: content)) := by
  have rest : (r.skip 1).rest = more := by simp [skip, goTo, whole]
  refine (accepts_readWhile (r.skip 1) (· != '<')).imp fun inside => ?_
  refine ⟨_, _, by simp only [parseText, whole, List.take_succ_cons, List.take_zero]; rfl, ?_⟩
  apply IsTextBefore.plain
  · intro opens c here
    apply stray opens c
    change ((r.skip 1).rest.takeWhile _).head? = some c at here
    rw [rest, List.head?_takeWhile] at here
    exact (Option.filter_eq_some_iff.mp here).1
  · intro listed
    simpa using inside _ listed
  · intro c here
    simpa using readWhile_stops (r.skip 1) (· != '<') c here

/-- A document type or a processing instruction goes on to the next `>`. -/
theorem accepts_parseMarkup {mark : Char} {more : Text} (whole : r.rest = '<' :: mark :: more)
    (marks : mark = '!' ∨ mark = '?') (noComment : mark = '!' → ¬ ['-', '-'] <+: more) :
    Accepts (r.skip 1) r.parseMarkup.2 (∃ content span, r.parseMarkup.1 =
      .text ('<' :: mark :: content) span ∧
        IsTextBefore r.parseMarkup.2.rest.head? ('<' :: mark :: content)) := by
  have apart : mark ≠ '>' := by rcases marks with rfl | rfl <;> decide
  have taken : r.rest.takeWhile (· != '>') = '<' :: mark :: more.takeWhile (· != '>') := by
    simp [whole, apart]
  have left : r.rest.dropWhile (· != '>') = more.dropWhile (· != '>') := by
    simp [whole, apart]
  have inside : '>' ∉ more.takeWhile (· != '>') := by
    intro listed
    simpa using List.mem_takeWhile_imp listed
  have split : more.takeWhile (· != '>') ++ more.dropWhile (· != '>') = more :=
    List.takeWhile_append_dropWhile
  have rest : r.parseMarkup.2.rest = (more.dropWhile (· != '>')).drop 1 := by
    simp [parseMarkup, readThroughTagEnd, readWhile, skip, goTo, left]
  refine ⟨?_, fun clean => ⟨clean, ?_⟩⟩
  · have after : (r.skip 1).rest = mark :: more := by simp [skip, goTo, whole]
    rw [rest, after]
    exact (List.drop_suffix _ _).trans ((List.dropWhile_suffix _).trans (List.suffix_cons _ _))
  · refine ⟨more.takeWhile (· != '>') ++ (more.dropWhile (· != '>')).take 1,
      ⟨r.pos, r.parseMarkup.2.pos⟩, ?_, ?_⟩
    · simp [parseMarkup, readThroughTagEnd, readWhile, goTo, taken, left]
    · apply IsTextBefore.markup marks
      · intro opens starts
        have front := (List.prefix_append_right_inj (more.takeWhile (· != '>'))).mpr
          (List.take_prefix 1 (more.dropWhile (· != '>')))
        rw [split] at front
        exact noComment opens (starts.trans front)
      · cases behind : more.dropWhile (· != '>') with
        | nil =>
            right
            rw [rest, behind]
            simpa using inside
        | cons c others =>
            left
            have stops := List.head?_dropWhile_not (· != '>') more
            have closes : c = '>' := by simpa [behind] using stops
            exact ⟨_, by simp [closes], inside⟩

end Leaves

section Nodes

theorem isNameSign_of_isAlpha {c : Char} (alpha : c.isAlpha = true) : isNameSign c = true := by
  have letter : (decide (c.val ≥ 'A'.val ∧ c.val ≤ 'Z'.val) ||
      (decide (c.val ≥ 'a'.val) && decide (c.val ≤ 'z'.val))) = true := alpha
  have range : 65 ≤ c.toNat ∧ c.toNat ≤ 90 ∨ 97 ≤ c.toNat ∧ c.toNat ≤ 122 := by
    simpa [UInt32.le_iff_toNat_le] using letter
  have apart (d : Char) (out : d.toNat < 65) : c ≠ d := by
    rintro rfl
    omega
  have proper : Text.isBlank c = false := by
    simp only [Text.isBlank, Bool.or_eq_false_iff, Bool.and_eq_false_iff, decide_eq_false_iff_not,
      beq_eq_false_iff_ne]
    omega
  simp [isNameSign, proper, apart '>' (by decide), apart '/' (by decide), apart '=' (by decide)]

theorem isTagName_tagName (opens : r.atTag = true) (signs : ∀ c ∈ r.tagName, isNameSign c = true) :
    IsTagName r.tagName := by
  unfold atTag at opens
  split at opens
  case h_1 c more whole =>
    refine ⟨signs, c, more.takeWhile isNameSign, ?_, opens⟩
    have rest : (r.skip 1).rest = c :: more := by simp [skip, goTo, whole]
    change (r.skip 1).rest.takeWhile isNameSign = _
    rw [rest, List.takeWhile_cons_of_pos (isNameSign_of_isAlpha opens)]
  case h_2 => cases opens

theorem isAt_iff {text : String} : r.isAt text = true ↔ text.toList <+: r.rest := by
  unfold isAt Text.startsWith
  exact List.isPrefixOf_iff_prefix

theorem accepts_skip_more (r : Reader) (count : Nat) :
    Accepts (r.skip 1) (r.skip (count + 1)) True :=
  ⟨List.drop_suffix_drop_left _ (Nat.le_add_left 1 count), fun clean => ⟨clean, trivial⟩⟩

theorem exists_mark (opens : (r.isAt "<!" || r.isAt "<?") = true) :
    ∃ mark more, (mark = '!' ∨ mark = '?') ∧ r.rest = '<' :: mark :: more := by
  rcases Bool.or_eq_true_iff.mp opens with declares | instructs
  · obtain ⟨more, whole⟩ := isAt_iff.mp declares
    exact ⟨'!', more, .inl rfl, whole.symm⟩
  · obtain ⟨more, whole⟩ := isAt_iff.mp instructs
    exact ⟨'?', more, .inr rfl, whole.symm⟩

/-- What stands behind a bracket that is read as text opens no markup. -/
theorem opensMarkup_eq_false {more : Text} (whole : r.rest = '<' :: more)
    (noClosing : ¬ r.isAt "</" = true) (noMarkup : ¬ (r.isAt "<!" || r.isAt "<?") = true)
    (noTag : ¬ r.atTag = true) : ∀ c ∈ more.head?, opensMarkup c = false := by
  intro c here
  obtain ⟨others, rfl⟩ := List.head?_eq_some_iff.mp here
  have notSlash : c ≠ '/' := by
    rintro rfl
    exact noClosing (isAt_iff.mpr ⟨others, whole.symm⟩)
  have notMark : c ≠ '!' ∧ c ≠ '?' := by
    constructor <;> rintro rfl <;> apply noMarkup <;> rw [Bool.or_eq_true_iff]
    · exact .inl (isAt_iff.mpr ⟨others, whole.symm⟩)
    · exact .inr (isAt_iff.mpr ⟨others, whole.symm⟩)
  have notAlpha : c.isAlpha = false := by simpa [atTag, whole] using noTag
  simp [opensMarkup, notSlash, notMark, notAlpha]

/-- A node is written with the first character that it was read with. -/
theorem accepts_parseNode_of (proper : r.rest ≠ [])
    (element : r.atTag = true → Accepts (r.skip 1) r.parseElement.2
      (∀ next, r.parseElement.1.IsReadable next ∧ r.parseElement.1.render.head? = some '<')) :
    Accepts (r.skip 1) r.parseNode.2 (∃ node, r.parseNode.1 = some node ∧
      node.IsReadable r.parseNode.2.rest.head? ∧ node.render.head? = r.rest.head?) := by
  refine parseNode_cases ?comment ?closing ?markup ?element ?plain
  case comment =>
    intro opens
    obtain ⟨behind, whole⟩ := isAt_iff.mp opens
    refine ((accepts_skip_more r 3).trans (accepts_parseComment r)).imp ?_
    rintro ⟨-, content, span, found, isComment⟩
    exact ⟨_, rfl, by rw [found]; exact isComment, by simp [found, Node.render, ← whole]⟩
  case closing => exact fun _ => ((accepts_skip_more r 1).trans (accepts_readClosingTag r)).report _ _
  case markup =>
    intro noComment opens
    obtain ⟨mark, more, marks, whole⟩ := exists_mark opens
    refine (accepts_parseMarkup whole marks ?_).imp ?_
    · rintro rfl ⟨behind, rfl⟩
      exact noComment (isAt_iff.mpr ⟨behind, whole.symm⟩)
    · rintro ⟨content, span, found, isText⟩
      exact ⟨_, rfl, by rw [found]; exact isText, by simp [found, Node.render, whole]⟩
  case element =>
    intro opens
    refine (element opens).imp fun found => ⟨_, rfl, (found _).1, ?_⟩
    rw [(found none).2]
    unfold atTag at opens
    split at opens
    case h_1 c more whole => simp [whole]
    case h_2 => cases opens
  case plain =>
    intro noClosing noMarkup noTag
    obtain ⟨first, more, whole⟩ := List.exists_cons_of_ne_nil proper
    refine (accepts_parseText whole ?_).imp ?_
    · rintro rfl
      exact opensMarkup_eq_false whole noClosing noMarkup noTag
    · rintro ⟨content, span, found, isText⟩
      exact ⟨_, rfl, by rw [found]; exact isText, by simp [found, Node.render, whole]⟩

/-- The nodes of a reader, the character behind them, and the place where it stops. -/
def Found (inElement : Bool) (r last : Reader) (nodes : List Node) : Prop :=
  NodesAreReadable nodes last.rest.head? ∧
    (renderNodes nodes).head?.or last.rest.head? = r.rest.head? ∧
    (last.rest.isEmpty || (inElement && last.isAt "</")) = true

theorem Found.cons {inElement : Bool} {nodes : List Node} {node : Node}
    (first : node.IsReadable next.rest.head?) (begins : node.render.head? = r.rest.head?)
    (proper : r.rest ≠ []) (more : Found inElement next last nodes) :
    Found inElement r last (node :: nodes) := by
  obtain ⟨readable, behind, ends⟩ := more
  refine ⟨⟨by rwa [behind], readable⟩, ?_, ends⟩
  obtain ⟨c, rest, whole⟩ := List.exists_cons_of_ne_nil proper
  simp [renderNodes, begins, whole]

mutual

theorem accepts_parseNodes (inElement : Bool) (r : Reader) : Accepts r (r.parseNodes inElement).2
    (Found inElement r (r.parseNodes inElement).2 (r.parseNodes inElement).1) := by
  by_cases ends : (r.rest.isEmpty || (inElement && r.isAt "</")) = true
  · rw [parseNodes_end ends]
    exact (accepts_refl r).imp fun _ => ⟨trivial, by simp [renderNodes], ends⟩
  have proper : r.rest ≠ [] := by
    intro nothing
    simp [nothing] at ends
  have first := accepts_parseNode_of proper (accepts_parseElement r)
  have shorter := shorter_of_onward proper first.onward
  rw [parseNodes_more ends shorter]
  refine (((accepts_skip r 1).trans first).trans
    (accepts_parseNodes inElement r.parseNode.2)).imp ?_
  rintro ⟨⟨-, node, read, readable, begins⟩, more⟩
  rw [read]
  exact more.cons readable begins proper
termination_by 2 * r.rest.length + 1

theorem accepts_parseElement (r : Reader) (opens : r.atTag = true) :
    Accepts (r.skip 1) r.parseElement.2
      (∀ next, r.parseElement.1.IsReadable next ∧ r.parseElement.1.render.head? = some '<') := by
  have tag := accepts_tagAttributes r
  have body := tag.trans (accepts_skip r.tagAttributes.2 1)
  rw [parseElement_eq]
  dsimp only
  split
  · refine (tag.trans (accepts_skip r.tagAttributes.2 2)).imp ?_
    rintro ⟨⟨signs, named⟩, -⟩ next
    exact ⟨⟨isTagName_tagName opens signs, named, rfl⟩, rfl⟩
  split
  · split
    · refine body.imp ?_
      rintro ⟨⟨signs, named⟩, -⟩ next
      exact ⟨⟨isTagName_tagName opens signs, named, rfl⟩, rfl⟩
    case isFalse notVoid =>
      have proper : r.rest ≠ [] := by
        intro nothing
        simp [atTag, nothing] at opens
      have shorter := shorter_of_onward proper body.onward
      have children : Accepts (r.tagAttributes.2.skip 1)
          (r.parseChildren (r.tagAttributes.2.skip 1)).2
          ((r.parseChildren (r.tagAttributes.2.skip 1)).2.rest ≠ [] →
            if isRawText r.tagName = true then
              IsRawContent r.tagName (r.parseChildren (r.tagAttributes.2.skip 1)).1
            else NodesAreReadable (r.parseChildren (r.tagAttributes.2.skip 1)).1 (some '<')) := by
        unfold parseChildren
        split
        case isTrue raw => exact (accepts_parseRawText _ _).imp fun _ => isRawContent_parseRawText
        case isFalse notRaw =>
          refine (accepts_parseNodes true _).imp ?_
          rintro ⟨readable, -, ends⟩ proper
          have closes : (parseNodes true (r.tagAttributes.2.skip 1)).2.isAt "</" = true := by
            simpa [proper] using ends
          obtain ⟨rest, whole⟩ := isAt_iff.mp closes
          rw [← whole] at readable
          exact readable
      refine ((body.trans children).trans (accepts_closeElement _ r.tagName r.pos)).imp ?_
      rintro ⟨⟨⟨⟨signs, named⟩, -⟩, inside⟩, proper⟩ next
      exact ⟨⟨isTagName_tagName opens signs, named, by simpa using notVoid, inside proper⟩, rfl⟩
  · exact tag.report _ _
termination_by 2 * r.rest.length

end

end Nodes

end Reader

/-- The nodes of a template that is read without errors can be read again. -/
theorem Template.areReadable_parse {name source : Text}
    (accepted : (parse name source).errors = []) :
    NodesAreReadable (parse name source).tree.nodes none := by
  have read := Reader.accepts_parseNodes false (.start source)
  obtain ⟨-, readable, -, ends⟩ := read.clean accepted
  have finished : ((Reader.start source).parseNodes false).2.rest = [] := by simpa using ends
  rw [finished] at readable
  exact readable

end ComponentStyles
