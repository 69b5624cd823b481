import ComponentStyles.Proofs.Source.Boundary
import ComponentStyles.Stylesheet.Basic

/-!
# Trees whose spans keep to a source

The source of a stylesheet may start anywhere in its file, and spans count from the start of the
file. A tree is faithful to the source if each of its spans lies in the source, if neighbours stand
one behind the other, and if a span shows the text of its node where the node keeps it as written.
-/

namespace ComponentStyles

section Spans

variable {before source part : Text} {offset : Nat} {span : Span}

/-- The span lies in a source that starts at `offset`. -/
structure Span.LiesIn (offset : Nat) (source : Text) (span : Span) : Prop where
  low : offset ≤ span.start
  ordered : span.start ≤ span.stop
  high : span.stop ≤ offset + Text.size source

/-- What stands in the source at the span is `part`. -/
def Span.Shows (offset : Nat) (source part : Text) (span : Span) : Prop :=
  ∃ front behind, source = front ++ part ++ behind ∧
    span = ⟨offset + Text.size front, offset + Text.size (front ++ part)⟩

theorem Span.Shows.liesIn (shows : span.Shows offset source part) : span.LiesIn offset source := by
  obtain ⟨front, behind, rfl, rfl⟩ := shows
  constructor
  all_goals
    simp only [Text.size_append]
    omega

/-- In a file, a source stands behind what is in front of it. -/
theorem Span.Covers.shows (covers : span.Covers (before ++ source) part)
    (low : Text.size before ≤ span.start) : span.Shows (Text.size before) source part := by
  obtain ⟨through, starts, rfl⟩ := covers
  have startsToo : through <+: before ++ source := (List.prefix_append _ _).trans starts
  obtain ⟨front, rfl⟩ := Text.prefix_of_size_le (List.prefix_append before source) startsToo low
  obtain ⟨behind, whole⟩ := starts
  refine ⟨front, behind, ?_, ?_⟩
  · simpa only [List.append_assoc, List.append_cancel_left_eq, eq_comm] using whole
  · simp only [Text.size_append, Nat.add_assoc]

end Spans

section Rows

variable {α : Type} {span : α → Span} {Good : α → Prop} {a b low high : Nat} {node : α}
  {nodes rest : List α}

/-- Each node stands behind the ones in front of it. -/
def InOrder (span : α → Span) (nodes : List α) : Prop :=
  nodes.Pairwise fun node next => (span node).stop ≤ (span next).start

/-- Good nodes that stand in order between two offsets. -/
structure Lined (span : α → Span) (Good : α → Prop) (low high : Nat) (nodes : List α) : Prop where
  ordered : InOrder span nodes
  low : ∀ node ∈ nodes, low ≤ (span node).start
  high : ∀ node ∈ nodes, (span node).stop ≤ high
  good : ∀ node ∈ nodes, Good node

theorem lined_nil : Lined span Good low high [] :=
  ⟨.nil, nofun, nofun, nofun⟩

theorem lined_single (above : low ≤ (span node).start) (below : (span node).stop ≤ high)
    (good : Good node) : Lined span Good low high [node] := by
  constructor
  · exact List.pairwise_singleton _ _
  all_goals simpa

theorem lined_toList {node? : Option α} (found : ∀ node ∈ node?, Lined span Good low high [node]) :
    Lined span Good low high node?.toList := by
  cases node? with
  | none => exact lined_nil
  | some node => exact found node rfl

namespace Lined

theorem widen (lined : Lined span Good low high nodes) (lower : a ≤ low) (higher : high ≤ b) :
    Lined span Good a b nodes where
  ordered := lined.ordered
  low node listed := lower.trans (lined.low node listed)
  high node listed := (lined.high node listed).trans higher
  good := lined.good

theorem append (first : Lined span Good low a nodes) (later : Lined span Good b high rest)
    (lower : low ≤ b) (apart : a ≤ b) (higher : a ≤ high) :
    Lined span Good low high (nodes ++ rest) where
  ordered := List.pairwise_append.mpr ⟨first.ordered, later.ordered, fun node listed next others =>
    (first.high node listed).trans (apart.trans (later.low next others))⟩
  low := List.forall_mem_append.mpr ⟨first.low, (later.widen lower (Nat.le_refl _)).low⟩
  high := List.forall_mem_append.mpr ⟨(first.widen (Nat.le_refl _) higher).high, later.high⟩
  good := List.forall_mem_append.mpr ⟨first.good, later.good⟩

/-- The same nodes as nodes of another sort. -/
theorem map {β : Type} {spanToo : β → Span} {GoodToo : β → Prop} {f : α → β}
    (lined : Lined span Good low high nodes) (same : ∀ node, spanToo (f node) = span node)
    (good : ∀ node, Good node → GoodToo (f node)) :
    Lined spanToo GoodToo low high (nodes.map f) where
  ordered := by simpa only [InOrder, List.pairwise_map, same] using lined.ordered
  low := by simpa only [List.forall_mem_map, same] using lined.low
  high := by simpa only [List.forall_mem_map, same] using lined.high
  good := List.forall_mem_map.mpr fun node listed => good node (lined.good node listed)

theorem low_le_high (lined : Lined span Good low high nodes) (notEmpty : nodes ≠ [])
    (proper : ∀ node, Good node → (span node).start ≤ (span node).stop) : low ≤ high := by
  obtain ⟨node, listed⟩ := List.exists_mem_of_ne_nil nodes notEmpty
  calc low ≤ (span node).start := lined.low node listed
    _ ≤ (span node).stop := proper node (lined.good node listed)
    _ ≤ high := lined.high node listed

end Lined

end Rows

def SimpleSelector.span : SimpleSelector → Span
  | .universal span => span
  | .element _ span => span
  | .byClass _ span => span
  | .byId _ span => span
  | .attribute _ span => span
  | .pseudo _ _ _ span => span

def Selector.span : Selector → Span
  | .mk _ span => span

/-- A part stands where its simple selector does; the combinator is in front of that. -/
def SelectorPart.span : SelectorPart → Span
  | .mk _ simple => simple.span

def Item.span : Item → Span
  | .declaration d => d.span
  | .definition d => d.span

section Trees

variable (offset : Nat) (source : Text)

inductive Term.Faithful : Term → Prop where
  | literal {text span} : span.Shows offset source text → Faithful (.literal text span)
  | usage {name fallback span} :
      span.LiesIn offset source →
      (∀ term ∈ fallback, Faithful term) →
      Faithful (.usage name fallback span)
  | url {target span} : span.LiesIn offset source → Faithful (.url target span)
  | call {name arguments argumentsSpan span} :
      span.LiesIn offset source →
      argumentsSpan.LiesIn offset source →
      InOrder Term.span arguments →
      (∀ term ∈ arguments, Faithful term) →
      Faithful (.call name arguments argumentsSpan span)
  | operator {op span} : span.LiesIn offset source → Faithful (.operator op span)

structure Value.Faithful (value : Value) : Prop where
  span : value.span.LiesIn offset source
  ordered : InOrder Term.span value.terms
  terms : ∀ term ∈ value.terms, term.Faithful offset source

mutual

inductive SimpleSelector.Faithful : SimpleSelector → Prop where
  | universal {span} : span.LiesIn offset source → SimpleSelector.Faithful (.universal span)
  | element {name span} :
      span.Shows offset source name → SimpleSelector.Faithful (.element name span)
  | byClass {name span} :
      span.Shows offset source ('.' :: name) → SimpleSelector.Faithful (.byClass name span)
  | byId {name span} :
      span.Shows offset source ('#' :: name) → SimpleSelector.Faithful (.byId name span)
  | attribute {raw span} : span.LiesIn offset source → SimpleSelector.Faithful (.attribute raw span)
  | pseudo {form name argument span} :
      span.LiesIn offset source →
      PseudoArgument.Faithful argument →
      SimpleSelector.Faithful (.pseudo form name argument span)

inductive PseudoArgument.Faithful : PseudoArgument → Prop where
  | absent : PseudoArgument.Faithful .absent
  | raw {text} : PseudoArgument.Faithful (.raw text)
  | selectors {list span} :
      span.LiesIn offset source →
      InOrder Selector.span list →
      (∀ selector ∈ list, Selector.Faithful selector) →
      PseudoArgument.Faithful (.selectors list span)

inductive Selector.Faithful : Selector → Prop where
  | mk {parts span} :
      span.LiesIn offset source →
      InOrder SelectorPart.span parts →
      (∀ part ∈ parts, SelectorPart.Faithful part) →
      Selector.Faithful (.mk parts span)

inductive SelectorPart.Faithful : SelectorPart → Prop where
  | mk {combinator simple} :
      SimpleSelector.Faithful simple → SelectorPart.Faithful (.mk combinator simple)

end

structure SelectorList.Faithful (list : SelectorList) : Prop where
  span : list.span.LiesIn offset source
  ordered : InOrder Selector.span list.selectors
  selectors : ∀ selector ∈ list.selectors, selector.Faithful offset source

structure Declaration.Faithful (d : Declaration) : Prop where
  span : d.span.LiesIn offset source
  value : d.value.Faithful offset source

structure Definition.Faithful (d : Definition) : Prop where
  span : d.span.LiesIn offset source
  value : d.value.Faithful offset source

def Item.Faithful : Item → Prop
  | .declaration d => d.Faithful offset source
  | .definition d => d.Faithful offset source

structure Block.Faithful (block : Block) : Prop where
  span : block.span.LiesIn offset source
  ordered : InOrder Item.span block.items
  items : ∀ item ∈ block.items, item.Faithful offset source

inductive Statement.Faithful : Statement → Prop where
  | rule {selectors block span} :
      span.LiesIn offset source →
      selectors.Faithful offset source →
      block.Faithful offset source →
      Faithful (.rule selectors block span)
  | definition {d} : d.Faithful offset source → Faithful (.definition d)
  | importing {target media span} :
      span.LiesIn offset source → Faithful (.importing target media span)
  | conditional {name condition statements span} :
      span.LiesIn offset source →
      InOrder Statement.span statements →
      (∀ statement ∈ statements, Faithful statement) →
      Faithful (.conditional name condition statements span)
  | atRule {name prelude body span} :
      span.LiesIn offset source →
      (∀ block, body = some (.declarations block) → block.Faithful offset source) →
      Faithful (.atRule name prelude body span)
  | comment {text span} :
      span.Shows offset source ("/*".toList ++ text ++ "*/".toList) →
      Faithful (.comment text span)

structure Stylesheet.Faithful (sheet : Stylesheet) : Prop where
  span : sheet.span.LiesIn offset source
  ordered : InOrder Statement.span sheet.statements
  statements : ∀ statement ∈ sheet.statements, statement.Faithful offset source

end Trees

variable {offset : Nat} {source : Text}

theorem Term.Faithful.liesIn {term : Term} (faithful : term.Faithful offset source) :
    term.span.LiesIn offset source := by
  cases faithful with
  | literal shows => exact shows.liesIn
  | usage within _ => exact within
  | url within => exact within
  | call within _ _ _ => exact within
  | operator within => exact within

theorem SimpleSelector.Faithful.liesIn :
    ∀ {simple : SimpleSelector}, simple.Faithful offset source → simple.span.LiesIn offset source
  | _, .universal within => within
  | _, .element shows => shows.liesIn
  | _, .byClass shows => shows.liesIn
  | _, .byId shows => shows.liesIn
  | _, .attribute within => within
  | _, .pseudo within _ => within

theorem SelectorPart.Faithful.liesIn {part : SelectorPart}
    (faithful : part.Faithful offset source) : part.span.LiesIn offset source := by
  cases faithful with
  | mk simple => exact simple.liesIn

theorem Selector.Faithful.liesIn {selector : Selector}
    (faithful : selector.Faithful offset source) : selector.span.LiesIn offset source := by
  cases faithful with
  | mk within _ _ => exact within

end ComponentStyles
