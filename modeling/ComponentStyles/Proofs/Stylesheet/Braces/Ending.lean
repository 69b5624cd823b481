import ComponentStyles.Proofs.Stylesheet.Braces.Statement
import ComponentStyles.Proofs.Token.Placed

/-!
# Where blocks end

In a source with balanced braces a block ends with the brace that matches its opening one, however much
is wrong inside of it, unless an opening brace in it has been reported and forgotten. With every such
stray the block ends before its match.
-/

namespace ComponentStyles

open Token

/-- A span lies within another one. -/
def Span.Within (span around : Span) : Prop :=
  around.start ≤ span.start ∧ span.stop ≤ around.stop

/-- The block of a statement ends with the brace that closes the one it starts with. -/
def Statement.EndsWithMatch (tokens : List Token) (statement : Statement) : Prop :=
  ∃ outer lead opening body closing back,
    tokens = outer ++ (lead ++ opening :: (body ++ closing :: back)) ∧ statement.IsLead lead ∧
      opening.kind = .openBrace ∧ Balanced body ∧ closing.kind = .closeBrace ∧
      statement.blockSpan = ⟨(lead.headD opening).span.start, closing.span.stop⟩

theorem exists_headD (lead rest : List Token) (opening : Token) :
    ∃ more, lead ++ opening :: rest = lead.headD opening :: more := by
  cases lead with
  | nil => exact ⟨rest, rfl⟩
  | cons first more => exact ⟨more ++ opening :: rest, rfl⟩

section Leads

variable {lead leadToo rest restToo : List Token} {opening openingToo : Token}

theorem LeadsAtRule.unique (leads : LeadsAtRule lead) (leadsToo : LeadsAtRule leadToo)
    (opens : opening.kind = .openBrace) (opensToo : openingToo.kind = .openBrace)
    (same : lead ++ opening :: rest = leadToo ++ openingToo :: restToo) :
    lead = leadToo ∧ opening = openingToo ∧ rest = restToo := by
  obtain ⟨keyword, head, rfl, -, encloses⟩ := leads
  obtain ⟨keywordToo, headToo, rfl, -, enclosesToo⟩ := leadsToo
  rw [List.cons_append, List.cons_append, List.cons.injEq] at same
  obtain ⟨rfl, same⟩ := same
  -- Both preludes go up to the first brace outside parentheses.
  have stops : opening.kind ∈ Fence.ofPrelude.stops := by rw [opens]; decide
  have stopsToo : openingToo.kind ∈ Fence.ofPrelude.stops := by rw [opensToo]; decide
  have cut : Fence.ofPrelude.split 0 (head ++ opening :: rest) = (head, opening :: rest) :=
    Fence.split_of_encloses encloses stops
  rw [same, Fence.split_of_encloses enclosesToo stopsToo] at cut
  obtain ⟨rfl, behind⟩ := Prod.mk.inj cut
  exact ⟨rfl, (List.cons.inj behind).imp Eq.symm Eq.symm⟩

theorem Statement.IsLead.unique {statement : Statement} (isLead : statement.IsLead lead)
    (isLeadToo : statement.IsLead leadToo) (opens : opening.kind = .openBrace)
    (opensToo : openingToo.kind = .openBrace)
    (same : lead ++ opening :: rest = leadToo ++ openingToo :: restToo) :
    lead = leadToo ∧ opening = openingToo ∧ rest = restToo := by
  cases statement with
  | rule =>
      obtain rfl : lead = [] := isLead
      obtain rfl : leadToo = [] := isLeadToo
      exact ⟨rfl, List.cons.inj same⟩
  | _ => exact LeadsAtRule.unique isLead isLeadToo opens opensToo same

end Leads

section Closed

variable {tokens outer lead body back : List Token} {opening closing token : Token}
  {statement : Statement} {before inside after : List ParseError}

theorem within_of_mem_body (ordered : tokens.Pairwise Before)
    (whole : tokens = outer ++ (lead ++ opening :: (body ++ closing :: back))) (listed : token ∈ body) :
    token.span.Within ⟨(lead.headD opening).span.start, closing.span.stop⟩ := by
  rw [whole, List.pairwise_append] at ordered
  obtain ⟨-, ordered, -⟩ := ordered
  constructor
  · rw [← List.singleton_append, ← List.append_assoc, List.pairwise_append] at ordered
    obtain ⟨more, same⟩ := exists_headD lead [] opening
    have first : lead.headD opening ∈ lead ++ [opening] := by simp [same]
    obtain ⟨long, apart, -⟩ := ordered.2.2 _ first token (List.mem_append_left _ listed)
    exact long.le.trans apart
  · rw [List.pairwise_append, List.pairwise_cons, List.pairwise_append] at ordered
    obtain ⟨-, apart, long⟩ := ordered.2.1.2.2.2 token listed closing List.mem_cons_self
    exact apart.trans long.le

theorem not_within_of_mem_around (ordered : tokens.Pairwise Before)
    (whole : tokens = outer ++ (lead ++ opening :: (body ++ closing :: back)))
    (listed : token ∈ outer ∨ token ∈ back) :
    ¬ token.span.Within ⟨(lead.headD opening).span.start, closing.span.stop⟩ := by
  rintro ⟨starts, stops⟩
  dsimp only at starts stops
  rw [whole, List.pairwise_append] at ordered
  rcases listed with listed | listed
  · obtain ⟨more, same⟩ := exists_headD lead (body ++ closing :: back) opening
    obtain ⟨long, apart, -⟩ := ordered.2.2 token listed (lead.headD opening) (by simp [same])
    omega
  · obtain ⟨-, ordered, -⟩ := ordered
    rw [List.pairwise_append, List.pairwise_cons, List.pairwise_append, List.pairwise_cons] at ordered
    obtain ⟨-, apart, long⟩ := ordered.2.1.2.2.1.1 token listed
    omega

/-- A block from one brace to another one ends with its match just when its inside is balanced. -/
theorem endsWithMatch_iff_balanced (ordered : tokens.Pairwise Before)
    (whole : tokens = outer ++ (lead ++ opening :: (body ++ closing :: back)))
    (isLead : statement.IsLead lead) (opens : opening.kind = .openBrace)
    (closes : closing.kind = .closeBrace)
    (spans : statement.blockSpan = ⟨(lead.headD opening).span.start, closing.span.stop⟩) :
    statement.EndsWithMatch tokens ↔ Balanced body := by
  constructor
  · rintro ⟨outerToo, leadToo, openingToo, bodyToo, closingToo, backToo, wholeToo, isLeadToo, opensToo,
      balanced, closesToo, spansToo⟩
    obtain ⟨starts, stops⟩ := Span.mk.inj (spans.symm.trans spansToo)
    -- The spans tell where the blocks start and where they stop, so they are the same.
    obtain ⟨more, first⟩ := exists_headD lead (body ++ closing :: back) opening
    obtain ⟨moreToo, firstToo⟩ := exists_headD leadToo (bodyToo ++ closingToo :: backToo) openingToo
    obtain ⟨rfl, -, -⟩ := split_unique ordered (first ▸ whole) (firstToo ▸ wholeToo) (.inl starts)
    have same := List.append_cancel_left (whole.symm.trans wholeToo)
    obtain ⟨rfl, rfl, inner⟩ := isLead.unique isLeadToo opens opensToo same
    have cut : tokens = (outer ++ (lead ++ opening :: body)) ++ closing :: back := by simp [whole]
    have cutToo : tokens = (outer ++ (lead ++ opening :: bodyToo)) ++ closingToo :: backToo := by
      simp [wholeToo]
    obtain ⟨same, -, -⟩ := split_unique ordered cut cutToo (.inr stops)
    obtain rfl : body = bodyToo := by simpa using same
    exact balanced
  · exact fun balanced => ⟨outer, lead, opening, body, closing, back, whole, isLead, opens, balanced,
      closes, spans⟩

theorem balanced_iff_of_walk {strays : List Span} (walk : Walk 0 body strays 0) :
    Balanced body ↔ strays = [] := by
  constructor
  · intro balanced
    have counted := walk.depth_eq
    rw [balanced.total] at counted
    exact List.eq_nil_of_length_eq_zero (by simpa using counted.symm)
  · rintro rfl
    exact walk.balanced

/-- The strays within a block are those that are reported inside of it. -/
theorem strays_eq_nil_iff (ordered : tokens.Pairwise Before)
    (whole : tokens = outer ++ (lead ++ opening :: (body ++ closing :: back)))
    (earlier : StraysIn before outer) (walk : Walk 0 body (strays inside) 0)
    (later : StraysIn after back) :
    strays inside = [] ↔ ∀ e ∈ before ++ (inside ++ after), e.IsStray →
      ¬ e.span.Within ⟨(lead.headD opening).span.start, closing.span.stop⟩ := by
  constructor
  · intro none e listed isStray
    rcases List.mem_append.mp listed with listed | listed
    · obtain ⟨token, member, -, span⟩ := earlier e listed isStray
      exact span ▸ not_within_of_mem_around ordered whole (.inl member)
    rcases List.mem_append.mp listed with listed | listed
    · have stray : e.span ∈ strays inside := mem_strays_iff.mpr ⟨e, listed, isStray, rfl⟩
      rw [none] at stray
      cases stray
    · obtain ⟨token, member, -, span⟩ := later e listed isStray
      exact span ▸ not_within_of_mem_around ordered whole (.inr member)
  · intro quiet
    refine List.eq_nil_iff_forall_not_mem.mpr fun span stray => ?_
    obtain ⟨token, member, -, rfl⟩ := walk.mem_strays stray
    obtain ⟨e, listed, isStray, span⟩ := mem_strays_iff.mp stray
    refine quiet e (List.mem_append_right _ (List.mem_append_left _ listed)) isStray ?_
    exact span ▸ within_of_mem_body ordered whole member

end Closed

/-- A balanced run does not leave a block open. -/
theorem not_balanced_unclosed {front body : List Token} {opening : Token} {strays : List Span}
    {level : Nat} (opens : opening.kind = .openBrace) (walk : Walk 0 body strays level) :
    ¬ Balanced (front ++ opening :: body) := by
  intro balanced
  have never := balanced.never front (List.prefix_append _ _)
  have total := balanced.total
  have counted := walk.depth_eq
  simp only [depth_append, depth_cons, opens, Kind.weight] at total
  push_cast at counted
  omega

/-- A block that is read in balanced tokens ends with its match if and only if no stray lies in it. -/
theorem endsWithMatch_iff_of_read {tokens lead : List Token} {errors : List ParseError}
    {statement : Statement} (ordered : tokens.Pairwise Before) (balanced : Balanced tokens)
    (isLead : statement.IsLead lead) (read : ReadBlock lead [] tokens errors statement.blockSpan) :
    statement.EndsWithMatch tokens ↔
      ∀ e ∈ errors, e.IsStray → ¬ e.span.Within statement.blockSpan := by
  generalize spans : statement.blockSpan = span at read
  obtain @⟨outer, run, more, opening, before, inside, after, stop, opens, block, earlier, later⟩ := read
  rw [List.append_nil] at block
  cases block with
  | unclosed walk =>
      rw [List.append_nil, ← List.append_assoc] at balanced
      exact absurd balanced (not_balanced_unclosed opens walk)
  | @closed behind body closing errors walk closes =>
      simp only [List.append_assoc, List.singleton_append] at ordered ⊢
      rw [endsWithMatch_iff_balanced ordered rfl isLead opens closes spans, balanced_iff_of_walk walk]
      exact strays_eq_nil_iff ordered rfl earlier walk later

/-- Whatever the parser reads of a stylesheet without counting braces is balanced. -/
structure KeepsBraces (source : Text) : Prop where
  runs : ∀ c, (Cursor.start 0 source (ofText 0 source)).Reaches c → c.KeepsRuns
  usages : KeepsUsages (ofText 0 source)

section Plain

variable {tokens : List Token} {stops : List Kind}

/-- Whether the parser may read over braces behind a token. -/
def Token.hidesBraces (token : Token) : Bool :=
  [Kind.openParen, .function, .openBracket].contains token.kind

/-- Outside parentheses a run ends at the first stop. -/
theorem not_mem_stops_of_mem_run (plain : ∀ token ∈ tokens, token.hidesBraces = false) :
    ∀ token ∈ run stops tokens, token.kind ∉ stops := by
  induction tokens with
  | nil => exact List.forall_mem_nil _
  | cons token rest inductionHypothesis =>
      rw [List.forall_mem_cons] at plain
      have here : run stops (token :: rest) =
          if token.kind ∈ stops then [] else token :: run stops rest := by
        have shown := plain.1
        simp only [run, Cursor.splitRaw, Token.hidesBraces] at shown ⊢
        split
        · simp_all
        · cases kind : token.kind <;> simp_all
      rw [here]
      split
      case isTrue => exact List.forall_mem_nil _
      case isFalse goesOn =>
        rw [List.forall_mem_cons]
        exact ⟨goesOn, inductionHypothesis plain.2⟩

theorem balanced_run (plain : ∀ token ∈ tokens, token.hidesBraces = false)
    (opening : .openBrace ∈ stops) (closing : .closeBrace ∈ stops) : Balanced (run stops tokens) := by
  have flat : ∀ token ∈ run stops tokens, token.kind.weight = 0 := by
    intro token listed
    have goesOn := not_mem_stops_of_mem_run plain token listed
    exact Kind.weight_eq_zero (fun opens => goesOn (opens ▸ opening))
      (fun closes => goesOn (closes ▸ closing))
  exact (Walk.flat flat).balanced

theorem Cursor.Reaches.suffix {start c : Cursor} (reached : start.Reaches c) : c.rest <:+ start.rest := by
  induction reached with
  | start => exact List.suffix_refl _
  | onward _ inductionHypothesis => exact (reads_parseStatement _).suffix.trans inductionHypothesis
  | inward _ _ _ _ inductionHypothesis =>
      refine List.IsSuffix.trans ?_ inductionHypothesis
      exact (reads_advance _).suffix.trans ((readRaw_moves (by decide) _).1.trans
        ((reads_skipTrivia _).suffix.trans (reads_advance _).suffix))

/-- Without parentheses and brackets every brace is counted. -/
theorem keepsBraces_of_plain {source : Text}
    (plain : ∀ token ∈ ofText 0 source, token.hidesBraces = false) : KeepsBraces source where
  runs c reached uncounted isRun := by
    have within {rest : List Token} (suffix : rest <:+ c.rest) :
        ∀ token ∈ rest, token.hidesBraces = false :=
      fun token listed => plain token (reached.suffix.subset (suffix.subset listed))
    have skipped : c.advance.skipTrivia.rest <:+ c.rest :=
      (c.advance.reads_skipTrivia).suffix.trans c.reads_advance.suffix
    cases isRun with
    | prelude => exact balanced_run (within skipped) (by decide) (by decide)
    | media =>
        refine balanced_run (within ?_) (by decide) (by decide)
        exact (Cursor.reads_skipTrivia _).suffix.trans ((Cursor.reads_advance _).suffix.trans skipped)
    | selector suffix _ isRun =>
        cases isRun with
        | bracketed isBracket =>
            have shown := within suffix _ List.mem_cons_self
            simp [Token.hidesBraces, isBracket] at shown
        | argument _ isFunction =>
            have shown := within suffix _ (List.mem_cons_of_mem _ List.mem_cons_self)
            simp [Token.hidesBraces, isFunction] at shown
  usages ahead uncounted suffix isRun := by
    cases isRun with
    | unnamed isFunction | fallback isFunction =>
        have shown := plain _ (suffix.subset List.mem_cons_self)
        simp [Token.hidesBraces, isFunction] at shown

end Plain

/-- In a stylesheet with balanced braces, whose uncounted runs are balanced, the block of every
statement, at whatever depth, ends with the brace that matches its opening one if and only if no opening
brace in it is reported in the place of a value or a declaration. -/
theorem Stylesheet.endsWithMatch_iff {name source : Text} {statement : Statement}
    (balanced : Balanced (ofText 0 source)) (keeps : KeepsBraces source)
    (within : statement.Within (parse name source).tree.statements)
    (hasBlock : statement.hasBlock = true) :
    statement.EndsWithMatch (ofText 0 source) ↔
      ∀ e ∈ (parse name source).errors, e.IsStray → ¬ e.span.Within statement.blockSpan := by
  have countable : Countable (ofText 0 source) :=
    ⟨fun _ listed => (spells_of_mem_ofText listed).ne_endOfInput, keeps.usages⟩
  obtain ⟨taken, errors, whole, added, found, -⟩ :=
    Cursor.takes_parseStatements keeps.runs false _ .start countable
  obtain ⟨lead, isLead, read⟩ := found.blocks statement within hasBlock
  have recorded : (parse name source).errors = errors := added
  have tokens : ofText 0 source = taken ++ _ := whole
  -- What is left of the tokens is read as nothing.
  rw [← List.append_nil (Cursor.rest _)] at read
  have all := read.within (straysIn_nil : StraysIn [] []) straysIn_nil
  rw [List.nil_append, List.nil_append, List.append_nil, ← tokens] at all
  rw [recorded]
  exact endsWithMatch_iff_of_read (pairwise_before_ofText source) balanced isLead all

/-- A nested rule between other errors than strays. -/
def brokenMediaSource : Text :=
  "@media print \x7b .a \x7b b c; d: ); \x7d \x7d .e \x7b top 0 \x7d".toList

theorem Stylesheet.endsWithMatch_iff_brokenMedia : ∃ outer inner : Statement,
    (Balanced (ofText 0 brokenMediaSource) ∧ KeepsBraces brokenMediaSource) ∧
      (outer.Within (parse [] brokenMediaSource).tree.statements ∧ outer.hasBlock = true ∧
        outer.blockSpan = ⟨0, 34⟩ ∧ outer.EndsWithMatch (ofText 0 brokenMediaSource)) ∧
      inner.Within (parse [] brokenMediaSource).tree.statements ∧ inner.hasBlock = true ∧
        inner.blockSpan = ⟨18, 32⟩ ∧ inner.EndsWithMatch (ofText 0 brokenMediaSource) := by
  have balanced : Balanced (ofText 0 brokenMediaSource) := by decide +kernel
  have keeps : KeepsBraces brokenMediaSource := keepsBraces_of_plain (by decide +kernel)
  have quiet : ∀ e ∈ (parse [] brokenMediaSource).errors, ¬ e.IsStray := by decide +kernel
  have shape : (parse [] brokenMediaSource).tree.statements.map (fun
      | .conditional _ _ inner span => (inner.map fun rule => (rule.hasBlock, rule.blockSpan), span)
      | _ => ([], ⟨0, 0⟩)) = [([(true, ⟨18, 32⟩)], ⟨0, 34⟩), ([], ⟨0, 0⟩)] := by
    decide +kernel
  obtain ⟨outer, rest, whole, isOuter, -⟩ := List.map_eq_cons_iff.mp shape
  cases outer with
  | conditional name condition statements span =>
      obtain ⟨rules, rfl⟩ := Prod.mk.inj isOuter
      obtain ⟨inner, none, rfl, isInner, -⟩ := List.map_eq_cons_iff.mp rules
      obtain ⟨hasBlock, spans⟩ := Prod.mk.inj isInner
      have listed := whole ▸ List.mem_cons_self
      have within := Statement.Within.inside listed (.listed List.mem_cons_self)
      refine ⟨_, inner, ⟨balanced, keeps⟩, ⟨.listed listed, rfl, rfl, ?_⟩, within, hasBlock, spans, ?_⟩
      · exact (endsWithMatch_iff balanced keeps (.listed listed) rfl).mpr fun e listed isStray _ =>
          quiet e listed isStray
      · exact (endsWithMatch_iff balanced keeps within hasBlock).mpr fun e listed isStray _ =>
          quiet e listed isStray
  | _ => cases congrArg Prod.fst isOuter

/-- A declaration with a block in the place of its value. -/
def blockValueSource : Text :=
  ".a \x7b b: \x7b c \x7d \x7d".toList

/-- The inside of the rule up to the first closing brace. -/
def blockValueTokens : List Token :=
  [⟨.whitespace, " ".toList, ⟨4, 5⟩⟩, ⟨.identifier, "b".toList, ⟨5, 6⟩⟩, ⟨.colon, ":".toList, ⟨6, 7⟩⟩,
    ⟨.whitespace, " ".toList, ⟨7, 8⟩⟩, ⟨.openBrace, "\x7b".toList, ⟨8, 9⟩⟩,
    ⟨.whitespace, " ".toList, ⟨9, 10⟩⟩, ⟨.identifier, "c".toList, ⟨10, 11⟩⟩,
    ⟨.whitespace, " ".toList, ⟨11, 12⟩⟩]

theorem exists_rule_blockValue : ∃ selectors block span,
    .rule selectors block span ∈ (Stylesheet.parse [] blockValueSource).tree.statements ∧
      block.span = ⟨3, 13⟩ := by
  have spans : (Stylesheet.parse [] blockValueSource).tree.statements.map (fun statement =>
      (statement.blockSpan, statement.span)) = [(⟨3, 13⟩, ⟨0, 13⟩)] := by
    decide +kernel
  obtain ⟨statement, rest, whole, found, -⟩ := List.map_eq_cons_iff.mp spans
  obtain ⟨ofBlock, ofStatement⟩ := Prod.mk.inj found
  cases statement with
  | rule selectors block span => exact ⟨selectors, block, span, whole ▸ List.mem_cons_self, ofBlock⟩
  -- Only a rule has more in its span than in that of its block.
  | _ => cases ofBlock.symm.trans ofStatement

/-- The brace that closes the value closes the rule. -/
theorem not_endsWithMatch_blockValue : Balanced (ofText 0 blockValueSource) ∧
    ∃ selectors block span,
      .rule selectors block span ∈ (Stylesheet.parse [] blockValueSource).tree.statements ∧
      ¬ (Statement.rule selectors block span).EndsWithMatch (ofText 0 blockValueSource) := by
  refine ⟨by decide +kernel, ?_⟩
  obtain ⟨selectors, block, span, listed, spans⟩ := exists_rule_blockValue
  refine ⟨selectors, block, span, listed, ?_⟩
  have whole : ofText 0 blockValueSource =
      [⟨.dot, ".".toList, ⟨0, 1⟩⟩, ⟨.identifier, "a".toList, ⟨1, 2⟩⟩,
        ⟨.whitespace, " ".toList, ⟨2, 3⟩⟩] ++
      ([] ++ ⟨.openBrace, "\x7b".toList, ⟨3, 4⟩⟩ :: (blockValueTokens ++
        ⟨.closeBrace, "\x7d".toList, ⟨12, 13⟩⟩ ::
          [⟨.whitespace, " ".toList, ⟨13, 14⟩⟩, ⟨.closeBrace, "\x7d".toList, ⟨14, 15⟩⟩])) := by
    decide +kernel
  have isLead : (Statement.rule selectors block span).IsLead [] := rfl
  rw [endsWithMatch_iff_balanced (pairwise_before_ofText _) whole isLead rfl rfl spans]
  decide

end ComponentStyles
