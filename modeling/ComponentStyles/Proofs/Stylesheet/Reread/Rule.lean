import ComponentStyles.Proofs.Stylesheet.Reread.Statement

/-!
# Reading a written rule

The selectors of a parsed rule are read again from their written form, even if nothing else in the
stylesheet makes sense: it is enough that the lexer knew every token of it. What stands between
brackets and parentheses may open a comment that nothing ends, or a url that is none. It does the
same again where it is written, for the parentheses in it are closed and no part of a selector ends
a comment.
-/

namespace ComponentStyles

open Token

/-- A rule on its own is read again from its written form. -/
theorem Stylesheet.parseAt_onlyRule {list : SelectorList} {block : Block} {layout : Layout}
    (isList : list.Meets .standing (block.render layout 0)) (isBlock : block.WellFormed)
    (steady : ∀ item ∈ block.items, SteadyTerms item.terms) (file : File) (offset : Nat) :
    let again := parseAt file offset (list.render ++ block.render layout 0)
    again.errors = [] ∧ ∃ found body span,
      again.tree.statements = [.rule found body span] ∧ found.bare = list.bare ∧
        body.items.map Item.bare? = (block.items.filterMap Item.bare?).map some := by
  intro again
  let source := list.render ++ block.render layout 0
  let c := Cursor.start offset source (Token.ofText offset source)
  have written : block.render layout 0 = ' ' :: '\x7b' ::
      (itemsText layout 1 block.items ++ (layout.separator 0 ++ ['\x7d'])) := by
    simpa using @Cursor.render_block [] layout 0 block
  have ahead : c.lexemes = lexemes (list.render ++ block.render layout 0) := lexemes_ofText offset source
  rw [written] at isList ahead
  obtain ⟨l, ls, cut, kind⟩ := opens_render_selectorList isList
  rw [← Cursor.kind_of_ahead (ahead.trans cut)] at kind
  obtain ⟨⟨found, parsed, same⟩, goes⟩ := Cursor.rereads_selectorList isList ahead
  obtain ⟨⟨body, span, only, entries⟩, quiet⟩ :=
    Cursor.rereads_onlyRule kind (Prod.ext parsed rfl) isBlock steady goes.ahead
  exact ⟨quiet.trans goes.quiet, found, body, span, only, same, entries⟩

/-- A call of a url is read as a url if what follows has the form of one. No other name of a call
changes what it is by what follows. -/
theorem SelectorList.Meets.standing_of_valid {list : SelectorList} {rest : Text}
    (meets : list.Meets Outlook.valid.demands rest)
    (noUrl : ∀ name ∈ list.calls, Text.sameLetters name "url".toList = false) :
    list.Meets .standing rest := by
  have texts : Outlook.valid.demands.TextsAllowedBy .standing := fun _ kept => kept
  exact ⟨meets.1, meets.2.imp texts fun name called isName => ⟨isName, noUrl name called⟩⟩

/-- The text of a block without entries ends no comment. -/
theorem fits_emptyBlock (ls : List Lexeme) : Outlook.valid.Fits ls " \x7b \x7d".toList := by
  intro _
  have free : '/' ∉ " \x7b \x7d".toList := by decide
  refine ⟨by decide, ?_⟩
  have nothing : StaysOpen [] := by simp [StaysOpen]
  simpa using staysOpen_of_notMem free (by simp) nothing

/-- The selectors of a rule that is read from valid tokens, at whatever depth and among whatever
errors, are those of the one rule that they are written as in front of an empty block. -/
theorem Stylesheet.parseAt_render_selectors {file fileToo : File} {offset offsetToo : Nat} {text : Text}
    (valid : ∀ token ∈ Token.ofText offset text, token.kind ≠ .invalid) {list : SelectorList}
    (listed : list ∈ (parseAt file offset text).tree.selectorLists)
    (noUrl : ∀ name ∈ list.calls, Text.sameLetters name "url".toList = false) :
    let again := parseAt fileToo offsetToo (list.render ++ " \x7b \x7d".toList)
    again.errors = [] ∧ ∃ found body span,
      again.tree.statements = [.rule found ⟨[], body⟩ span] ∧ found.bare = list.bare := by
  intro again
  have knows : Outlook.valid.Knows (Token.lexemes text) := by
    refine ⟨isCut_lexemes text, ?_⟩
    rw [← lexemes_ofText offset text]
    exact List.forall_mem_map.mpr valid
  let block : Block := ⟨[], .detached⟩
  have meets : list.Meets .standing (block.render .compact 0) :=
    (meets_of_parseAt knows fits_emptyBlock listed).standing_of_valid noUrl
  obtain ⟨quiet, found, ⟨items, body⟩, span, only, same, nothing⟩ :=
    parseAt_onlyRule meets (List.forall_mem_nil _)
      (List.forall_mem_nil _) fileToo offsetToo
  obtain rfl : items = [] := List.map_eq_nil_iff.mp nothing
  exact ⟨quiet, found, body, span, only, same⟩

/-- Selectors with an open comment and with the call of a url between brackets, in a sheet that has
no end. -/
def unfinishedSource : Text :=
  ("@media print \x7b a.b[c url(\"d\" e)]:Not( > #f , [g/*h] )>i:lang( de ), ::after".toList ++
    "\x7b top 0 \x7d \x7d\x7d".toList)

theorem Stylesheet.parseAt_render_selectors_unfinished :
    let read := Stylesheet.parse [] unfinishedSource
    (∀ token ∈ Token.ofText 0 unfinishedSource, token.kind ≠ .invalid) ∧ read.errors ≠ [] ∧
      ∃ list ∈ read.tree.selectorLists,
        list.render = "a.b[c url(\"d\" e)]:Not(> #f, [g/*h]) > i:lang(de), ::after".toList ∧
          (∀ name ∈ list.calls, Text.sameLetters name "url".toList = false) ∧
            let again := Stylesheet.parse [] (list.render ++ " \x7b \x7d".toList)
            again.errors = [] ∧ ∃ found body span,
              again.tree.statements = [.rule found ⟨[], body⟩ span] ∧ found.bare = list.bare := by
  intro read
  have valid : ∀ token ∈ Token.ofText 0 unfinishedSource, token.kind ≠ .invalid := by decide +kernel
  have loud : read.errors ≠ [] := by decide +kernel
  obtain ⟨list, listed, written, noUrl⟩ : ∃ list ∈ read.tree.selectorLists,
      list.render = "a.b[c url(\"d\" e)]:Not(> #f, [g/*h]) > i:lang(de), ::after".toList ∧
        ∀ name ∈ list.calls, Text.sameLetters name "url".toList = false := by decide +kernel
  exact ⟨valid, loud, list, listed, written, noUrl,
    Stylesheet.parseAt_render_selectors valid listed noUrl⟩

end ComponentStyles
