import PackageDoc.Markdown.Tree
import PackageDoc.Proofs.Comment.Unsupported

/-!
# The shape of what tokens become

Tokens may lack any field, stand anywhere and be of unknown kinds. Whatever they are, each node that
they become stands where it belongs: blocks among blocks, items in lists, cells in rows, and running
text in headings, paragraphs, cells and emphasis. A node without a rule in a comment comes only from
a token for struck text.

    n ∈ (blocks ts fs).1 → n.Shaped struck .block, if struck text is admitted or there is none
                                                                              (shaped_of_mem_blocks)
    n.Shaped false site → n.unsupported? = none                (Node.Shaped.unsupported?_eq_none)
    a heading's level is one that can be built, that of its token if there is one and it is in range
                                                                              (ofInt?_chosenLevel)
-/

namespace PackageDoc

/-! ## Shape -/

/-- Where a node can stand in a tree. The row at the head of a table is told apart. -/
inductive Site where
  | block
  | item
  | row (isHeader : Bool)
  | cell
  | inline
  deriving Repr, DecidableEq, Inhabited

/-- The alignment that a table cell has of its own. -/
def Node.alignment : Node → Option Alignment
  | .container (.tableCell alignment) _ _ => alignment
  | _ => none

/-- A node and everything below it stand where they belong, with struck text or without. A table
with a head row has one alignment for each of its cells, and it is that of the cell. -/
inductive Node.Shaped (struck : Bool) : Site → Node → Prop
  | blockLeaf {kind info} (h : kind.isBlock = true) : Shaped struck .block (.leaf kind info)
  | heading {level ns info} (h : ∀ n ∈ ns, Shaped struck .inline n) :
      Shaped struck .block (.container (.heading level) ns info)
  | paragraph {ns info} (h : ∀ n ∈ ns, Shaped struck .inline n) :
      Shaped struck .block (.container .paragraph ns info)
  | blockQuote {ns info} (h : ∀ n ∈ ns, Shaped struck .block n) :
      Shaped struck .block (.container .blockQuote ns info)
  | list {ordered start tight ns info} (h : ∀ n ∈ ns, Shaped struck .item n) :
      Shaped struck .block (.container (.list ordered start tight) ns info)
  | listItem {ns info} (h : ∀ n ∈ ns, Shaped struck .block n) :
      Shaped struck .item (.container .listItem ns info)
  | headless {body info} (h : ∀ row ∈ body, Shaped struck (.row false) row) :
      Shaped struck .block (.table none body [] info)
  | table {head body alignments info} (hhead : Shaped struck (.row true) head)
      (hbody : ∀ row ∈ body, Shaped struck (.row false) row)
      (halign : alignments = head.children.map Node.alignment) :
      Shaped struck .block (.table (some head) body alignments info)
  | tableRow {isHeader ns info} (h : ∀ n ∈ ns, Shaped struck .cell n) :
      Shaped struck (.row isHeader) (.container (.tableRow isHeader) ns info)
  | tableCell {alignment ns info} (h : ∀ n ∈ ns, Shaped struck .inline n) :
      Shaped struck .cell (.container (.tableCell alignment) ns info)
  | inlineLeaf {kind info} (h : kind.isInline = true) : Shaped struck .inline (.leaf kind info)
  | emphasis {ns info} (h : ∀ n ∈ ns, Shaped struck .inline n) :
      Shaped struck .inline (.container .emphasis ns info)
  | strong {ns info} (h : ∀ n ∈ ns, Shaped struck .inline n) :
      Shaped struck .inline (.container .strong ns info)
  | link {url title ns info} (h : ∀ n ∈ ns, Shaped struck .inline n) :
      Shaped struck .inline (.container (.link url title) ns info)
  | strikethrough {ns info} (hs : struck = true) (h : ∀ n ∈ ns, Shaped struck .inline n) :
      Shaped struck .inline (.container .strikethrough ns info)

theorem Leaf.unsupported?_eq_none {kind : Leaf} (h : kind.isBlock = true ∨ kind.isInline = true)
    (info : Info) : (Node.leaf kind info).unsupported? = none := by
  cases kind with
  | custom => simp [Leaf.isBlock, Leaf.isInline] at h
  | _ => rfl

/-- A tree of this shape without struck text has no node without a rule. -/
theorem Node.Shaped.unsupported?_eq_none {site : Site} {n : Node} (h : n.Shaped false site) :
    n.unsupported? = none := by
  induction h with
  | blockLeaf h => exact Leaf.unsupported?_eq_none (.inl h) _
  | inlineLeaf h => exact Leaf.unsupported?_eq_none (.inr h) _
  | heading _ ih => exact unsupportedAmong?_eq_none.2 ih
  | paragraph _ ih => exact unsupportedAmong?_eq_none.2 ih
  | list _ ih => exact unsupportedAmong?_eq_none.2 ih
  | listItem _ ih => exact unsupportedAmong?_eq_none.2 ih
  | emphasis _ ih => exact unsupportedAmong?_eq_none.2 ih
  | strong _ ih => exact unsupportedAmong?_eq_none.2 ih
  | link _ ih => exact unsupportedAmong?_eq_none.2 ih
  | strikethrough hs => contradiction
  | blockQuote => rfl
  | headless => rfl
  | table => rfl
  | tableRow => rfl
  | tableCell => rfl

namespace Markdown

/-! ## Kinds -/

mutual

/-- The kinds of a token and of all tokens below it. -/
def Token.kinds : Token → List TokenKind
  | .mk kind _ _ _ children => kind :: kindsOf children
termination_by structural t => t

/-- The kinds of some tokens and of all tokens below them. -/
def kindsOf : List Token → List TokenKind
  | [] => []
  | t :: ts => t.kinds ++ kindsOf ts
termination_by structural ts => ts

end

/-- Struck text is admitted among some kinds, or is not there. -/
def Admits (struck : Bool) (ks : List TokenKind) : Prop :=
  .strikethrough ∈ ks → struck = true

variable {struck : Bool} {kind : TokenKind} {raw : String} {tight : Option Bool} {a : Attributes}
  {ts : List Token} {t : Token}

theorem admits_true (ks : List TokenKind) : Admits true ks :=
  fun _ => rfl

theorem admits_false {ks : List TokenKind} : Admits false ks ↔ .strikethrough ∉ ks := by
  simp [Admits]

theorem admits_kinds : Admits struck (Token.mk kind raw tight a ts).kinds ↔
    (kind = .strikethrough → struck = true) ∧ Admits struck (kindsOf ts) := by
  simp only [Admits, Token.kinds, List.mem_cons, or_imp, eq_comm]

theorem admits_kindsOf_cons :
    Admits struck (kindsOf (t :: ts)) ↔ Admits struck t.kinds ∧ Admits struck (kindsOf ts) := by
  simp only [Admits, kindsOf, List.mem_append, or_imp]

theorem Admits.of_mem (h : Admits struck (kindsOf ts)) (ht : t ∈ ts) : Admits struck t.kinds := by
  induction ts with
  | nil => simp at ht
  | cons u ts ih =>
    obtain ⟨hu, hts⟩ := admits_kindsOf_cons.1 h
    rcases List.mem_cons.1 ht with rfl | ht
    · exact hu
    · exact ih hts ht

theorem Admits.below (h : Admits struck t.kinds) : Admits struck (kindsOf t.children) := by
  cases t with
  | mk => exact (admits_kinds.1 h).2

/-! ## Running text -/

mutual

/-- An inline token becomes running text, if anything. -/
theorem shaped_of_inline : ∀ (t : Token) {n : Node}, Admits struck t.kinds → inline t = some n →
    n.Shaped struck .inline
  | .mk kind raw tight a children, n, ht, h => by
    obtain ⟨hkind, hchildren⟩ := admits_kinds.1 ht
    have hns : ∀ n ∈ inlines children, n.Shaped struck .inline :=
      shaped_of_mem_inlines children hchildren
    cases kind with
    | text => exact Option.some.inj h ▸ .inlineLeaf rfl
    | strong => exact Option.some.inj h ▸ .strong hns
    | emphasis => exact Option.some.inj h ▸ .emphasis hns
    | codeSpan => exact Option.some.inj h ▸ .inlineLeaf rfl
    | link => exact Option.some.inj h ▸ .link hns
    | image => exact Option.some.inj h ▸ .inlineLeaf rfl
    | hardBreak => exact Option.some.inj h ▸ .inlineLeaf rfl
    | softBreak => exact Option.some.inj h ▸ .inlineLeaf rfl
    | strikethrough => exact Option.some.inj h ▸ .strikethrough (hkind rfl) hns
    | inlineHtml => exact Option.some.inj h ▸ .inlineLeaf rfl
    | footnoteReference => exact Option.some.inj h ▸ .inlineLeaf rfl
    | _ => simp [inline] at h
termination_by structural t => t

theorem shaped_of_mem_inlines : ∀ (ts : List Token), Admits struck (kindsOf ts) →
    ∀ n ∈ inlines ts, n.Shaped struck .inline
  | [], _, n, h => by simp [inlines] at h
  | t :: ts, hts, n, h => by
    obtain ⟨ht, hts⟩ := admits_kindsOf_cons.1 hts
    rw [inlines] at h
    cases hn : inline t with
    | none =>
      rw [hn] at h
      exact shaped_of_mem_inlines ts hts n h
    | some m =>
      rw [hn, List.mem_cons] at h
      rcases h with rfl | h
      · exact shaped_of_inline t ht hn
      · exact shaped_of_mem_inlines ts hts n h
termination_by structural ts => ts

end

/-! ## Tables -/

theorem shaped_of_mem_cells (hts : Admits struck (kindsOf ts)) :
    ∀ n ∈ cells ts, n.Shaped struck .cell := by
  intro n hn
  obtain ⟨t, ht, hcell⟩ := List.mem_filterMap.1 hn
  rw [Option.ite_none_right_eq_some] at hcell
  obtain ⟨-, hcell⟩ := hcell
  rw [← Option.some.inj hcell]
  exact .tableCell (shaped_of_mem_inlines _ (hts.of_mem ht).below)

/-- The cells of a row have the alignments that are kept for its columns. -/
theorem map_alignment_cells (ts : List Token) :
    (cells ts).map Node.alignment = cellAlignments ts := by
  unfold cells cellAlignments
  induction ts with
  | nil => rfl
  | cons t ts ih =>
    by_cases h : t.kind = .tableCell
    · simp [h, Node.alignment, ih]
    · simp [h, ih]

theorem shaped_row (hts : Admits struck (kindsOf ts)) (isHeader : Bool) :
    (Node.container (.tableRow isHeader) (cells ts) {}).Shaped struck (.row isHeader) :=
  .tableRow (shaped_of_mem_cells hts)

theorem shaped_of_mem_tableBody (hts : Admits struck (kindsOf ts)) :
    ∀ row ∈ tableBody ts, row.Shaped struck (.row false) := by
  intro row hrow
  obtain ⟨t, ht, hrow⟩ := List.mem_flatMap.1 hrow
  obtain ⟨u, hu, rfl⟩ := List.mem_map.1 hrow
  have hsection : Admits struck t.kinds := hts.of_mem (List.mem_filter.1 ht).1
  exact shaped_row (hsection.below.of_mem hu).below false

theorem shaped_table (hts : Admits struck (kindsOf ts)) : (table ts).Shaped struck .block := by
  unfold table
  cases hhead : tableHead ts with
  | none => exact .headless (shaped_of_mem_tableBody hts)
  | some t =>
    have ht : t ∈ ts := List.mem_reverse.1 (List.mem_of_find?_eq_some hhead)
    refine .table (shaped_row (hts.of_mem ht).below true) (shaped_of_mem_tableBody hts) ?_
    exact (map_alignment_cells t.children).symm

/-! ## Blocks -/

theorem shaped_codeBlock (raw : String) (a : Attributes) :
    (codeBlock raw a).Shaped struck .block := by
  unfold codeBlock
  dsimp only
  split
  · exact .blockLeaf rfl
  · exact .blockLeaf rfl

mutual

/-- A block token becomes a block, if anything. -/
theorem shaped_of_block : ∀ (t : Token) (fs : Footnotes) {n : Node}, Admits struck t.kinds →
    (block t fs).1 = some n → n.Shaped struck .block
  | .mk kind raw tight a children, fs, n, ht, h => by
    have hchildren := (admits_kinds.1 ht).2
    have hns : ∀ n ∈ inlines children, n.Shaped struck .inline :=
      shaped_of_mem_inlines children hchildren
    cases kind with
    | heading => exact Option.some.inj h ▸ .heading hns
    | paragraph => exact Option.some.inj h ▸ .paragraph hns
    | blockText => exact Option.some.inj h ▸ .paragraph hns
    | blockCode => exact Option.some.inj h ▸ shaped_codeBlock raw a
    | blockQuote =>
      exact Option.some.inj h ▸ .blockQuote (shaped_of_mem_blocks children fs hchildren)
    | list => exact Option.some.inj h ▸ .list (shaped_of_mem_items children fs hchildren)
    | table => exact Option.some.inj h ▸ shaped_table hchildren
    | thematicBreak => exact Option.some.inj h ▸ .blockLeaf rfl
    | blockHtml => exact Option.some.inj h ▸ .blockLeaf rfl
    | _ => simp [block] at h
termination_by structural t => t

/-- The nodes for block tokens are blocks, whatever the footnotes so far. -/
theorem shaped_of_mem_blocks : ∀ (ts : List Token) (fs : Footnotes), Admits struck (kindsOf ts) →
    ∀ n ∈ (blocks ts fs).1, n.Shaped struck .block
  | [], fs, _, n, h => by simp [blocks] at h
  | t :: ts, fs, hts, n, h => by
    obtain ⟨ht, hts⟩ := admits_kindsOf_cons.1 hts
    rw [blocks, List.mem_append, Option.mem_toList] at h
    rcases h with h | h
    · exact shaped_of_block t fs ht h
    · exact shaped_of_mem_blocks ts _ hts n h
termination_by structural ts => ts

theorem shaped_of_mem_items : ∀ (ts : List Token) (fs : Footnotes), Admits struck (kindsOf ts) →
    ∀ n ∈ (items ts fs).1, n.Shaped struck .item
  | [], fs, _, n, h => by simp [items] at h
  | .mk kind raw tight a children :: ts, fs, hts, n, h => by
    obtain ⟨ht, hts⟩ := admits_kindsOf_cons.1 hts
    rw [items, List.mem_cons] at h
    rcases h with rfl | h
    · exact .listItem (shaped_of_mem_blocks children fs (admits_kinds.1 ht).2)
    · exact shaped_of_mem_items ts _ hts n h
termination_by structural ts => ts

end

/-! ## Headings -/

/-- The level that a heading is built with: that of its token if it is in range, or else the
first. -/
def chosenLevel (a : Attributes) : Int :=
  match a.level with
  | some i => if 1 ≤ i ∧ i ≤ 6 then i else 1
  | none => 1

/-- The level that is chosen can be built. -/
theorem ofInt?_chosenLevel (a : Attributes) :
    HeadingLevel.ofInt? (chosenLevel a) = some (headingLevel a) := by
  unfold chosenLevel headingLevel
  cases a.level with
  | none => rfl
  | some i =>
    show HeadingLevel.ofInt? (if 1 ≤ i ∧ i ≤ 6 then i else 1) =
      some ((HeadingLevel.ofInt? i).getD default)
    by_cases hi : 1 ≤ i ∧ i ≤ 6
    · have hrange : 1 ≤ i.toNat ∧ i.toNat ≤ 6 := by omega
      rw [if_pos hi, HeadingLevel.ofInt?, dif_pos hrange]
      rfl
    · have hrange : ¬ (1 ≤ i.toNat ∧ i.toNat ≤ 6) := by omega
      have hnone : HeadingLevel.ofInt? i = none := by rw [HeadingLevel.ofInt?, dif_neg hrange]
      rw [if_neg hi, hnone]
      rfl

/-! ## Documents -/

/-- **Reading and rendering fit together.** Whatever block tokens there are, their nodes stand where
they belong, and every heading has a level that could be built and lies between one and six. If
there is no struck text among the tokens, the document with these nodes is rendered. -/
theorem blocks_shaped (ts : List Token) (fs : Footnotes) :
    (∀ n ∈ (blocks ts fs).1, n.Shaped true .block) ∧
    (∀ a, HeadingLevel.ofInt? (chosenLevel a) = some (headingLevel a)) ∧
    (∀ n ∈ (blocks ts fs).1, ∀ level ns info,
      Node.container (.heading level) ns info ∈ n.nodes → 1 ≤ level.val ∧ level.val ≤ 6) ∧
    (.strikethrough ∉ kindsOf ts → ∀ o : Comment.Options,
      ∃ s, Comment.render o (Node.document (blocks ts fs).1) = .ok s) := by
  refine ⟨shaped_of_mem_blocks ts fs (admits_true _), ofInt?_chosenLevel,
    fun n _ level ns info _ => ⟨level.one_le, level.le_six⟩, fun hfree o => ?_⟩
  have hshaped : ∀ n ∈ (blocks ts fs).1, n.Shaped false .block :=
    shaped_of_mem_blocks ts fs (admits_false.2 hfree)
  have hdoc : (Node.document (blocks ts fs).1).unsupported? = none :=
    unsupportedAmong?_eq_none.2 fun n hn => (hshaped n hn).unsupported?_eq_none
  exact ⟨_, Comment.render_eq_ok_iff.2 ⟨(Comment.failure_visit o _ _).trans hdoc, rfl⟩⟩

/-- Tokens out of place and without fields: a heading of level nine, a list of bare cells, a table
whose head has cells only, a token of no known kind and an image in a link in a link. -/
def looseTokens : List Token :=
  [.mk .heading "" none { level := some 9 } [.leaf .text "T", .branch .paragraph []],
    .branch .list [.branch .tableCell [.branch .heading []], .leaf .text "x"],
    .branch .table [.branch .tableHead
      [.mk .tableCell "" none { align := some .left } [.leaf .text "c"]]],
    .leaf (.other "math") "x",
    .branch .paragraph [.branch .link [.branch .link [.branch .image []]]]]

theorem blocks_shaped_looseTokens :
    .strikethrough ∉ kindsOf looseTokens ∧
    (∀ n ∈ (blocks looseTokens []).1, n.Shaped true .block) ∧
    ∃ s, Comment.render {} (Node.document (blocks looseTokens []).1) = .ok s := by
  have hfree : .strikethrough ∉ kindsOf looseTokens := by
    decide
  obtain ⟨hshaped, -, -, hrender⟩ := blocks_shaped looseTokens []
  exact ⟨hfree, hshaped, hrender hfree {}⟩

end Markdown

end PackageDoc
