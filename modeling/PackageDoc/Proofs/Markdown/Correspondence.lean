import PackageDoc.Proofs.Markdown.Footnotes
import PackageDoc.Proofs.Markdown.Shape

/-!
# Tokens and the tree that they become

Block tokens as reading finds them: each stands where its kind belongs, a table has one head and at
most one body, and leaves have nothing below them. Such tokens and the nodes that they become have
the same outline, which is the preorder of what stands there, each with its depth:

    outlineOf depth (nodesAt site t) = t.outline depth                          (outlineOf_nodesAt)
    outlineOf depth (blocks ts []).1 = outlineAll depth ts                       (outlineOf_blocks)
    the texts in an outline of tokens are their raw texts                    (filterMap_outlineAll)

Blank lines, footnotes and tokens of unknown kinds have no part in it, with all that is below them.
Neither has the body of a table, but its rows have: they stand beside its head.
-/

namespace PackageDoc

/-! ## Outlines of trees -/

/-- What an outline says of a node. -/
inductive Label where
  | plain (name : String)
  | text (name content : String)
  | picture (alt : String)
  deriving Repr, DecidableEq, Inhabited

/-- The text that a label quotes; that of a picture is not quoted but made up. -/
def Label.content? : Label → Option String
  | text _ content => some content
  | _ => none

@[simp] theorem Label.content?_plain (name : String) : (plain name).content? = none := rfl

@[simp] theorem Label.content?_text (name content : String) :
    (text name content).content? = some content := rfl

@[simp] theorem Label.content?_picture (alt : String) : (picture alt).content? = none := rfl

/-- What an outline says of a node: the name of its kind, and the text that it holds. -/
def Node.label : Node → Label
  | .leaf (.text s) _ => .text "Text" s
  | .leaf (.code s) _ => .text "Code" s
  | .leaf (.codeBlock s _) _ => .text "CodeBlock" s
  | .leaf (.htmlBlock s) _ => .text "HTMLBlock" s
  | .leaf (.htmlInline s) _ => .text "HTMLInline" s
  | .leaf (.image _ alt _) _ => .picture alt
  | n => .plain n.name

/-- The outline of trees one after another: the label of every node in the order of the text, with
its depth. -/
def outlineOf (depth : Nat) (ns : List Node) : List (Nat × Label) :=
  (Node.preorderAll depth ns).map fun p => (p.1, p.2.label)

theorem preorderAll_append (depth : Nat) (ns ms : List Node) :
    Node.preorderAll depth (ns ++ ms) = Node.preorderAll depth ns ++ Node.preorderAll depth ms := by
  induction ns with
  | nil => rfl
  | cons n ns ih => rw [List.cons_append, Node.preorderAll, ih, Node.preorderAll, List.append_assoc]

theorem outlineOf_append (depth : Nat) (ns ms : List Node) :
    outlineOf depth (ns ++ ms) = outlineOf depth ns ++ outlineOf depth ms := by
  rw [outlineOf, preorderAll_append, List.map_append]
  rfl

theorem outlineOf_singleton (depth : Nat) (n : Node) :
    outlineOf depth [n] = (depth, n.label) :: outlineOf (depth + 1) n.children := by
  rw [outlineOf, Node.preorderAll, Node.preorderFrom_cons, Node.preorderAll, List.append_nil]
  rfl

/-- The texts that an outline quotes are those of the nodes in the order of the text. -/
theorem filterMap_outlineOf (depth : Nat) (ns : List Node) :
    (outlineOf depth ns).filterMap (fun p => p.2.content?) =
      (ns.flatMap Node.nodes).filterMap fun n => n.label.content? := by
  have hnodes : ns.flatMap Node.nodes = (Node.preorderAll depth ns).map Prod.snd :=
    (Node.map_snd_preorderAll (fun n _ depth => Node.map_snd_preorderFrom n depth) depth).symm
  rw [hnodes, List.filterMap_map, outlineOf, List.filterMap_map]
  rfl

theorem outlineOf_flatMap {α : Type} (depth : Nat) (xs : List α) (f : α → List Node) :
    outlineOf depth (xs.flatMap f) = xs.flatMap fun x => outlineOf depth (f x) := by
  induction xs with
  | nil => rfl
  | cons x xs ih => rw [List.flatMap_cons, outlineOf_append, ih, List.flatMap_cons]

namespace Markdown

@[simp] theorem Token.kind_mk (kind : TokenKind) (raw : String) (tight : Option Bool)
    (a : Attributes) (ts : List Token) : (mk kind raw tight a ts).kind = kind := rfl

@[simp] theorem Token.children_mk (kind : TokenKind) (raw : String) (tight : Option Bool)
    (a : Attributes) (ts : List Token) : (mk kind raw tight a ts).children = ts := rfl

/-! ## Well-formed tokens -/

/-- The leaves among blocks. -/
def TokenKind.isBlockLeaf : TokenKind → Bool
  | .blockCode | .thematicBreak | .blockHtml | .blankLine => true
  | _ => false

/-- The leaves in running text, images apart. -/
def TokenKind.isInlineLeaf : TokenKind → Bool
  | .text | .codeSpan | .hardBreak | .softBreak | .inlineHtml | .footnoteReference => true
  | _ => false

/-- The kinds that hold running text among blocks. -/
def TokenKind.isTextBlock : TokenKind → Bool
  | .heading | .paragraph | .blockText => true
  | _ => false

/-- The kinds that hold running text in running text. -/
def TokenKind.isSpan : TokenKind → Bool
  | .strong | .emphasis | .link | .strikethrough => true
  | _ => false

/-- The kinds that hold footnotes. -/
def TokenKind.isNote : TokenKind → Bool
  | .footnotes | .footnoteItem => true
  | _ => false

/-- A token and all tokens below it stand where reading puts them. Nothing is asked of what is below
footnotes, images and tokens of unknown kinds. -/
inductive Token.Formed : Site → Token → Prop
  | blockLeaf {kind raw tight a} (h : kind.isBlockLeaf = true) :
      Formed .block (.mk kind raw tight a [])
  | textBlock {kind raw tight a ts} (hk : kind.isTextBlock = true)
      (h : ∀ t ∈ ts, Formed .inline t) : Formed .block (.mk kind raw tight a ts)
  | blockQuote {raw tight a ts} (h : ∀ t ∈ ts, Formed .block t) :
      Formed .block (.mk .blockQuote raw tight a ts)
  | list {raw tight a ts} (h : ∀ t ∈ ts, Formed .item t) :
      Formed .block (.mk .list raw tight a ts)
  | listItem {raw tight a ts} (h : ∀ t ∈ ts, Formed .block t) :
      Formed .item (.mk .listItem raw tight a ts)
  | headOnly {raw tight a head} (h : Formed (.row true) head) :
      Formed .block (.mk .table raw tight a [head])
  | table {raw tight a head raw' tight' a' rows} (hhead : Formed (.row true) head)
      (hrows : ∀ row ∈ rows, Formed (.row false) row) :
      Formed .block (.mk .table raw tight a [head, .mk .tableBody raw' tight' a' rows])
  | tableHead {raw tight a ts} (h : ∀ t ∈ ts, Formed .cell t) :
      Formed (.row true) (.mk .tableHead raw tight a ts)
  | tableRow {raw tight a ts} (h : ∀ t ∈ ts, Formed .cell t) :
      Formed (.row false) (.mk .tableRow raw tight a ts)
  | tableCell {raw tight a ts} (h : ∀ t ∈ ts, Formed .inline t) :
      Formed .cell (.mk .tableCell raw tight a ts)
  | note {kind raw tight a ts} (h : kind.isNote = true) : Formed .block (.mk kind raw tight a ts)
  | unknownBlock {name raw tight a ts} : Formed .block (.mk (.other name) raw tight a ts)
  | inlineLeaf {kind raw tight a} (h : kind.isInlineLeaf = true) :
      Formed .inline (.mk kind raw tight a [])
  | image {raw tight a ts} : Formed .inline (.mk .image raw tight a ts)
  | span {kind raw tight a ts} (hk : kind.isSpan = true) (h : ∀ t ∈ ts, Formed .inline t) :
      Formed .inline (.mk kind raw tight a ts)
  | unknownInline {name raw tight a ts} : Formed .inline (.mk (.other name) raw tight a ts)

/-! ## Outlines of tokens -/

/-- What an outline says of a token with its raw text and the tokens below it; nothing if its kind
has no node of its own. -/
def TokenKind.label? (raw : String) (children : List Token) : TokenKind → Option Label
  | .heading => some (.plain "Heading")
  | .paragraph => some (.plain "Paragraph")
  | .blockText => some (.plain "Paragraph")
  | .blockCode => some (.text "CodeBlock" raw)
  | .blockQuote => some (.plain "BlockQuote")
  | .list => some (.plain "List")
  | .listItem => some (.plain "ListItem")
  | .table => some (.plain "Table")
  | .tableHead => some (.plain "TableRow")
  | .tableBody => none
  | .tableRow => some (.plain "TableRow")
  | .tableCell => some (.plain "TableCell")
  | .thematicBreak => some (.plain "ThematicBreak")
  | .blockHtml => some (.text "HTMLBlock" raw)
  | .footnotes => none
  | .footnoteItem => none
  | .blankLine => none
  | .text => some (.text "Text" raw)
  | .strong => some (.plain "Strong")
  | .emphasis => some (.plain "Emphasis")
  | .codeSpan => some (.text "Code" raw)
  | .link => some (.plain "Link")
  | .image => some (.picture (altText children))
  | .hardBreak => some (.plain "LineBreak")
  | .softBreak => some (.plain "LineBreak")
  | .strikethrough => some (.plain "Strikethrough")
  | .inlineHtml => some (.text "HTMLInline" raw)
  | .footnoteReference => some (.plain "FootnoteReference")
  | .other _ => none

/-- The kinds below which nothing has a part in an outline. -/
def TokenKind.isClosed : TokenKind → Bool
  | .footnotes | .footnoteItem | .image | .blankLine | .other _ => true
  | _ => false

mutual

/-- The outline of a token: its label with its depth, if it has one, and those of the tokens below
it. What is below a token without a label stands in its place. -/
def Token.outline (depth : Nat) : Token → List (Nat × Label)
  | .mk kind raw _ _ children =>
    match kind.label? raw children with
    | some label => (depth, label) :: if kind.isClosed then [] else outlineAll (depth + 1) children
    | none => if kind.isClosed then [] else outlineAll depth children
termination_by structural t => t

/-- The outline of tokens one after another. -/
def outlineAll (depth : Nat) : List Token → List (Nat × Label)
  | [] => []
  | t :: ts => t.outline depth ++ outlineAll depth ts
termination_by structural ts => ts

end

theorem outlineAll_eq_flatMap (depth : Nat) (ts : List Token) :
    outlineAll depth ts = ts.flatMap (Token.outline depth) := by
  induction ts with
  | nil => rfl
  | cons t ts ih => rw [outlineAll, ih, List.flatMap_cons]

/-! ## The same outline -/

/-- The nodes that a token becomes where it stands. -/
def nodesAt : Site → Token → List Node
  | .block, t => (block t []).1.toList
  | .item, t => [.container .listItem (blocks t.children []).1 {}]
  | .row isHeader, t => [.container (.tableRow isHeader) (cells t.children) {}]
  | .cell, t => cells [t]
  | .inline, t => (inline t).toList

theorem inlines_eq_flatMap (ts : List Token) : inlines ts = ts.flatMap (nodesAt .inline) := by
  induction ts with
  | nil => rfl
  | cons t ts ih =>
    rw [inlines, List.flatMap_cons, ← ih, nodesAt]
    cases inline t <;> rfl

theorem cells_eq_flatMap (ts : List Token) : cells ts = ts.flatMap (nodesAt .cell) := by
  unfold nodesAt cells
  induction ts with
  | nil => rfl
  | cons t ts ih =>
    rw [List.flatMap_cons, ← ih, ← List.filterMap_append]
    rfl

theorem items_eq_flatMap (ts : List Token) : (items ts []).1 = ts.flatMap (nodesAt .item) := by
  rw [items_eq_map, List.map_eq_flatMap]
  rfl

/-- Tokens one after another have the outline of their nodes if each of them has. -/
theorem outlineOf_flatMap_nodesAt {site : Site} {ts : List Token}
    (h : ∀ t ∈ ts, ∀ depth, outlineOf depth (nodesAt site t) = t.outline depth) (depth : Nat) :
    outlineOf depth (ts.flatMap (nodesAt site)) = outlineAll depth ts := by
  rw [outlineOf_flatMap, outlineAll_eq_flatMap]
  exact List.flatMap_congr fun t ht => h t ht depth

/-- A container has its label and the outline of the tokens that its children come from. -/
theorem outlineOf_container {site : Site} {ts : List Token} {ns : List Node}
    (hns : ns = ts.flatMap (nodesAt site))
    (h : ∀ t ∈ ts, ∀ depth, outlineOf depth (nodesAt site t) = t.outline depth)
    (kind : Container) (info : Info) (depth : Nat) :
    outlineOf depth [.container kind ns info] =
      (depth, .plain kind.name) :: outlineAll (depth + 1) ts := by
  rw [outlineOf_singleton, Node.children_container, hns, outlineOf_flatMap_nodesAt h]
  rfl

theorem outlineOf_codeBlock (depth : Nat) (raw : String) (a : Attributes) :
    outlineOf depth [codeBlock raw a] = [(depth, .text "CodeBlock" raw)] := by
  unfold codeBlock
  dsimp only
  split <;> rfl

/-- The node of a table with one head has the outlines of the head and of the rows. -/
theorem outlineOf_table {head : Token} {sections rows : List Token}
    (hhead : tableHead sections = some head)
    (hrows : tableBody sections = rows.flatMap (nodesAt (.row false)))
    (ihhead : ∀ depth, outlineOf depth (nodesAt (.row true) head) = head.outline depth)
    (ihrows : ∀ row ∈ rows, ∀ depth,
      outlineOf depth (nodesAt (.row false) row) = row.outline depth) (depth : Nat) :
    outlineOf depth [table sections] =
      (depth, .plain "Table") :: (head.outline (depth + 1) ++ outlineAll (depth + 1) rows) := by
  have hchildren : (table sections).children =
      nodesAt (.row true) head ++ rows.flatMap (nodesAt (.row false)) := by
    rw [table, hhead, ← hrows]
    rfl
  have hlabel : (table sections).label = .plain "Table" := by
    rw [table, hhead]
    rfl
  rw [outlineOf_singleton, hchildren, hlabel, outlineOf_append, ihhead,
    outlineOf_flatMap_nodesAt ihrows]

theorem Token.Formed.kind_of_head {t : Token} (h : t.Formed (.row true)) : t.kind = .tableHead := by
  cases h
  rfl

/-- A token has the outline of what it becomes where it stands. -/
theorem outlineOf_nodesAt {site : Site} {t : Token} (h : t.Formed site) (depth : Nat) :
    outlineOf depth (nodesAt site t) = t.outline depth := by
  induction h generalizing depth with
  | @blockLeaf kind raw tight a h =>
    cases kind with
    | blockCode => exact outlineOf_codeBlock depth raw a
    | thematicBreak => rfl
    | blockHtml => rfl
    | blankLine => rfl
    | _ => simp [TokenKind.isBlockLeaf] at h
  | @textBlock kind raw tight a ts hk h ih =>
    cases kind with
    | heading => exact outlineOf_container (inlines_eq_flatMap ts) ih _ _ depth
    | paragraph => exact outlineOf_container (inlines_eq_flatMap ts) ih _ _ depth
    | blockText => exact outlineOf_container (inlines_eq_flatMap ts) ih _ _ depth
    | _ => simp [TokenKind.isTextBlock] at hk
  | @blockQuote raw tight a ts h ih => exact outlineOf_container (blocks_eq_flatMap ts) ih _ _ depth
  | @list raw tight a ts h ih => exact outlineOf_container (items_eq_flatMap ts) ih _ _ depth
  | @listItem raw tight a ts h ih => exact outlineOf_container (blocks_eq_flatMap ts) ih _ _ depth
  | @headOnly raw tight a head hhead ih =>
    have hk := hhead.kind_of_head
    have hrows : tableBody [head] = [].flatMap (nodesAt (.row false)) := by simp [tableBody, hk]
    refine outlineOf_table ?_ hrows ih (by simp) depth
    simp [tableHead, hk]
  | @table raw tight a head raw' tight' a' rows hhead hrows ihhead ihrows =>
    have hk := hhead.kind_of_head
    have hsections : outlineAll (depth + 1) [head, .mk .tableBody raw' tight' a' rows] =
        head.outline (depth + 1) ++ outlineAll (depth + 1) rows :=
      congrArg _ (List.append_nil _)
    have hrows : tableBody [head, .mk .tableBody raw' tight' a' rows] =
        rows.map fun row => .container (.tableRow false) (cells row.children) {} := by
      simp [tableBody, hk]
    refine (outlineOf_table ?_ ?_ ihhead ihrows depth).trans (congrArg _ hsections.symm)
    · simp [tableHead, hk]
    · rw [hrows, List.map_eq_flatMap]
      rfl
  | @tableHead raw tight a ts h ih => exact outlineOf_container (cells_eq_flatMap ts) ih _ _ depth
  | @tableRow raw tight a ts h ih => exact outlineOf_container (cells_eq_flatMap ts) ih _ _ depth
  | @tableCell raw tight a ts h ih => exact outlineOf_container (inlines_eq_flatMap ts) ih _ _ depth
  | @note kind raw tight a ts h =>
    cases kind with
    | footnotes => rfl
    | footnoteItem => rfl
    | _ => simp [TokenKind.isNote] at h
  | unknownBlock => rfl
  | @inlineLeaf kind raw tight a h =>
    cases kind with
    | text => rfl
    | codeSpan => rfl
    | hardBreak => rfl
    | softBreak => rfl
    | inlineHtml => rfl
    | footnoteReference => rfl
    | _ => simp [TokenKind.isInlineLeaf] at h
  | image => rfl
  | @span kind raw tight a ts hk h ih =>
    cases kind with
    | strong => exact outlineOf_container (inlines_eq_flatMap ts) ih _ _ depth
    | emphasis => exact outlineOf_container (inlines_eq_flatMap ts) ih _ _ depth
    | link => exact outlineOf_container (inlines_eq_flatMap ts) ih _ _ depth
    | strikethrough => exact outlineOf_container (inlines_eq_flatMap ts) ih _ _ depth
    | _ => simp [TokenKind.isSpan] at hk
  | unknownInline => rfl

/-! ## Texts -/

/-- The kinds whose raw text is quoted in the tree. -/
def TokenKind.isQuoted : TokenKind → Bool
  | .text | .codeSpan | .blockCode | .blockHtml | .inlineHtml => true
  | _ => false

mutual

/-- The raw texts of a token and of the tokens below it, as far as its kind is open. -/
def Token.quoted : Token → List String
  | .mk kind raw _ _ children =>
    (if kind.isQuoted then [raw] else []) ++ if kind.isClosed then [] else quotedAll children
termination_by structural t => t

/-- The raw texts of tokens one after another. -/
def quotedAll : List Token → List String
  | [] => []
  | t :: ts => t.quoted ++ quotedAll ts
termination_by structural ts => ts

end

mutual

/-- The texts in the outline of a token are its raw texts. -/
theorem filterMap_outline : ∀ (t : Token) (depth : Nat),
    (t.outline depth).filterMap (fun p => p.2.content?) = t.quoted
  | .mk kind raw tight a children, depth => by
    have hbelow := filterMap_outlineAll children
    cases kind <;>
      simp [Token.outline, Token.quoted, TokenKind.label?, TokenKind.isClosed, TokenKind.isQuoted,
        List.filterMap_cons, hbelow]
termination_by structural t => t

theorem filterMap_outlineAll : ∀ (ts : List Token) (depth : Nat),
    (outlineAll depth ts).filterMap (fun p => p.2.content?) = quotedAll ts
  | [], _ => rfl
  | t :: ts, depth => by
    rw [outlineAll, List.filterMap_append, filterMap_outline t, filterMap_outlineAll ts, quotedAll]
termination_by structural ts => ts

end

/-! ## The whole conversion -/

theorem outlineOf_blocks {ts : List Token} (h : ∀ t ∈ ts, t.Formed .block) (depth : Nat) :
    outlineOf depth (blocks ts []).1 = outlineAll depth ts := by
  rw [blocks_eq_flatMap]
  exact outlineOf_flatMap_nodesAt (fun t ht => outlineOf_nodesAt (h t ht)) depth

/-- **Conversion keeps content and order.** Tokens one after another become the nodes of either
part, the footnotes of the second one added to those of the first. Of well-formed tokens, each that
has a label becomes one node with that label, as deep as it stands and in the same order, and
nothing else does; so the texts in the tree are the raw texts of the tokens, in their order. -/
theorem blocks_keep_outline (ts us : List Token) (h : ∀ t ∈ ts, t.Formed .block) :
    blocks (ts ++ us) [] =
        ((blocks ts []).1 ++ (blocks us []).1,
          Footnotes.addAll (blocks ts []).2 (blocks us []).2) ∧
      (∀ depth, outlineOf depth (blocks ts []).1 = outlineAll depth ts) ∧
      ((blocks ts []).1.flatMap Node.nodes).filterMap (fun n => n.label.content?) =
        quotedAll ts := by
  refine ⟨blocks_append_addAll ts us, outlineOf_blocks h, ?_⟩
  rw [← filterMap_outlineOf 0, outlineOf_blocks h, filterMap_outlineAll]

/-- A heading with an image in emphasis, a quoted list, a table, code, a footnote and a token of no
known kind. -/
def mixedTokens : List Token :=
  [.branch .heading [.leaf .text "a", .branch .emphasis [.branch .image [.leaf .text "x",
      .branch .strong [.leaf .text "y"], .leaf .text "z"]]],
    .branch .blankLine [],
    .branch .blockQuote [.branch .list [.branch .listItem
      [.branch .blockText [.leaf .codeSpan "b"], .leaf .blockHtml "<c>"], .branch .listItem []]],
    .branch .footnotes [.branch .footnoteItem [.branch .paragraph [.leaf .text "n"]]],
    .branch .table [.branch .tableHead [.branch .tableCell [.leaf .text "d"]],
      .branch .tableBody [.branch .tableRow [.branch .tableCell [.leaf .inlineHtml "<e>"]]]],
    .branch (.other "math") [.leaf .text "m"],
    .leaf .blockCode "f\n"]

theorem formed_mixedTokens : ∀ t ∈ mixedTokens, t.Formed .block := by
  have one {site : Site} {t : Token} (h : t.Formed site) : ∀ u ∈ [t], u.Formed site :=
    List.forall_mem_singleton.2 h
  have two {site : Site} {t u : Token} (ht : t.Formed site) (hu : u.Formed site) :
      ∀ v ∈ [t, u], v.Formed site :=
    List.forall_mem_cons.2 ⟨ht, one hu⟩
  have cell {kind : TokenKind} (hk : kind.isInlineLeaf = true) (raw : String) :
      ∀ t ∈ [Token.branch .tableCell [.leaf kind raw]], t.Formed .cell :=
    one (.tableCell (one (.inlineLeaf hk)))
  have list : (Token.branch .list [.branch .listItem [.branch .blockText [.leaf .codeSpan "b"],
      .leaf .blockHtml "<c>"], .branch .listItem []]).Formed .block :=
    .list (two (.listItem (two (.textBlock rfl (one (.inlineLeaf rfl))) (.blockLeaf rfl)))
      (.listItem (List.forall_mem_nil _)))
  simp only [mixedTokens, List.forall_mem_cons]
  exact ⟨.textBlock rfl (two (.inlineLeaf rfl) (.span rfl (one .image))), .blockLeaf rfl,
    .blockQuote (one list), .note rfl,
    .table (.tableHead (cell rfl "d")) (one (.tableRow (cell rfl "<e>"))), .unknownBlock,
    .blockLeaf rfl, List.forall_mem_nil _⟩

theorem blocks_keep_outline_mixedTokens :
    (∀ t ∈ mixedTokens, t.Formed .block) ∧
      ((blocks mixedTokens []).1.flatMap Node.nodes).filterMap (fun n => n.label.content?) =
        ["a", "b", "<c>", "d", "<e>", "f\n"] ∧
      outlineOf 0 (blocks mixedTokens []).1 =
        [(0, .plain "Heading"), (1, .text "Text" "a"), (1, .plain "Emphasis"), (2, .picture "xz"),
          (0, .plain "BlockQuote"), (1, .plain "List"), (2, .plain "ListItem"),
          (3, .plain "Paragraph"), (4, .text "Code" "b"), (3, .text "HTMLBlock" "<c>"),
          (2, .plain "ListItem"), (0, .plain "Table"), (1, .plain "TableRow"),
          (2, .plain "TableCell"), (3, .text "Text" "d"), (1, .plain "TableRow"),
          (2, .plain "TableCell"), (3, .text "HTMLInline" "<e>"),
          (0, .text "CodeBlock" "f\n")] := by
  obtain ⟨-, houtline, hquoted⟩ := blocks_keep_outline mixedTokens [] formed_mixedTokens
  exact ⟨formed_mixedTokens, hquoted.trans (by decide), (houtline 0).trans (by decide)⟩

end Markdown

end PackageDoc
