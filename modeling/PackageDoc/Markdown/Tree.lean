import PackageDoc.Markdown.Token
import PackageDoc.Text.Blank

/-!
# From tokens to document trees

Every token that has a node of its own becomes one, in the same place; blank lines and tokens of
unknown kinds become none. What a token lacks takes a default. Footnotes are collected on the way
and stand at the end of the document.

    blocks ts fs = the nodes for ts, and the footnotes fs with those in ts added
-/

namespace PackageDoc.Markdown

/-! ## Footnotes -/

/-- Footnotes by identifier, in the order in which each was first found. -/
abbrev Footnotes := List (String × List Node)

namespace Footnotes

/-- Sets the content of a footnote; one that was there keeps its place. -/
def set (identifier : String) (content : List Node) : Footnotes → Footnotes
  | [] => [(identifier, content)]
  | (k, ns) :: rest =>
    if k = identifier then (k, content) :: rest else (k, ns) :: set identifier content rest

/-- The footnotes as nodes. -/
def nodes (fs : Footnotes) : List Node :=
  fs.map fun f => .container (.footnoteDefinition f.1) f.2 {}

end Footnotes

/-- The identifier of a footnote: its key, or its label if it has no key. -/
def footnoteIdentifier (a : Attributes) : String :=
  match a.key with
  | some key => if key.isEmpty then a.label.getD "" else key
  | none => a.label.getD ""

/-! ## Leaves -/

/-- The level of a heading; one that is missing or out of range is the first. -/
def headingLevel (a : Attributes) : HeadingLevel :=
  ((a.level.bind HeadingLevel.ofInt?).getD default)

/-- A code block. The first word of its info string is its language, and the whole string is kept
as metadata. -/
def codeBlock (raw : String) (a : Attributes) : Node :=
  let info := Text.trim (a.info.getD "").toList
  if info.isEmpty then .leaf (.codeBlock raw none) {}
  else
    .leaf (.codeBlock raw (some (String.ofList (Text.firstWord info))))
      { metadata := [(.text "info_string", .text (String.ofList info))] }

/-- The alternative text of an image: the text tokens directly inside it. -/
def altText (children : List Token) : String :=
  String.join ((children.filter fun t => t.kind == .text).map Token.raw)

/-- The identifier that a footnote reference names. -/
def referenceIdentifier (raw : String) (a : Attributes) : String :=
  if raw.isEmpty then a.label.getD "" else raw

/-! ## Inline tokens -/

mutual

/-- The node for an inline token. -/
def inline : Token → Option Node
  | .mk kind raw _ a children =>
    match kind with
    | .text => some (.leaf (.text raw) {})
    | .strong => some (.container .strong (inlines children) {})
    | .emphasis => some (.container .emphasis (inlines children) {})
    | .codeSpan => some (.leaf (.code raw) {})
    | .link => some (.container (.link (a.url.getD "") a.title) (inlines children) {})
    | .image => some (.leaf (.image (a.url.getD "") (altText children) a.title) {})
    | .hardBreak => some (.leaf (.lineBreak false) {})
    | .softBreak => some (.leaf (.lineBreak true) {})
    | .strikethrough => some (.container .strikethrough (inlines children) {})
    | .inlineHtml => some (.leaf (.htmlInline raw) {})
    | .footnoteReference => some (.leaf (.footnoteReference (referenceIdentifier raw a)) {})
    | _ => none
termination_by structural t => t

/-- The nodes for inline tokens. -/
def inlines : List Token → List Node
  | [] => []
  | t :: ts =>
    match inline t with
    | some n => n :: inlines ts
    | none => inlines ts
termination_by structural ts => ts

end

/-! ## Tables -/

/-- The cells among the tokens of a row. -/
def cells (ts : List Token) : List Node :=
  ts.filterMap fun t =>
    if t.kind = .tableCell then
      some (.container (.tableCell t.attributes.align) (inlines t.children) {})
    else none

/-- The alignments of the cells of a row. -/
def cellAlignments (ts : List Token) : List (Option Alignment) :=
  (ts.filter fun t => t.kind = .tableCell).map fun t => t.attributes.align

/-- The head row of a table: that of the last section which is a head. -/
def tableHead (sections : List Token) : Option Token :=
  sections.reverse.find? fun t => t.kind = .tableHead

/-- The rows of the body sections of a table. -/
def tableBody (sections : List Token) : List Node :=
  (sections.filter fun t => t.kind = .tableBody).flatMap fun t =>
    t.children.map fun row => .container (.tableRow false) (cells row.children) {}

/-- A table from its sections. -/
def table (sections : List Token) : Node :=
  match tableHead sections with
  | some head =>
    .table (some (.container (.tableRow true) (cells head.children) {})) (tableBody sections)
      (cellAlignments head.children) {}
  | none => .table none (tableBody sections) [] {}

/-! ## Blocks -/

mutual

/-- The node for a block token, and the footnotes with those found in it. -/
def block : Token → Footnotes → Option Node × Footnotes
  | .mk kind raw tight a children, fs =>
    match kind with
    | .heading => (some (.container (.heading (headingLevel a)) (inlines children) {}), fs)
    | .paragraph => (some (.container .paragraph (inlines children) {}), fs)
    | .blockText => (some (.container .paragraph (inlines children) {}), fs)
    | .blockCode => (some (codeBlock raw a), fs)
    | .blockQuote =>
      let (ns, fs) := blocks children fs
      (some (.container .blockQuote ns {}), fs)
    | .list =>
      let (ns, fs) := items children fs
      let tight := tight.getD (a.tight.getD true)
      (some (.container (.list (a.ordered.getD false) (a.start.getD 1) tight) ns {}), fs)
    | .table => (some (table children), fs)
    | .thematicBreak => (some (.leaf .thematicBreak {}), fs)
    | .blockHtml => (some (.leaf (.htmlBlock raw) {}), fs)
    | .footnotes => (none, footnoteItems children fs)
    | .footnoteItem =>
      let (ns, fs) := blocks children fs
      (none, fs.set (footnoteIdentifier a) ns)
    | _ => (none, fs)
termination_by structural t => t

/-- The nodes for block tokens, and the footnotes with those found in them. -/
def blocks : List Token → Footnotes → List Node × Footnotes
  | [], fs => ([], fs)
  | t :: ts, fs =>
    let (n, fs) := block t fs
    let (ns, fs) := blocks ts fs
    (n.toList ++ ns, fs)
termination_by structural ts => ts

/-- List items with the blocks inside each token. -/
def items : List Token → Footnotes → List Node × Footnotes
  | [], fs => ([], fs)
  | .mk _ _ _ _ children :: ts, fs =>
    let (ns, fs) := blocks children fs
    let (is, fs) := items ts fs
    (.container .listItem ns {} :: is, fs)
termination_by structural ts => ts

/-- The footnotes with one for each token. -/
def footnoteItems : List Token → Footnotes → Footnotes
  | [], fs => fs
  | .mk _ _ _ a children :: ts, fs =>
    let (ns, fs) := blocks children fs
    footnoteItems ts (fs.set (footnoteIdentifier a) ns)
termination_by structural ts => ts

end

/-- The document for block tokens, with its footnotes at the end. -/
def document (ts : List Token) (metadata : Fields) : Node :=
  let (ns, fs) := blocks ts []
  Node.document (ns ++ fs.nodes) metadata

/-! ## Lemmas -/

/-- Two lists of tokens become two lists of nodes, the footnotes of the second added to those of
the first. -/
theorem blocks_append (ts us : List Token) (fs : Footnotes) :
    blocks (ts ++ us) fs =
      ((blocks ts fs).1 ++ (blocks us (blocks ts fs).2).1, (blocks us (blocks ts fs).2).2) := by
  induction ts generalizing fs with
  | nil => rfl
  | cons t ts ih => simp [blocks, ih]

end PackageDoc.Markdown
