import PackageDoc.Markdown.Inline
import PackageDoc.Markdown.Outline
import PackageDoc.Markdown.Tree

/-!
# Reading Markdown

From a text to its tokens, and from these to its document tree: the outline gives the blocks and
what inline text can refer to, and the inline text of each block is then read with it. Footnotes
stand at the end, those that are referred to, in the order of the first references.
-/

namespace PackageDoc.Markdown

/-! ## Blocks -/

/-- A row of a table. -/
def cellTokens (env : Environment) (alignments : List (Option Alignment))
    (cells : List (List Char)) : List Token :=
  (cells.zip alignments).map fun (cell, align) =>
    .mk .tableCell "" none { align } (Inline.content env cell)

/-- The sections of a table. -/
def tableTokens (env : Environment) (head : List (List Char))
    (alignments : List (Option Alignment)) (rows : List (List (List Char))) : List Token :=
  [.branch .tableHead (cellTokens env alignments head),
    .branch .tableBody (rows.map fun row => .branch .tableRow (cellTokens env alignments row))]

/-- The attributes of a list. -/
def listAttributes (ordered : Bool) (start : Nat) : Attributes :=
  { ordered := some ordered, start := if ordered then some (Int.ofNat start) else none }

mutual

/-- The token for a block; link definitions have none. -/
def Block.token (env : Environment) : Block → Option Token
  | .heading level content =>
    some (.mk .heading "" none { level := some level } (Inline.content env content))
  | .paragraph content => some (.branch .paragraph (Inline.content env content))
  | .code content info =>
    some (.mk .blockCode (String.ofList content) none { info := some (String.ofList info) } [])
  | .quote children => some (.branch .blockQuote (blockTokens env children))
  | .list ordered start tight items =>
    some (.mk .list "" (some tight) (listAttributes ordered start) (blockTokens env items))
  | .item children => some (.branch .listItem (blockTokens env children))
  | .html raw => some (.leaf .blockHtml (String.ofList raw))
  | .rule => some (.leaf .thematicBreak "")
  | .table head alignments rows => some (.branch .table (tableTokens env head alignments rows))
  | .definitions _ => none
termination_by structural b => b

/-- The tokens for blocks. -/
def blockTokens (env : Environment) : List Block → List Token
  | [] => []
  | b :: bs => (b.token env).toList ++ blockTokens env bs
termination_by structural bs => bs

end

/-! ## Footnotes -/

mutual

/-- The keys of the footnote references in a token, in the order of the text. -/
def Token.noteKeys : Token → List String
  | .mk kind raw _ _ children =>
    if kind = .footnoteReference then [raw] else noteKeysIn children
termination_by structural t => t

/-- The keys of the footnote references in tokens, in the order of the text. -/
def noteKeysIn : List Token → List String
  | [] => []
  | t :: ts => t.noteKeys ++ noteKeysIn ts
termination_by structural ts => ts

end

/-- The first occurrence of each text in a list. -/
def firsts : List String → List String
  | [] => []
  | k :: ks => k :: (firsts ks).filter (· != k)

/-- The tokens of the footnotes that some tokens refer to, in the order of the first references. -/
def noteTokens (env : Environment) (notes : List NoteDefinition) (ts : List Token) : List Token :=
  let items := (firsts (noteKeysIn ts)).filterMap fun key =>
    (notes.find? fun n => String.ofList n.key = key).map fun n =>
      Token.mk .footnoteItem "" none { key := some key } (blockTokens env n.blocks)
  if items.isEmpty then [] else [.branch .footnotes items]

/-! ## Documents -/

/-- What the inline text of a document can refer to. -/
def Outline.environment (o : Options) (outline : Outline) : Environment :=
  { definitions := outline.definitions ++
      definitionsInAll (outline.notes.flatMap NoteDefinition.blocks)
    notes := if o.footnotes then some (outline.notes.map NoteDefinition.key) else none
    strikethrough := o.strikethrough }

/-- The tokens of a text. -/
def tokens (o : Options) (s : List Char) : List Token :=
  let outline := Outline.read o s
  let env := outline.environment o
  let ts := blockTokens env outline.blocks
  ts ++ noteTokens env outline.notes ts

end PackageDoc.Markdown
