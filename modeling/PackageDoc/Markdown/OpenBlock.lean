import PackageDoc.Markdown.Block
import PackageDoc.Markdown.Opening

/-!
# Reading lines into blocks

While lines are read, the blocks that can still grow form a chain: each is the last one inside the
next. A line is given to the outermost of them and passed inwards as long as it carries their
marks. It is then taken by the innermost block, or starts new ones, or, being text, continues a
paragraph even though it lacks marks of the blocks around it.

    feed n c o     what becomes of the chain o with line n, of which c is left
    close n o      the blocks that the chain o makes when line n is the last one it has seen

Lines are numbered, and every line is given to `feed` once, so recursion is on the chain.
-/

namespace PackageDoc.Markdown

/-- A chain of blocks that can still grow. -/
inductive OpenBlock where
  | nothing
  | paragraph (first : Nat) (lines : List Line)
  | fenced (first : Nat) (fence : Fence) (lines : List Line)
  /-- Indented code, with the last of its lines that is not blank. -/
  | indented (first last : Nat) (lines : List Line)
  | html (first : Nat) (ending : Html.Ending) (lines : List Line)
  | quote (first : Nat) (done : List Placed) (inner : OpenBlock)
  /-- A list; its inner block is its last item. -/
  | list (first : Nat) (marker : Marker) (loose : Bool) (items : List Placed) (inner : OpenBlock)
  /-- An item with the columns that its content is indented by. -/
  | item (first width : Nat) (done : List Placed) (inner : OpenBlock)
  deriving Repr, Inhabited

namespace OpenBlock

/-! ## Closing -/

/-- Lines joined by line feeds. -/
def joined (lines : List Line) : List Char :=
  (List.intersperse ['\n'] lines).flatten

/-- Lines that end with a line feed each. -/
def ended (lines : List Line) : List Char :=
  lines.flatMap fun l => l ++ ['\n']

/-- The blocks of a finished paragraph: the link definitions it starts with, and the text after
them. -/
def closeParagraph (first : Nat) (lines : List Line) : List Placed :=
  let last := first + lines.length - 1
  let (ds, text) := definitions (joined lines)
  let found := if ds.isEmpty then [] else [⟨first, last, .definitions ds⟩]
  if text.all Text.isBlank then found else found ++ [⟨first, last, .paragraph text⟩]

/-- The content of an indented code block, without line feeds at either end. -/
def indentedContent (lines : List Line) : List Char :=
  Text.dropEndWhile (· == '\n') ((joined lines).dropWhile (· == '\n'))

/-- Whether a list is loose: blank lines stand between its items, or between blocks directly
inside one of them. -/
def isLoose (items : List Placed) (looseItem : Bool) : Bool :=
  looseItem || Placed.gapBetween items

/-- The blocks that a chain makes when line `n` is the last one it has seen, and whether an item
among them holds blocks with a blank line in between. -/
def closeWith (n : Nat) : OpenBlock → List Placed × Bool
  | nothing => ([], false)
  | paragraph first lines => (closeParagraph first lines, false)
  | fenced first fence lines => ([⟨first, n, .code (ended lines) fence.info⟩], false)
  | indented first last lines => ([⟨first, last, .code (indentedContent lines) []⟩], false)
  | html first _ lines => ([⟨first, n, .html (ended lines)⟩], false)
  | quote first done inner =>
    let children := done ++ (closeWith n inner).1
    ([⟨first, n, .quote (children.map Placed.block)⟩], false)
  | item first _ done inner =>
    let children := done ++ (closeWith n inner).1
    ([⟨first, Placed.lastLine children first, .item (children.map Placed.block)⟩],
      Placed.gapBetween children)
  | list first marker loose items inner =>
    let (last, looseItem) := closeWith n inner
    let items := items ++ last
    let tight := !isLoose items (loose || looseItem)
    ([⟨first, Placed.lastLine items first,
      .list marker.isOrdered marker.start tight (items.map Placed.block)⟩], false)

/-- The blocks that a chain makes when line `n` is the last one it has seen. -/
def close (n : Nat) (o : OpenBlock) : List Placed :=
  (closeWith n o).1

/-! ## Starting -/

/-- The blocks that a line starts where nothing is open: finished ones, and a chain. The number of
marks that can stand before the text is bounded. -/
def beginWithin (n : Nat) : Nat → Cursor → List Placed × OpenBlock
  | 0, _ => ([], nothing)
  | bound + 1, c =>
    if c.isBlank then ([], nothing)
    else match opening? .nothing c with
      | none => ([], paragraph n [c.rest])
      | some (.quote rest) =>
        let (done, inner) := beginWithin n bound rest
        ([], quote n done inner)
      | some (.item marker width rest) =>
        let (done, inner) := beginWithin n bound rest
        ([], list n marker false [] (item n width done inner))
      | some (.heading level content) => ([⟨n, n, .heading level content⟩], nothing)
      | some .rule => ([⟨n, n, .rule⟩], nothing)
      | some (.fence f) => ([], fenced n f [])
      | some (.code rest) => ([], indented n n [rest.rest])
      | some (.html ending) =>
        if ending.closedBy c.rest then ([⟨n, n, .html (ended [c.rest])⟩], nothing)
        else ([], html n ending [c.rest])

/-- The blocks that a line starts where nothing is open. Every mark takes a character of the line,
so that its length bounds them. -/
def begin (n : Nat) (c : Cursor) : List Placed × OpenBlock :=
  beginWithin n (c.rest.length + 1) c

/-! ## Continuing -/

/-- What becomes of a chain with a line. -/
inductive Fed where
  /-- The line is no part of it. -/
  | refused
  | kept (o : OpenBlock)
  /-- The line is its last, and leaves finished blocks. -/
  | finished (bs : List Placed)
  deriving Repr, Inhabited

/-- A chain whose innermost block, a paragraph, gets one more line. -/
def addText? (line : Line) : OpenBlock → Option OpenBlock
  | paragraph first lines => some (paragraph first (lines ++ [line]))
  | quote first done inner => (addText? line inner).map (quote first done)
  | list first marker loose items inner =>
    (addText? line inner).map (list first marker loose items)
  | item first width done inner => (addText? line inner).map (item first width done)
  | _ => none

/-- A line without the marks of a chain: text continues the paragraph inside. -/
def feedText (c : Cursor) (o : OpenBlock) : Fed :=
  if c.isBlank || (opening? .outerParagraph c).isSome then .refused
  else match addText? c.rest o with
    | some o => .kept o
    | none => .refused

/-- The content of a block that carries on: what it held, and what became of the chain in it. -/
def settle (n : Nat) (c : Cursor) (done : List Placed) (inner : OpenBlock) :
    Fed → List Placed × OpenBlock
  | .kept o => (done, o)
  | .finished bs => (done ++ bs, nothing)
  | .refused =>
    let (bs, o) := begin n c
    (done ++ close (n - 1) inner ++ bs, o)

/-- The number of link definitions that lines consist of, if they consist of nothing else. -/
def definitionsOnly? (lines : List Line) : Option Nat :=
  let (ds, text) := definitions (joined lines)
  if text.all Text.isBlank then some ds.length else none

/-- A line for a paragraph that consists of link definitions so far. It can belong to the last of
them; otherwise it starts whatever it would start if nothing were open. -/
def feedDefinitions (c : Cursor) (first : Nat) (lines : List Line) (count : Nat) : Fed :=
  let more := lines ++ [c.rest]
  if definitionsOnly? more ≠ some count && (opening? .nothing c).isSome then .refused
  else .kept (paragraph first more)

/-- A line for a paragraph. An underline makes a heading of it. -/
def feedParagraph (n : Nat) (c : Cursor) (first : Nat) (lines : List Line) : Fed :=
  if c.isBlank then .refused
  else match definitionsOnly? lines with
    | some count => feedDefinitions c first lines count
    | none =>
      match underline? c with
      | some level =>
        let (ds, text) := definitions (joined lines)
        let found := if ds.isEmpty then [] else [⟨first, n, .definitions ds⟩]
        .finished (found ++ [⟨first, n, .heading level text⟩])
      | none =>
        if (opening? .paragraph c).isSome then .refused
        else .kept (paragraph first (lines ++ [c.rest]))

/-- What becomes of a chain with line `n`, of which `c` is left. -/
def feed (n : Nat) (c : Cursor) : OpenBlock → Fed
  | nothing => .refused
  | paragraph first lines => feedParagraph n c first lines
  | fenced first fence lines =>
    if fence.closedBy c then .finished [⟨first, n, .code (ended lines) fence.info⟩]
    else .kept (fenced first fence (lines ++ [(c.skip fence.indent).rest]))
  | indented first last lines =>
    if c.isBlank then .kept (indented first last (lines ++ [(c.skip 4).rest]))
    else if 4 ≤ c.indent then .kept (indented first n (lines ++ [(c.skip 4).rest]))
    else .refused
  | html first ending lines =>
    if ending.atBlank && c.isBlank then .refused
    else if ending.closedBy c.rest then .finished [⟨first, n, .html (ended (lines ++ [c.rest]))⟩]
    else .kept (html first ending (lines ++ [c.rest]))
  | quote first done inner =>
    match quoteRest? c with
    | some c =>
      let (done, inner) := settle n c done inner (feed n c inner)
      .kept (quote first done inner)
    | none => feedText c (quote first done inner)
  | item first width done inner =>
    let c' : Cursor := if c.isBlank then ⟨c.column, []⟩ else c.skip width
    let inside := settle n c' done inner (feed n c' inner)
    let empty := done.isEmpty && (match inner with | nothing => true | _ => false)
    if c.isBlank then if empty then .refused else .kept (item first width inside.1 inside.2)
    else if width ≤ c.indent then .kept (item first width inside.1 inside.2)
    else feedText c (item first width done inner)
  | list first marker loose items inner =>
    match feed n c inner with
    | .kept inner => .kept (list first marker loose items inner)
    | .finished bs => .kept (list first marker loose (items ++ bs) nothing)
    | .refused =>
      let (last, looseItem) := closeWith (n - 1) inner
      if c.isBlank then .kept (list first marker true (items ++ last) nothing)
      else match opening? .nothing c with
        | some (.item m width rest) =>
          if m.sameList marker then
            let (done, inner) := begin n rest
            .kept (list first marker (loose || looseItem) (items ++ last)
              (item n width done inner))
          else .refused
        | _ => .refused

end OpenBlock

end PackageDoc.Markdown
