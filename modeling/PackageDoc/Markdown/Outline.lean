import PackageDoc.Markdown.OpenBlock
import PackageDoc.Markdown.Table
import PackageDoc.Options

/-!
# The outline of a document

The blocks of a whole document, and the footnotes it defines. Tables and footnote definitions
stand at the top level only. They can follow a paragraph directly.
-/

namespace PackageDoc.Markdown

/-! ## Footnotes -/

/-- A footnote that a document defines. -/
structure NoteDefinition where
  key : List Char
  blocks : List Block
  deriving Repr, Inhabited

/-- The blocks of lines without tables and footnotes. -/
def blocksOfLines (lines : List Line) : List Block :=
  let (n, done, inner) := lines.foldl (fun (n, done, inner) l =>
    let c := Cursor.ofLine l
    (n + 1, OpenBlock.settle n c done inner (OpenBlock.feed n c inner)))
    ((1, [], .nothing) : Nat × List Placed × OpenBlock)
  (done ++ OpenBlock.close (n - 1) inner).map Placed.block

/-- The number of spaces that a line starts with. -/
def leadingSpaces (l : Line) : Nat :=
  (l.takeWhile (· == ' ')).length

/-- Whether a line goes on with a footnote whose definition is indented by some spaces: it is empty,
or indented by one to four more of them. -/
def continuesNote (lead : Nat) (l : Line) : Bool :=
  l.isEmpty || (lead < leadingSpaces l && leadingSpaces l ≤ lead + 4)

/-- A line without the spaces it starts with, if there are so many of them or more. -/
def unindent (width : Nat) (l : Line) : Line :=
  if width ≤ leadingSpaces l then l.drop (leadingSpaces l) else l

/-- The lines of a footnote, given what stands on its first line and its further lines. The
indentation of the first further line that is not empty is taken off everywhere, and there is
nothing blank at either end. -/
def noteLines (first : Line) (more : List Line) : List Line :=
  let width := match more.find? fun l => !l.isEmpty with
    | some l => (l.takeWhile Text.isBlank).length
    | none => 0
  let lines := (first :: more).map (unindent width)
  Text.splitAt '\n' (Text.trim (OpenBlock.joined lines))

/-- The label of a footnote and what follows it, given the text after its opening bracket. -/
def noteLabel? : List Char → Option (List Char × List Char)
  | '^' :: s => labelWithin 500 s
  | _ => none

/-- The footnote with a label whose text starts with a line, further lines being given, and the
number of further lines it takes. -/
def noteFrom (lead : Nat) (label : List Char) (first : Line) (rest : List Line) :
    NoteDefinition × Nat :=
  let more := rest.takeWhile (continuesNote lead)
  (⟨normalLabel label, blocksOfLines (noteLines first more)⟩, more.length)

/-- The footnote that the first of some lines starts to define, and the number of its lines. Its
text starts behind the label, or on the next line if there is nothing behind it. -/
def noteAt? (lines : List Line) : Option (NoteDefinition × Nat) := do
  match lines with
  | [] => none
  | l :: rest =>
    match (← Table.unindented? l) with
    | '[' :: s =>
      let (label, after) ← noteLabel? s
      match after, rest with
      | [':'], [] => some ((noteFrom (leadingSpaces l) label [] []).1, 1)
      | [':'], next :: rest =>
        let (note, length) := noteFrom (leadingSpaces l) label next rest
        some (note, 2 + length)
      | ':' :: c :: text, rest =>
        if isSpaceOrTab c then
          let (note, length) := noteFrom (leadingSpaces l) label text rest
          some (note, 1 + length)
        else none
      | _, _ => none
    | _ => none

/-! ## Outlines -/

/-- The blocks of a document and the footnotes it defines. -/
structure Outline where
  blocks : List Block := []
  notes : List NoteDefinition := []
  deriving Repr, Inhabited

namespace Outline

/-- An outline while lines are being read. -/
structure Draft where
  done : List Placed := []
  inner : OpenBlock := .nothing
  notes : List NoteDefinition := []
  deriving Inhabited

/-- The outline when line `n` is the last one of a document. -/
def Draft.close (d : Draft) (n : Nat) : Outline :=
  ⟨(d.done ++ OpenBlock.close n d.inner).map Placed.block, d.notes⟩

/-- A draft with a footnote; of several with one key the first counts. -/
def Draft.addNote (d : Draft) (n : Nat) (note : NoteDefinition) : Draft :=
  { done := d.done ++ OpenBlock.close (n - 1) d.inner
    notes := if d.notes.any fun m => m.key = note.key then d.notes else d.notes ++ [note] }

/-- A draft with a block that was found on some lines. -/
def Draft.addBlock (d : Draft) (n length : Nat) (b : Block) : Draft :=
  { d with
    done := d.done ++ OpenBlock.close (n - 1) d.inner ++ [⟨n, n + length - 1, b⟩]
    inner := .nothing }

/-- Whether a line can start a table or a footnote: it is text at the top level. -/
def atTopLevel (c : Cursor) (inner : OpenBlock) (fed : OpenBlock.Fed) : Bool :=
  match inner, fed with
  | .nothing, _ => (opening? .nothing c).isNone
  | .paragraph .., _ => (opening? .paragraph c).isNone
  | _, .refused => (opening? .nothing c).isNone
  | _, _ => false

/-- The draft after a table or footnote at the start of some lines, and the number of its lines. -/
def special? (o : Options) (n : Nat) (lines : List Line) (d : Draft) : Option (Draft × Nat) :=
  match if o.footnotes then noteAt? lines else none with
  | some (note, length) => some (d.addNote n note, length)
  | none =>
    match if o.tables then Table.at? lines else none with
    | some (b, length) => some (d.addBlock n length b, length)
    | none => none

/-- Reads lines from number `n` on, of which some are accounted for. -/
def readFrom (o : Options) (n : Nat) : Nat → Draft → List Line → Outline
  | _, d, [] => d.close (n - 1)
  | taken + 1, d, _ :: ls => readFrom o (n + 1) taken d ls
  | 0, d, l :: ls =>
    let c := Cursor.ofLine l
    let fed := OpenBlock.feed n c d.inner
    match if atTopLevel c d.inner fed then special? o n (l :: ls) d else none with
    | some (d, length) => readFrom o (n + 1) (length - 1) d ls
    | none =>
      let (done, inner) := OpenBlock.settle n c d.done d.inner fed
      readFrom o (n + 1) 0 { d with done, inner } ls

/-- A text in which every line ends with a line feed, less the last of them. -/
def unifyLines : List Char → List Char
  | [] => []
  | '\r' :: '\n' :: s => '\n' :: unifyLines s
  | c :: s => (if c = '\r' then '\n' else c) :: unifyLines s

/-- The lines of a document. -/
def linesOf (s : List Char) : List Line :=
  let ls := Text.splitAt '\n' (unifyLines s)
  if (ls.getLast?.map List.isEmpty).getD false then ls.dropLast else ls

/-- The outline of a text. -/
def read (o : Options) (s : List Char) : Outline :=
  readFrom o 1 0 {} (linesOf s)

/-- The link definitions of a document. -/
def definitions (outline : Outline) : List Definition :=
  definitionsInAll outline.blocks

end Outline

end PackageDoc.Markdown
