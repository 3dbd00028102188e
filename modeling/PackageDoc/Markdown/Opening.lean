import PackageDoc.Markdown.Cursor
import PackageDoc.Markdown.Definition
import PackageDoc.Markdown.Html
import PackageDoc.Text.Hexadecimal

/-!
# What starts a block

A line can start a quote, a heading, a fenced or indented code block, a block of HTML, a rule or a
list item; any other line is text. Which of them it starts is decided by its beginning, and in
part by what stands before it: not all of them can interrupt a paragraph.
-/

namespace PackageDoc.Markdown

/-! ## The parts -/

/-- The fence of a code block. -/
structure Fence where
  mark : Char
  length : Nat
  /-- The columns that the fence is indented by, which its lines may be as well. -/
  indent : Nat
  info : List Char
  deriving Repr, DecidableEq, Inhabited

/-- The marker of a list item: a bullet, or a number with its delimiter. -/
inductive Marker where
  | bullet (mark : Char)
  | number (start : Nat) (delimiter : Char)
  deriving Repr, DecidableEq, Inhabited

namespace Marker

/-- Whether items with two markers belong to one list. -/
def sameList : Marker → Marker → Bool
  | bullet a, bullet b => a == b
  | number _ a, number _ b => a == b
  | _, _ => false

def isOrdered : Marker → Bool
  | bullet _ => false
  | number .. => true

/-- The number of the first item of a list. -/
def start : Marker → Nat
  | bullet _ => 1
  | number n _ => n

end Marker

/-- What a line starts. -/
inductive Opening where
  | quote (rest : Cursor)
  | heading (level : Nat) (content : List Char)
  | fence (f : Fence)
  | html (ending : Html.Ending)
  | rule
  /-- A list item whose content starts at a column relative to where the line was reached. -/
  | item (marker : Marker) (width : Nat) (rest : Cursor)
  | code (rest : Cursor)
  deriving Repr, DecidableEq, Inhabited

/-- What an opening comes after. -/
inductive Before where
  /-- Nothing is open in the block that the line belongs to. -/
  | nothing
  /-- A paragraph is open there. -/
  | paragraph
  /-- A paragraph is open in a block that the line does not belong to; text would continue it. -/
  | outerParagraph
  deriving Repr, DecidableEq, Inhabited

/-! ## Quotes and headings -/

/-- The rest of a line after the marker of a quote and one space. -/
def quoteRest? (c : Cursor) : Option Cursor :=
  if 4 ≤ c.indent then none
  else match c.toText.rest with
    | '>' :: _ => some (c.toText.drop 1).skipSpace
    | _ => none

/-- The content of a heading without the number signs it may be closed by. -/
def headingContent (s : List Char) : List Char :=
  let s := Text.dropEndWhile isSpaceOrTab (s.dropWhile isSpaceOrTab)
  let body := Text.dropEndWhile (· == '#') s
  if body.isEmpty then []
  else if body.length < s.length && (body.getLast?.map isSpaceOrTab).getD false then
    Text.dropEndWhile isSpaceOrTab body
  else s

/-- The heading that a line is. -/
def heading? (s : List Char) : Option Opening :=
  let level := (s.takeWhile (· == '#')).length
  let rest := s.drop level
  if level = 0 || 6 < level then none
  else if (rest.head?.map isSpaceOrTab).getD true then
    some (.heading level (headingContent rest))
  else none

/-- The level of the heading that a line makes of the paragraph above it. -/
def underline? (c : Cursor) : Option Nat :=
  if 4 ≤ c.indent then none
  else
    let s := Text.dropEndWhile isSpaceOrTab c.toText.rest
    if s.isEmpty then none
    else if s.all (· == '=') then some 1
    else if s.all (· == '-') then some 2
    else none

/-! ## Code fences and rules -/

/-- The fence that a line is. -/
def fence? (indent : Nat) (s : List Char) : Option Opening :=
  match s with
  | [] => none
  | mark :: _ =>
    if mark.toNat ≠ 96 && mark ≠ '~' then none
    else
      let length := (s.takeWhile (· == mark)).length
      let info := s.drop length
      if length < 3 || (mark.toNat == 96 && info.contains mark) then none
      else
        let info := Text.dropEndWhile isSpaceOrTab (info.dropWhile isSpaceOrTab)
        some (.fence ⟨mark, length, indent, unescape info⟩)

/-- Whether a line closes a code block. -/
def Fence.closedBy (f : Fence) (c : Cursor) : Bool :=
  let s := c.toText.rest
  let length := (s.takeWhile (· == f.mark)).length
  c.indent < 4 && f.length ≤ length && (s.drop length).all isSpaceOrTab

/-- Whether a line is a rule: three or more of one mark, with white space between them. -/
def isRule (s : List Char) : Bool :=
  match s with
  | [] => false
  | mark :: _ =>
    (mark == '*' || mark == '-' || mark == '_') &&
      (s.all fun c => c == mark || isSpaceOrTab c) && 3 ≤ s.count mark

/-! ## List items -/

/-- The marker that a text starts with, and its length. -/
def marker? (s : List Char) : Option (Marker × Nat) :=
  match s with
  | [] => none
  | c :: _ =>
    if c = '*' || c = '+' || c = '-' then some (.bullet c, 1)
    else
      let ds := s.takeWhile Text.isDigit
      if ds.isEmpty || 9 < ds.length then none
      else match s.drop ds.length with
        | d :: _ =>
          if d = '.' || d = ')' then some (.number (Text.ofDigits 10 ds) d, ds.length + 1)
          else none
        | [] => none

/-- Whether an item with a marker and some text can interrupt a paragraph. -/
def Marker.interrupts (m : Marker) (text : Line) : Bool :=
  !text.isBlank && (match m with
    | .bullet _ => true
    | .number n _ => n == 1)

/-- The list item that a line starts. The content of an item starts behind the white space after
its marker; if that is missing, wider than four columns or followed by nothing, then behind its
first column. -/
def item? (before : Before) (indent : Nat) (c : Cursor) : Option Opening := do
  let (marker, length) ← marker? c.rest
  let rest := c.drop length
  if !((rest.rest.head?.map isSpaceOrTab).getD true) then none
  else if before = .paragraph && !marker.interrupts rest.rest then none
  else
    let gap := rest.indent
    if rest.isBlank || 5 ≤ gap then
      some (.item marker (indent + length + 1) rest.skipSpace)
    else some (.item marker (indent + length + gap) (rest.skip gap))

/-! ## Openings -/

/-- The block of HTML that a line starts. -/
def html? (before : Before) (s : List Char) : Option Opening :=
  match Html.ending? s with
  | some (.blank false) => if before = .nothing then some (.html (.blank false)) else none
  | some e => some (.html e)
  | none => none

/-- What a line starts, if it is not text. -/
def opening? (before : Before) (c : Cursor) : Option Opening :=
  if c.isBlank then none
  else if 4 ≤ c.indent then
    if before = .nothing then some (.code (c.skip 4)) else none
  else
    let t := c.toText
    match quoteRest? c with
    | some rest => some (.quote rest)
    | none =>
      (heading? t.rest).or <| (fence? c.indent t.rest).or <| (html? before t.rest).or <|
        (if isRule t.rest then some .rule else none).or <| item? before c.indent t

end PackageDoc.Markdown
