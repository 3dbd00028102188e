import PackageDoc.Markdown.Block
import PackageDoc.Markdown.Cursor
import PackageDoc.Text.Lines

/-!
# Tables

A table is a head line, a delimiter line and rows. Either all of them have a pipe at both ends, or
the head and the delimiter line have pipes between their cells. All lines have as many cells as the
delimiter line; one that does not makes the whole no table.
-/

namespace PackageDoc.Markdown.Table

/-! ## Cells -/

/-- The pieces of a text between the pipes that no backslash stands before. -/
def pieces : List Char → List (List Char)
  | [] => [[]]
  | [c] => if c = '|' then [[], []] else [[c]]
  | c :: d :: s =>
    if c = '|' then [] :: pieces (d :: s)
    else if c = '\\' && d = '|' then
      Text.consToWord c (Text.consToWord d (pieces s))
    else Text.consToWord c (pieces (d :: s))

/-- A text without the spaces at either end. -/
def trimSpaces (s : List Char) : List Char :=
  Text.dropEndWhile (· == ' ') (s.dropWhile (· == ' '))

/-- The cells of a line without its outer pipes. -/
def cells (s : List Char) : List (List Char) :=
  (pieces (Text.trim s)).map trimSpaces

/-! ## Lines -/

/-- A line without the spaces, at most three, that it may start with. -/
def unindented? (l : Line) : Option Line :=
  if 3 < (l.takeWhile (· == ' ')).length then none else some (l.dropWhile (· == ' '))

/-- What stands between the outer pipes of a line. -/
def piped? (l : Line) : Option (List Char) := do
  match (← unindented? l) with
  | '|' :: s =>
    match (Text.dropEndWhile isSpaceOrTab s).reverse with
    | '|' :: t => some t.reverse
    | _ => none
  | _ => none

/-- How a cell of the delimiter line aligns its column. -/
def alignment (cell : List Char) : Option Alignment :=
  let starts := cell.head? == some ':'
  let dashes := if starts then cell.drop 1 else cell
  let ends := dashes.getLast? == some ':'
  let dashes := if ends then dashes.dropLast else dashes
  if dashes.isEmpty || !dashes.all (· == '-') then none
  else match starts, ends with
    | true, true => some .center
    | true, false => some .left
    | false, true => some .right
    | false, false => none

/-- Whether a text may stand between the outer pipes of a delimiter line. -/
def isDelimiter (s : List Char) : Bool :=
  (s.all fun c => c == '-' || c == ':' || c == '|' || c == ' ') &&
    (match s.dropWhile (· == ' ') with
      | c :: _ => c == '-' || c == ':'
      | [] => false)

/-- A table from its head, its delimiter line and its rows. -/
def ofCells? (head delimiter : List (List Char)) (rows : List (List (List Char))) :
    Option Block :=
  if head.length = delimiter.length && rows.all fun r => r.length = delimiter.length then
    some (.table head (delimiter.map alignment) rows)
  else none

/-- The table with outer pipes at the start of some lines, if these have its form. -/
def piped (lines : List Line) : Option (Option (Block × Nat)) := do
  match lines with
  | headLine :: delimiterLine :: rest =>
    let head ← piped? headLine
    let delimiter ← piped? delimiterLine
    if head.isEmpty || !isDelimiter delimiter then none
    else
      let rows := (rest.map piped?).takeWhile Option.isSome |>.map (Option.getD · [])
      if rows.any List.isEmpty then some none
      else
        some ((ofCells? (cells head) (cells delimiter) (rows.map cells)).map
          fun t => (t, 2 + rows.length))
  | _ => none

/-- Whether a text is a delimiter line without outer pipes: dashes and colons, spaces, a pipe and
more of them. -/
def isOpenDelimiter (s : List Char) : Bool :=
  let start := s.takeWhile fun c => c == '-' || c == ':'
  let rest := (s.drop start.length).dropWhile (· == ' ')
  !start.isEmpty && rest.head? == some '|' &&
    rest.all fun c => c == '-' || c == ':' || c == '|' || c == ' '

/-- The table without outer pipes at the start of some lines, if these have its form. -/
def unpiped (lines : List Line) : Option (Block × Nat) := do
  match lines with
  | headLine :: delimiterLine :: rest =>
    let head ← unindented? headLine
    let delimiter ← unindented? delimiterLine
    if head.isEmpty || !(head.drop 1).contains '|' || !isOpenDelimiter delimiter then none
    else
      let rows := rest.takeWhile fun l => l.contains '|'
      (ofCells? (cells head) (cells delimiter) (rows.map cells)).map fun t => (t, 2 + rows.length)
  | _ => none

/-- The table that starts with the first of some lines, and the number of its lines. -/
def at? (lines : List Line) : Option (Block × Nat) :=
  match piped lines with
  | some found => found
  | none => unpiped lines

end PackageDoc.Markdown.Table
