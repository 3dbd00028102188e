/-!
# Lines with columns

What is left of a line, together with the column it starts at. Indentation is measured in columns:
a tab reaches to the next column that is a multiple of four, and when only part of a tab is
consumed, the rest of it is left as spaces.
-/

namespace PackageDoc.Markdown

/-- A line without its ending. -/
abbrev Line := List Char

/-- Whether a line holds nothing but white space. -/
def Line.isBlank (l : Line) : Bool :=
  l.all fun c => c == ' ' || c == '\t' || c == '\x0b' || c == '\x0c'

/-- Whether a character is a space or a tab. -/
def isSpaceOrTab (c : Char) : Bool :=
  c == ' ' || c == '\t'

/-- What is left of a line, and its column. -/
structure Cursor where
  column : Nat := 0
  rest : Line
  deriving Repr, DecidableEq, Inhabited

/-- The columns that a character takes. -/
def columns (column : Nat) (c : Char) : Nat :=
  if c = '\t' then 4 - column % 4 else 1

/-- The columns of white space that a line starts with. -/
def indentation (column : Nat) : Line → Nat
  | [] => 0
  | c :: s =>
    if isSpaceOrTab c then columns column c + indentation (column + columns column c) s else 0

/-- A line from which columns of white space are removed, as many as asked for if there are. -/
def removeColumns (column : Nat) : Nat → Line → Cursor
  | 0, s => ⟨column, s⟩
  | _, [] => ⟨column, []⟩
  | n, c :: s =>
    if !isSpaceOrTab c then ⟨column, c :: s⟩
    else
      let w := columns column c
      if w ≤ n then removeColumns (column + w) (n - w) s
      else ⟨column + n, List.replicate (w - n) ' ' ++ s⟩
termination_by structural _ s => s

namespace Cursor

/-- The start of a line. -/
def ofLine (l : Line) : Cursor :=
  { rest := l }

def isBlank (c : Cursor) : Bool :=
  c.rest.isBlank

/-- The columns of white space before the text. -/
def indent (c : Cursor) : Nat :=
  indentation c.column c.rest

/-- Moves over columns of white space. -/
def skip (n : Nat) (c : Cursor) : Cursor :=
  removeColumns c.column n c.rest

/-- Moves to the text. -/
def toText (c : Cursor) : Cursor :=
  c.skip c.indent

/-- Moves over characters that take one column each. -/
def drop (n : Nat) (c : Cursor) : Cursor :=
  ⟨c.column + n, c.rest.drop n⟩

/-- Moves over one column of white space if there is one. -/
def skipSpace (c : Cursor) : Cursor :=
  c.skip 1

end Cursor

end PackageDoc.Markdown
