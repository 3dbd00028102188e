import PackageDoc.Markdown.Definition
import PackageDoc.Node

/-!
# Blocks

The block structure of a Markdown document before its inline text is read. Blocks that stand side
by side also have the lines they were found on, which tell whether blank lines are between them.
-/

namespace PackageDoc.Markdown

/-- A block. Text that is still to be read for inline structure is kept as it is in the source,
without the marks of the blocks around it. -/
inductive Block where
  | heading (level : Nat) (content : List Char)
  | paragraph (content : List Char)
  | code (content : List Char) (info : List Char)
  | quote (children : List Block)
  | list (ordered : Bool) (start : Nat) (tight : Bool) (items : List Block)
  | item (children : List Block)
  | html (raw : List Char)
  | rule
  | table (head : List (List Char)) (alignments : List (Option Alignment))
      (rows : List (List (List Char)))
  | definitions (ds : List Definition)
  deriving Repr, Inhabited

/-- A block with its first and its last line. -/
structure Placed where
  first : Nat
  last : Nat
  block : Block
  deriving Repr, Inhabited

namespace Placed

/-- Whether a blank line stands between two neighbours. -/
def gapBetween : List Placed → Bool
  | a :: b :: rest => a.last + 1 < b.first || gapBetween (b :: rest)
  | _ => false

/-- The last line of blocks that stand side by side, or a line given for none. -/
def lastLine (bs : List Placed) (none : Nat) : Nat :=
  (bs.getLast?.map Placed.last).getD none

end Placed

mutual

/-- The link definitions in a block, in the order of the text. -/
def Block.definitionsIn : Block → List Definition
  | .definitions ds => ds
  | .quote children => definitionsInAll children
  | .list _ _ _ items => definitionsInAll items
  | .item children => definitionsInAll children
  | _ => []
termination_by structural b => b

/-- The link definitions in blocks, in the order of the text. -/
def definitionsInAll : List Block → List Definition
  | [] => []
  | b :: bs => b.definitionsIn ++ definitionsInAll bs
termination_by structural bs => bs

end

end PackageDoc.Markdown
