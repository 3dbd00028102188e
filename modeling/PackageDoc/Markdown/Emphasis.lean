import PackageDoc.Markdown.Token
import PackageDoc.Text.Blank
import PackageDoc.Unicode.Punctuation

/-!
# Emphasis

Runs of asterisks and underscores open and close emphasis. A run that closes is matched with the
nearest run before it that opens, has the same mark, and with it satisfies the rule of three; two
marks of each make strong emphasis and one mark makes plain emphasis. Runs in between become text.

A matched run is text too, less the marks it has spent, and stands where it stood. Texts that came
to stand side by side are joined at the end, but not inside emphasis.

    resolve ps      the tokens for the pieces ps of a line of text
-/

namespace PackageDoc.Markdown

/-! ## Runs -/

/-- A run of one mark. -/
structure Run where
  mark : Char
  /-- The marks that are not spent. -/
  count : Nat
  /-- The marks that there were. -/
  size : Nat
  opens : Bool
  closes : Bool
  deriving Repr, DecidableEq, Inhabited

namespace Run

/-- Whether a place counts as white space; the ends of a text do. -/
def isGap (c : Option Char) : Bool :=
  match c with
  | none => true
  | some c => Text.isBlank c

def isPunctuation (c : Option Char) : Bool :=
  match c with
  | none => false
  | some c => Unicode.isPunctuation c

/-- A run between two characters. It can open before anything but white space, and close after
it; next to punctuation there must be punctuation or white space on its other side. Underscores
inside a word do neither. -/
def between (before : Option Char) (mark : Char) (count : Nat) (after : Option Char) : Run :=
  let left := !isGap after && (!isPunctuation after || isGap before || isPunctuation before)
  let right := !isGap before && (!isPunctuation before || isGap after || isPunctuation after)
  if mark = '_' then
    ⟨mark, count, count, left && (!right || isPunctuation before),
      right && (!left || isPunctuation after)⟩
  else ⟨mark, count, count, left, right⟩

/-- The marks that are left as text. -/
def text (r : Run) : Token :=
  .leaf .text (String.ofList (List.replicate r.count r.mark))

/-- The rule of three: if one of two runs can both open and close, their sizes do not add up to a
multiple of three, unless both are multiples of three. -/
def rule (opener closer : Run) : Bool :=
  !(closer.opens || opener.closes) || closer.size % 3 == 0 ||
    (opener.size + closer.size) % 3 != 0

/-- Whether a run opens what another one closes. -/
def pairsWith (opener closer : Run) : Bool :=
  opener.mark == closer.mark && rule opener closer

/-- The marks that each of two matching runs spends. -/
def spent (opener closer : Run) : Nat :=
  if 2 ≤ opener.count && 2 ≤ closer.count then 2 else 1

/-- A run with fewer marks left. -/
def spend (r : Run) (n : Nat) : Run :=
  { r with count := r.count - n }

end Run

/-! ## Pieces -/

/-- A piece of inline text. -/
inductive Piece where
  | text (s : List Char)
  /-- Characters that were escaped. -/
  | escaped (s : List Char)
  | run (r : Run)
  | token (t : Token)
  deriving Repr, Inhabited

/-- Joins plain texts that stand side by side. -/
def joinTexts : List Piece → List Piece
  | [] => []
  | .text s :: ps =>
    match joinTexts ps with
    | .text t :: qs => .text (s ++ t) :: qs
    | qs => .text s :: qs
  | p :: ps => p :: joinTexts ps

/-- Whether there is a run among pieces. -/
def hasRun (ps : List Piece) : Bool :=
  ps.any fun p => match p with
    | .run _ => true
    | _ => false

/-! ## Matching -/

/-- A run that can open emphasis, with the tokens after it, newest first. -/
structure Opener where
  run : Run
  after : List Token
  deriving Repr, Inhabited

/-- The openers that wait for a closer, newest first, and the tokens before all of them, newest
first. -/
structure Waiting where
  openers : List Opener := []
  before : List Token := []
  deriving Repr, Inhabited

namespace Waiting

/-- Adds tokens, newest first. -/
def add (w : Waiting) (ts : List Token) : Waiting :=
  match w.openers with
  | [] => { w with before := ts ++ w.before }
  | o :: os => { w with openers := { o with after := ts ++ o.after } :: os }

/-- The tokens of openers that found no closer, newest first. -/
def flatten (os : List Opener) : List Token :=
  os.flatMap fun o => o.after ++ [o.run.text]

/-- Splits the openers at the nearest one that matches a closer: those after it, it, and those
before it. -/
def find? (closer : Run) : List Opener → Option (List Opener × Opener × List Opener)
  | [] => none
  | o :: os =>
    if o.run.pairsWith closer then some ([], o, os)
    else (find? closer os).map fun (newer, found, older) => (o :: newer, found, older)

/-- The kind of emphasis that a number of marks makes. -/
def kindOf (spent : Nat) : TokenKind :=
  if spent = 2 then .strong else .emphasis

/-- Closes emphasis: what stands behind the opener is wrapped up. What is left of the opener goes
on waiting; if nothing is, it is an empty text. -/
def wrap (newer : List Opener) (found : Opener) (older : List Opener) (spent : Nat)
    (w : Waiting) : Waiting :=
  let inside := flatten newer ++ found.after
  let wrapped := Token.branch (kindOf spent) inside.reverse
  let run := found.run.spend spent
  if run.count = 0 then { w with openers := older }.add [wrapped, run.text]
  else { w with openers := ⟨run, [wrapped]⟩ :: older }

/-- Adds a run that closes nothing more. -/
def addRun (r : Run) (w : Waiting) : Waiting :=
  if r.opens && r.count != 0 then { w with openers := ⟨r, []⟩ :: w.openers }
  else w.add [r.text]

/-- Lets a run close as much as it can. Every match spends some of its marks, so that their number
bounds the matches. -/
def closeWithin : Nat → Run → Waiting → Waiting
  | 0, r, w => w.addRun r
  | n + 1, r, w =>
    if r.count = 0 then w.add [r.text]
    else match find? r w.openers with
      | none => w.addRun r
      | some (newer, found, older) =>
        let spent := found.run.spent r
        closeWithin n (r.spend spent) (w.wrap newer found older spent)

/-- Adds a piece. -/
def step (w : Waiting) : Piece → Waiting
  | .text s => w.add [.leaf .text (String.ofList s)]
  | .escaped s => w.add [.leaf .text (String.ofList s)]
  | .token t => w.add [t]
  | .run r => if r.closes then closeWithin r.count r w else w.addRun r

/-- The tokens when no more pieces come. -/
def tokens (w : Waiting) : List Token :=
  (flatten w.openers ++ w.before).reverse

end Waiting

/-! ## Joining -/

/-- Joins texts that stand side by side, and drops empty ones. -/
def joinTextTokens : List Token → List Token
  | [] => []
  | t :: ts =>
    let rest := joinTextTokens ts
    if t.kind = .text then
      match rest with
      | u :: us =>
        if u.kind = .text then .leaf .text (t.raw ++ u.raw) :: us
        else if t.raw.isEmpty then rest else t :: rest
      | [] => if t.raw.isEmpty then [] else [t]
    else t :: rest

/-- The tokens for pieces of inline text. -/
def resolve (ps : List Piece) : List Token :=
  let ts := ((joinTexts ps).foldl Waiting.step {}).tokens
  if hasRun ps then joinTextTokens ts else ts

end PackageDoc.Markdown
