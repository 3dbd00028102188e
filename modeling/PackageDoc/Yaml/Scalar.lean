import PackageDoc.Yaml.Character

/-!
# The text of scalars

A scalar is written plain, between quotes, or as a block of indented lines. Line ends inside a
plain or quoted scalar are folded: one becomes a space, and each further one is kept. Every reader
takes the text from where the scalar starts, and gives its content with the rest of the text.
-/

namespace PackageDoc.Yaml

/-- Content that was read, and the rest of the text. -/
structure Scanned where
  content : List Char
  rest : List Char
  deriving Repr, DecidableEq, Inhabited

/-- Content that comes before what was read. -/
def Scanned.after (s : List Char) (r : Scanned) : Scanned :=
  { r with content := s ++ r.content }

/-- What line ends become: the first one is folded, the others are kept. -/
def folded (first others : List Char) : List Char :=
  (if first ≠ ['\n'] then first else if others.isEmpty then [' '] else []) ++ others

/-! ## Plain scalars -/

/-- Whether a character is a mark of flow collections. -/
def isFlowMark (c : Char) : Bool :=
  c == ',' || c == '[' || c == ']' || c == '\x7b' || c == '\x7d'

/-- Whether a colon before some text ends a plain scalar. -/
def endsAtColon (flow : Bool) (s : List Char) : Bool :=
  startsGap s || (flow && (s.head?.map isFlowMark).getD false)

/-- A stretch of a plain scalar without gaps. -/
def plainStretch (flow : Bool) : List Char → Scanned
  | [] => ⟨[], []⟩
  | c :: s =>
    if isGap c || (c == ':' && endsAtColon flow s) || (flow && (isFlowMark c || c == '?')) then
      ⟨[], c :: s⟩
    else (plainStretch flow s).after [c]

/-- The gap inside a plain scalar. -/
structure PlainGap where
  content : List Char
  rest : List Char
  /-- The column of the text after it, if a line ended in it. -/
  column : Option Nat
  /-- A line that separates documents follows. -/
  separated : Bool
  deriving Repr, DecidableEq, Inhabited

/-- The further line ends of a gap, the rest of the text, the column in the last line, and whether
a separator of documents was met. -/
def plainBreaks : Nat → List Char → List Char × List Char × Nat × Bool
  | column, [] => ([], [], column, false)
  | column, c :: s =>
    if c == ' ' then plainBreaks (column + 1) s
    else if isBreak c then
      match s, c with
      | '\n' :: t, '\r' =>
        if startsSeparator t then (['\n'], t, 0, true)
        else
          let (bs, rest, column, separated) := plainBreaks 0 t
          ('\n' :: bs, rest, column, separated)
      | s, c =>
        let b := if c == '\u2028' || c == '\u2029' then c else '\n'
        if startsSeparator s then ([b], s, 0, true)
        else
          let (bs, rest, column, separated) := plainBreaks 0 s
          (b :: bs, rest, column, separated)
    else ([], c :: s, column, false)

/-- Reads the gap after a stretch of a plain scalar. -/
def plainGap (s : List Char) : PlainGap :=
  let spaces := s.takeWhile (· == ' ')
  let t := s.drop spaces.length
  match lineBreak? t with
  | none => ⟨spaces, t, none, false⟩
  | some (first, t) =>
    if startsSeparator t then ⟨[], t, some 0, true⟩
    else
      let (others, rest, column, separated) := plainBreaks 0 t
      ⟨folded first others, rest, some column, separated⟩

/-- A plain scalar, and whether a line ended behind its last stretch. -/
structure Plain where
  content : List Char
  rest : List Char
  lineEnded : Bool
  deriving Repr, DecidableEq, Inhabited

/-- Reads a plain scalar of at most so many stretches; its lines are indented by some columns
unless it stands in a flow collection. -/
def plainWithin (flow : Bool) (indent : Int) : Nat → List Char → Plain
  | 0, s => ⟨[], s, false⟩
  | n + 1, s =>
    if s.head? == some '#' then ⟨[], s, false⟩
    else
      let stretch := plainStretch flow s
      if stretch.content.isEmpty then ⟨[], s, false⟩
      else
        let gap := plainGap stretch.rest
        let lineEnded := gap.column.isSome
        let outdented := match gap.column with
          | some column => !flow && (column : Int) < indent
          | none => false
        if gap.separated || gap.content.isEmpty || gap.rest.head? == some '#' || outdented then
          ⟨stretch.content, gap.rest, lineEnded⟩
        else
          let more := plainWithin flow indent n gap.rest
          if more.content.isEmpty then ⟨stretch.content, more.rest, lineEnded⟩
          else { more with content := stretch.content ++ gap.content ++ more.content }

/-- Reads a plain scalar. -/
def plain (flow : Bool) (indent : Int) (s : List Char) : Plain :=
  plainWithin flow indent s.length s

/-! ## Quoted scalars -/

/-- The line ends of a gap inside a quoted scalar; no separator of documents may follow one. -/
def quotedBreaks : Nat → List Char → Except Fault Scanned
  | 0, _ => .error .malformed
  | n + 1, s =>
    if startsSeparator s then .error .malformed
    else
      let t := s.dropWhile fun c => c == ' ' || c == '\t'
      match lineBreak? t with
      | some (b, t) => (quotedBreaks n t).map (Scanned.after b)
      | none => .ok ⟨[], t⟩

/-- A gap inside a quoted scalar. -/
def quotedGap (bound : Nat) (s : List Char) : Except Fault Scanned :=
  let spaces := s.takeWhile fun c => c == ' ' || c == '\t'
  let t := s.drop spaces.length
  match lineBreak? t with
  | some (first, t) =>
    (quotedBreaks bound t).map fun r => { r with content := folded first r.content }
  | none => if t.isEmpty then .error .malformed else .ok ⟨spaces, t⟩

/-- What follows a backslash between double quotes. -/
def escape (bound : Nat) (s : List Char) : Except Fault Scanned :=
  match s with
  | [] => .error .malformed
  | c :: t =>
    match escapes.lookup c, numericEscapes.lookup c with
    | some d, _ => .ok ⟨[d], t⟩
    | none, some length =>
      let ds := t.take length
      if ds.length = length && ds.all Text.isHexDigit then
        (characterOf (Text.ofHexadecimal ds)).map fun d => ⟨[d], t.drop length⟩
      else .error .malformed
    | none, none =>
      match lineBreak? s with
      | some (_, t) => quotedBreaks bound t
      | none => .error .malformed

/-- Reads a quoted scalar after its opening quote, of at most so many parts. -/
def quotedWithin (quote : Char) : Nat → List Char → Except Fault Scanned
  | 0, _ => .error .malformed
  | _, [] => .error .malformed
  | n + 1, c :: s =>
    if c = quote then
      match s with
      | d :: t =>
        if quote = '\'' && d = '\'' then
          (quotedWithin quote n t).map (Scanned.after ['\''])
        else .ok ⟨[], s⟩
      | [] => .ok ⟨[], []⟩
    else if quote = '"' && c = '\\' then do
      let r ← escape n s
      (quotedWithin quote n r.rest).map (Scanned.after r.content)
    else if isGap c then do
      let r ← quotedGap n (c :: s)
      (quotedWithin quote n r.rest).map (Scanned.after r.content)
    else (quotedWithin quote n s).map (Scanned.after [c])

/-- Reads a quoted scalar after its opening quote. -/
def quoted (quote : Char) (s : List Char) : Except Fault Scanned :=
  quotedWithin quote (s.length + 1) s

/-! ## Block scalars -/

/-- What becomes of the line ends at the end of a block: one is kept unless said otherwise. -/
inductive Chomping where
  | clip
  | strip
  | keep
  deriving Repr, DecidableEq, Inhabited

/-- The marks behind the sign of a block: how it ends, and by how much it is indented. -/
structure BlockMarks where
  chomping : Chomping := .clip
  increment : Option Nat := none
  deriving Repr, DecidableEq, Inhabited

def chomping? (s : List Char) : Option (Chomping × List Char) :=
  match s with
  | '+' :: t => some (.keep, t)
  | '-' :: t => some (.strip, t)
  | _ => none

def increment? (s : List Char) : Option (Nat × List Char) :=
  match s with
  | c :: t => (Text.digit? 10 c).map fun n => (n, t)
  | [] => none

/-- Reads the marks behind the sign of a block, in either order. -/
def blockMarks (s : List Char) : Except Fault (BlockMarks × List Char) :=
  let checked (m : BlockMarks) (rest : List Char) : Except Fault (BlockMarks × List Char) :=
    if m.increment = some 0 || !startsSpace rest then .error .malformed else .ok (m, rest)
  match chomping? s with
  | some (chomping, t) =>
    match increment? t with
    | some (n, u) => checked ⟨chomping, some n⟩ u
    | none => checked ⟨chomping, none⟩ t
  | none =>
    match increment? s with
    | some (n, t) =>
      match chomping? t with
      | some (chomping, u) => checked ⟨chomping, some n⟩ u
      | none => checked ⟨.clip, some n⟩ t
    | none => checked {} s

/-- Passes over the rest of a line, on which only a comment may stand. -/
def skipLine (s : List Char) : Except Fault (List Char) :=
  let t := s.dropWhile (· == ' ')
  let t := if t.head? == some '#' then t.dropWhile fun c => !isBreak c else t
  match lineBreak? t with
  | some (_, u) => .ok u
  | none => if t.isEmpty then .ok [] else .error .malformed

/-- Blank lines before the first line of a block: their ends, the widest indentation, the column
of the text after them, and that text. -/
def leadingBlanks : Nat → Nat → Nat → List Char → List Char × Nat × Nat × List Char
  | 0, widest, column, s => ([], widest, column, s)
  | n + 1, widest, column, s =>
    match s with
    | ' ' :: t => leadingBlanks n (max widest (column + 1)) (column + 1) t
    | _ =>
      match lineBreak? s with
      | some (b, t) =>
        let (bs, r) := leadingBlanks n widest 0 t
        (b ++ bs, r)
      | none => ([], widest, column, s)

/-- Blank lines inside a block: their ends, the column of the text after them, and that text. -/
def innerBlanks (indent : Nat) : Nat → List Char → List Char × Nat × List Char
  | 0, s => ([], 0, s)
  | n + 1, s =>
    let column := min indent (s.takeWhile (· == ' ')).length
    let t := s.drop column
    match lineBreak? t with
    | some (b, u) =>
      let (bs, column, rest) := innerBlanks indent n u
      (b ++ bs, column, rest)
    | none => ([], column, t)

/-- Reads the lines of a block from one that is indented enough, if it is. -/
def blockLines (fold : Bool) (chomping : Chomping) (indent : Nat) :
    Nat → (breaks : List Char) → (column : Nat) → List Char → Scanned
  | 0, breaks, _, s => ⟨breaks, s⟩
  | n + 1, breaks, column, s =>
    if column ≠ indent || s.isEmpty then
      ⟨if chomping = .keep then breaks else [], s⟩
    else
      let body := s.takeWhile fun c => !isBreak c
      let t := s.drop body.length
      let (ending, t) := (lineBreak? t).getD ([], t)
      let (more, column, rest) := innerBlanks indent (t.length + 1) t
      if column = indent && !rest.isEmpty then
        let indented (u : List Char) := u.head? == some ' ' || u.head? == some '\t'
        let joint :=
          if fold && ending = ['\n'] && !indented s && !indented rest then
            if more.isEmpty then [' '] else []
          else ending
        (blockLines fold chomping indent n more column rest).after (breaks ++ body ++ joint)
      else
        let tail := match chomping with
          | .clip => ending
          | .strip => []
          | .keep => ending ++ more
        ⟨breaks ++ body ++ tail, rest⟩

/-- Reads a block after its sign; `outer` is the indentation of what it stands in. -/
def block (fold : Bool) (outer : Int) (s : List Char) : Except Fault Scanned := do
  let (marks, s) ← blockMarks s
  let s ← skipLine s
  let least := max 1 (outer + 1).toNat
  match marks.increment with
  | none =>
    let (breaks, widest, column, rest) := leadingBlanks (s.length + 1) 0 0 s
    let indent := max least widest
    return blockLines fold marks.chomping indent (rest.length + 1) breaks column rest
  | some n =>
    let indent := least + n - 1
    let (breaks, column, rest) := innerBlanks indent (s.length + 1) s
    return blockLines fold marks.chomping indent (rest.length + 1) breaks column rest

end PackageDoc.Yaml
