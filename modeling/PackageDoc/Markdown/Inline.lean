import PackageDoc.Markdown.Definition
import PackageDoc.Markdown.Emphasis
import PackageDoc.Markdown.Html

/-!
# Inline text

The text of paragraphs, headings and cells is read from left to right into pieces. Code spans,
links between angle brackets and raw HTML are read as soon as they start. An opening bracket starts
a new list of pieces, and when its closing bracket turns out to end a link or an image, these become
its content; otherwise both brackets are text. Emphasis is found in a finished list of pieces.

    content env s      the tokens for the text s

A reader that starts at a character says how many of those after it belong to what it found;
they are passed over, so that reading goes through the text once.
-/

namespace PackageDoc.Markdown

/-- What inline text can refer to, and which of its marks are in use. -/
structure Environment where
  definitions : List Definition := []
  /-- The keys of the footnotes that are defined, if footnotes are read at all. -/
  notes : Option (List (List Char)) := none
  strikethrough : Bool := false
  deriving Repr, Inhabited

namespace Inline

/-- The character that starts a code span. -/
def backtick : Char := Char.ofNat 96

/-! ## Code spans -/

/-- The code up to the next run of exactly so many backticks, and the characters that both take.
The length of the run that was just passed is kept. -/
def codeUpTo (length : Nat) : Nat → List Char → Option (List Char × Nat)
  | passed, [] => if passed = length then some ([], 0) else none
  | passed, c :: s =>
    if c = backtick then
      (codeUpTo length (passed + 1) s).map fun (code, taken) => (code, taken + 1)
    else if passed = length then some ([], 0)
    else (codeUpTo length 0 s).map fun (code, taken) =>
      (List.replicate passed backtick ++ c :: code, taken + 1)

/-- The content of a code span: line endings become spaces, and one space is removed from each end
if there is one at both and something else in between. -/
def codeText (s : List Char) : List Char :=
  let s := s.map fun c => if c = '\n' then ' ' else c
  if !s.all Text.isBlank && s.head? == some ' ' && s.getLast? == some ' ' then
    s.tail.dropLast
  else s

/-! ## Angle brackets -/

/-- Whether a character may be in the address of a link between angle brackets. -/
def isAddressPart (c : Char) : Bool :=
  c != '<' && c != '>' && 32 < c.toNat

/-- The address between angle brackets, given what stands behind the opening one. -/
def autolink? (s : List Char) : Option (List Char) :=
  let scheme := s.takeWhile fun c =>
    Html.isLetter c || Text.isDigit c || c == '.' || c == '+' || c == '-'
  let rest := (s.drop scheme.length).takeWhile isAddressPart
  if (scheme.head?.map Html.isLetter).getD false && 2 ≤ scheme.length && scheme.length ≤ 32 &&
      rest.head? == some ':' && (s.drop (scheme.length + rest.length)).head? == some '>' then
    some (scheme ++ rest)
  else none

/-- Whether a character may be in the local part of a mail address. -/
def isLocalPart (c : Char) : Bool :=
  Html.isLetter c || Text.isDigit c || ".!#$%&'*+/=?^_\x7b|\x7d~-".toList.contains c ||
    c == backtick

/-- Whether a text is a label of a host name. -/
def isHostLabel (s : List Char) : Bool :=
  !s.isEmpty && s.length ≤ 63 && s.all Html.isNamePart && s.head? != some '-' &&
    s.getLast? != some '-'

/-- The mail address between angle brackets, given what stands behind the opening one. -/
def mailAddress? (s : List Char) : Option (List Char) :=
  let name := s.takeWhile isLocalPart
  match s.drop name.length with
  | '@' :: t =>
    let host := t.takeWhile fun c => Html.isNamePart c || c == '.'
    if !name.isEmpty && (Text.splitAt '.' host).all isHostLabel &&
        (t.drop host.length).head? == some '>' then
      some (name ++ '@' :: host)
    else none
  | _ => none

/-- A link token. -/
def linkToken (kind : TokenKind) (target : Target) (children : List Token) : Token :=
  .mk kind "" none { url := some target.url, title := target.title } children

/-- What an opening angle bracket starts, and the characters after it that belong to it. -/
def angle? (s : List Char) : Option (Token × Nat) :=
  let text (address : List Char) : List Token := [.leaf .text (String.ofList address)]
  match autolink? s with
  | some address =>
    some (linkToken .link ⟨Address.ofText address, none⟩ (text address), address.length + 1)
  | none =>
    match mailAddress? s with
    | some address =>
      some (linkToken .link ⟨Address.ofText ("mailto:".toList ++ address), none⟩ (text address),
        address.length + 1)
    | none =>
      (Html.inline? s).map fun rest =>
        let taken := s.length - rest.length
        (.leaf .inlineHtml (String.ofList ('<' :: s.take taken)), taken)

/-! ## Links -/

/-- What the closing bracket of some text makes of it, given what follows: the target of a link,
and the characters that its address or label takes. A label that follows is the one that counts. -/
def targetAfter? (env : Environment) (inside rest : List Char) : Option (Target × Nat) :=
  let inline := match rest with
    | '(' :: s => (target? s).map fun (t, after) => (t, rest.length - after.length)
    | _ => none
  match inline with
  | some found => some found
  | none =>
    let own (taken : Nat) : Option (Target × Nat) :=
      if isLabel inside then (targetOf? env.definitions inside).map fun t => (t, taken) else none
    match rest with
    | '[' :: s =>
      match label? s with
      | some (label, after) =>
        if label.isEmpty then own 2
        else (targetOf? env.definitions label).map fun t => (t, rest.length - after.length)
      | none => own 0
    | _ => own 0

/-! ## Strikethrough -/

/-- The text up to the two tildes that end struck text, which follow neither white space nor a
tilde, unless that is escaped, and are followed by no third one. -/
def struck? (before : List Char) : List Char → Option (List Char)
  | [] => none
  | c :: s =>
    let ends := match s with
      | '~' :: '~' :: t => t.head? != some '~'
      | _ => false
    let fits := if c = '~' then before.head? == some '\\' else !Text.isBlank c
    if ends && fits then some (c :: before).reverse else struck? (c :: before) s

/-! ## Reading -/

/-- An opening bracket that waits for its closing one. -/
structure Frame where
  image : Bool
  /-- Whether a link may start here; none may once there is a link behind it. -/
  active : Bool
  /-- The pieces before it, newest first. -/
  outer : List Piece
  /-- The text after it. -/
  source : List Char
  deriving Repr, Inhabited

/-- The pieces read so far, newest first, the open brackets, innermost first, and the character
that was read last. -/
structure State where
  pieces : List Piece := []
  frames : List Frame := []
  last : Option Char := none
  deriving Repr, Inhabited

namespace State

/-- Adds a piece. -/
def push (p : Piece) (st : State) : State :=
  { st with pieces := p :: st.pieces }

/-- Adds text. -/
def pushText (s : List Char) (st : State) : State :=
  st.push (.text s)

/-- Starts a new list of pieces. -/
def openFrame (image : Bool) (source : List Char) (st : State) : State :=
  { st with pieces := [], frames := ⟨image, true, st.pieces, source⟩ :: st.frames }

/-- The pieces of a frame that is no link. -/
def unframed (f : Frame) (pieces : List Piece) : List Piece :=
  pieces ++ .text (if f.image then ['!', '['] else ['[']) :: f.outer

/-- The pieces when no more text comes, oldest first. -/
def finish (st : State) : List Piece :=
  (st.frames.foldl (fun ps f => unframed f ps) st.pieces).reverse

/-- A closing bracket before some text, and the characters of it that belong to it. -/
def closeFrame (env : Environment) (rest : List Char) (st : State) : State × Nat :=
  match st.frames with
  | [] => (st.pushText [']'], 0)
  | f :: fs =>
    let asText : State := { st with pieces := .text [']'] :: unframed f st.pieces, frames := fs }
    if !f.active then (asText, 0)
    else
      let inside := f.source.take (f.source.length - rest.length - 1)
      match targetAfter? env inside rest with
      | none => (asText, 0)
      | some (target, taken) =>
        let children := resolve st.pieces.reverse
        let kind := if f.image then TokenKind.image else TokenKind.link
        let fs := if f.image then fs else
          fs.map fun g => if g.image then g else { g with active := false }
        ({ st with pieces := .token (linkToken kind target children) :: f.outer, frames := fs },
          taken)

end State

/-- The escapes that a text starts with, without their backslashes. -/
def escapes : List Char → List Char
  | '\\' :: c :: s => if isEscapable c then c :: escapes s else []
  | _ => []

/-- The length of the white space that a text starts with. -/
def blanks (s : List Char) : Nat :=
  (s.takeWhile Text.isBlank).length

/-- The run of a character that was just read. -/
def runLength (c : Char) (s : List Char) : Nat :=
  (s.takeWhile (· == c)).length

/-- A line ending behind spaces and before white space, given the text after it. -/
def lineBreak (hard : Bool) (st : State) : State :=
  st.push (.token (.leaf (if hard then .hardBreak else .softBreak) ""))

/-- A footnote reference: its key and the characters it takes after its bracket. -/
def noteReference? (s : List Char) : Option (List Char × Nat) :=
  match s with
  | '^' :: t => (labelWithin 500 t).map fun (label, rest) => (label, s.length - rest.length)
  | _ => none

/-- An opening bracket. -/
def openBracket (env : Environment) (s : List Char) (st : State) : State × Nat :=
  match env.notes, noteReference? s with
  | some keys, some (label, taken) =>
    let key := normalLabel label
    if keys.contains key then
      (st.push (.token (.leaf .footnoteReference (String.ofList key))), taken)
    else (st.pushText ('[' :: s.take taken), taken)
  | _, _ => (st.openFrame false s, 0)

/-- Reads what starts with a character, given the text after it and a reader for struck text:
the state after it, and the characters of that text that belong to it. -/
def step (env : Environment) (struck : List Char → List Token) (c : Char) (s : List Char)
    (st : State) : State × Nat :=
  if c = '\\' then
    match s with
    | '\n' :: t => (lineBreak true st, 1 + blanks t)
    | _ =>
      let es := escapes (c :: s)
      if es.isEmpty then (st.pushText [c], 0) else (st.push (.escaped es), 2 * es.length - 1)
  else if c = '\n' then (lineBreak false st, blanks s)
  else if c = ' ' then
    let more := runLength ' ' s
    match s.drop more with
    | '\n' :: t => (lineBreak (1 ≤ more) st, more + 1 + blanks t)
    | _ => (st.pushText (c :: s.take more), more)
  else if c = backtick then
    let more := runLength c s
    match codeUpTo (more + 1) 0 (s.drop more) with
    | some (code, taken) =>
      (st.push (.token (.leaf .codeSpan (String.ofList (codeText code)))), more + taken)
    | none => (st.pushText (c :: s.take more), more)
  else if c = '*' || c = '_' then
    let more := runLength c s
    (st.push (.run (Run.between st.last c (more + 1) (s.drop more).head?)), more)
  else if c = '[' then openBracket env s st
  else if c = '!' && s.head? == some '[' then (st.openFrame true (s.drop 1), 1)
  else if c = ']' then st.closeFrame env s
  else if c = '<' then
    match angle? s with
    | some (t, taken) => (st.push (.token t), taken)
    | none => (st.pushText [c], 0)
  else if c = '~' && env.strikethrough then
    match s with
    | '~' :: d :: t =>
      if Text.isBlank d || d = '~' then (st.pushText [c], 0)
      else match struck? [] (d :: t) with
        | some inside =>
          (st.push (.token (.branch .strikethrough (struck inside))), inside.length + 3)
        | none => (st.pushText [c], 0)
    | _ => (st.pushText [c], 0)
  else (st.pushText [c], 0)

/-- Reads a text, less the characters at its start that were accounted for before. -/
def scan (env : Environment) (struck : List Char → List Token) : Nat → State → List Char → State
  | _, st, [] => st
  | n + 1, st, c :: s => scan env struck n { st with last := some c } s
  | 0, st, c :: s =>
    let (st, n) := step env struck c s st
    scan env struck n { st with last := some c } s

/-- The tokens for a text in which struck text is nested at most so deep. -/
def tokensWithin (env : Environment) : Nat → List Char → List Token
  | 0, s => [.leaf .text (String.ofList s)]
  | depth + 1, s => resolve (scan env (tokensWithin env depth) 0 {} s).finish

/-- The tokens for a text. Struck text is shorter than what it stands in, so that the length of
the text bounds its depth. -/
def tokens (env : Environment) (s : List Char) : List Token :=
  tokensWithin env (s.length + 1) s

/-- The white space that inline text is stripped of. -/
def isMargin (c : Char) : Bool :=
  c == ' ' || c == '\r' || c == '\n' || c == '\t' || c == '\x0c'

/-- The tokens for the content of a block; no content is an empty text. -/
def content (env : Environment) (s : List Char) : List Token :=
  let s := Text.dropEndWhile isMargin (s.dropWhile isMargin)
  if s.isEmpty then [.leaf .text ""] else tokens env s

end Inline

end PackageDoc.Markdown
