import PackageDoc.Yaml.Scalar

/-!
# Tokens of YAML

The tokens of a text. Collections by indentation have tokens for their beginning and end like those
in brackets. A key of a mapping is known to be one only when a colon is found after it; then the
tokens that announce it are put in front of it, and so a possible key remembers how many tokens
were before it.

    tokens s = the tokens of s, up to `finish`, or with `broken` where s is not well formed
-/

namespace PackageDoc.Yaml

inductive Token where
  /-- A directive with the handle and beginning of tags that it declares, or the version. -/
  | tagDirective (handle start : List Char)
  | versionDirective (major : Nat)
  | otherDirective
  | documentStart
  | documentEnd
  | blockSequence
  | blockMapping
  | blockEnd
  | flowSequence
  | flowSequenceEnd
  | flowMapping
  | flowMappingEnd
  | blockEntry
  | flowEntry
  | key
  | value
  | alias (name : List Char)
  | anchor (name : List Char)
  | tag (handle : Option (List Char)) (suffix : List Char)
  | scalar (content : List Char) (plain : Bool)
  | finish
  | broken (f : Fault)
  deriving Repr, DecidableEq, Inhabited

/-! ## Where the scanner stands -/

/-- A possible key. -/
structure PossibleKey where
  /-- The tokens before it. -/
  tokens : Nat
  /-- Whether nothing but a key can stand here. -/
  required : Bool
  index : Nat
  line : Nat
  column : Nat
  deriving Repr, DecidableEq, Inhabited

/-- The state of the scanner. -/
structure Scanner where
  rest : List Char
  index : Nat := 0
  line : Nat := 0
  column : Nat := 0
  /-- The tokens so far, newest first. -/
  tokens : List Token := []
  /-- The indentation of the innermost collection, and of those around it. -/
  indent : Int := -1
  indents : List Int := []
  /-- How many brackets are open. -/
  depth : Nat := 0
  keyAllowed : Bool := true
  /-- The possible key inside so many brackets. -/
  keys : List (Nat × PossibleKey) := []
  deriving Repr, Inhabited

namespace Scanner

/-- Moves over characters. -/
def advance : Nat → Scanner → Scanner
  | 0, s => s
  | n + 1, s =>
    match s.rest with
    | [] => s
    | c :: rest =>
      let ends := c == '\n' || c == '\x85' || c == '\u2028' || c == '\u2029' ||
        (c == '\r' && rest.head? != some '\n')
      advance n { s with
        rest := rest
        index := s.index + 1
        line := if ends then s.line + 1 else s.line
        column := if ends then 0 else if c = '\uFEFF' then s.column else s.column + 1 }

/-- Moves to where a text ends that was read from here. -/
def goTo (rest : List Char) (s : Scanner) : Scanner :=
  s.advance (s.rest.length - rest.length)

/-- Adds a token. -/
def emit (t : Token) (s : Scanner) : Scanner :=
  { s with tokens := t :: s.tokens }

/-- Puts a token in front of all but the first so many. -/
def insertAfter (count : Nat) (t : Token) (s : Scanner) : Scanner :=
  let newer := s.tokens.length - count
  { s with tokens := s.tokens.take newer ++ t :: s.tokens.drop newer }

/-! ## Possible keys -/

/-- The possible key inside the present brackets. -/
def key? (s : Scanner) : Option PossibleKey :=
  s.keys.lookup s.depth

/-- Forgets the possible key inside the present brackets; a required one must not be. -/
def dropKey (s : Scanner) : Except Fault Scanner :=
  match s.key? with
  | some k =>
    if k.required then .error .malformed
    else .ok { s with keys := s.keys.filter (·.1 != s.depth) }
  | none => .ok s

/-- Remembers that a key may start here. -/
def saveKey (s : Scanner) : Except Fault Scanner :=
  if s.keyAllowed then do
    let s ← s.dropKey
    let required := s.depth == 0 && s.indent == s.column
    return { s with
      keys := (s.depth, ⟨s.tokens.length, required, s.index, s.line, s.column⟩) :: s.keys }
  else .ok s

/-- Whether a possible key cannot become one any more: it must stand on one line and not be
long. -/
def isStale (s : Scanner) (k : PossibleKey) : Bool :=
  k.line != s.line || 1024 < s.index - k.index

/-- How many tokens stand before the first possible key. It must be known whether it is one before
the token after these is handed out. -/
def settled (s : Scanner) : Nat :=
  (s.keys.filter fun k => !s.isStale k.2).foldl (fun n k => min n k.2.tokens) s.tokens.length

/-- Forgets the possible keys that cannot become keys any more. -/
def dropStaleKeys (s : Scanner) : Except Fault Scanner :=
  if s.keys.any fun k => s.isStale k.2 && k.2.required then .error .malformed
  else .ok { s with keys := s.keys.filter fun k => !s.isStale k.2 }

/-! ## Indentation -/

/-- Closes the collections that are indented by more than a column. -/
def unwindWithin (column : Int) : Nat → Scanner → Scanner
  | 0, s => s
  | n + 1, s =>
    if s.indent ≤ column then s
    else
      unwindWithin column n
        ({ s with indent := s.indents.headD (-1), indents := s.indents.tail }.emit .blockEnd)

/-- Closes the collections that are indented by more than a column, unless brackets are open. -/
def unwind (column : Int) (s : Scanner) : Scanner :=
  if s.depth = 0 then unwindWithin column (s.indents.length + 1) s else s

/-- Whether a column is indented by more than the innermost collection. -/
def indentsTo (column : Nat) (s : Scanner) : Bool :=
  s.indent < column

/-- Makes a column the indentation of the innermost collection. -/
def pushIndent (column : Nat) (s : Scanner) : Scanner :=
  { s with indent := column, indents := s.indent :: s.indents }

/-! ## Gaps -/

/-- Moves over spaces, comments and line ends; a key may start on a new line outside brackets. -/
def toNextToken : Nat → Scanner → Scanner
  | 0, s => s
  | n + 1, s =>
    let s := s.advance (s.rest.takeWhile (· == ' ')).length
    let s :=
      if s.rest.head? == some '#' then s.advance (s.rest.takeWhile fun c => !isBreak c).length
      else s
    match lineBreak? s.rest with
    | some (_, rest) =>
      toNextToken n { s.goTo rest with keyAllowed := s.keyAllowed || s.depth == 0 }
    | none => s

/-! ## Directives -/

/-- Passes over the rest of the line of a directive. -/
def endDirective (rest : List Char) : Except Fault (List Char) :=
  skipLine rest

/-- The number that a text starts with. -/
def number (s : List Char) : Except Fault (Nat × List Char) :=
  let ds := s.takeWhile Text.isDigit
  if ds.isEmpty then .error .malformed
  else if Text.maxDigits < ds.length then .error (.tooManyDigits ds.length)
  else .ok (Text.ofDigits 10 ds, s.drop ds.length)

/-- Reads a version after its directive. -/
def version (s : List Char) : Except Fault (Token × List Char) := do
  let (major, s) ← number (s.dropWhile (· == ' '))
  match s with
  | '.' :: s =>
    let (_, s) ← number s
    if startsSpace s then .ok (.versionDirective major, s) else .error .malformed
  | _ => .error .malformed

/-- Reads the handle of a tag: a mark of exclamation, or a name between two of them. -/
def tagHandle (s : List Char) : Except Fault (List Char × List Char) :=
  match s with
  | '!' :: t =>
    if t.head? == some ' ' then .ok (['!'], t)
    else
      let name := t.takeWhile isNamePart
      match t.drop name.length with
      | '!' :: u => .ok ('!' :: name ++ ['!'], u)
      | _ => .error .malformed
  | _ => .error .malformed

/-- Whether a character may be in a tag. -/
def isUriPart (c : Char) : Bool :=
  isNamePart c || ";/?:@&=+$,_.!~*'()[]%".toList.contains c

/-- Bytes written as percent signs with two hexadecimal digits each, and the rest. -/
def uriBytes : List Char → Except Fault (List UInt8 × List Char)
  | '%' :: a :: b :: s =>
    match Text.hexDigit? a, Text.hexDigit? b with
    | some x, some y =>
      (uriBytes s).map fun (bs, rest) => (UInt8.ofNat (x * 16 + y) :: bs, rest)
    | _, _ => .error .malformed
  | '%' :: _ => .error .malformed
  | s => .ok ([], s)

/-- Reads the text of a tag in so many parts. -/
def uriWithin : Nat → List Char → Except Fault Scanned
  | 0, s => .ok ⟨[], s⟩
  | n + 1, s =>
    match s with
    | [] => .ok ⟨[], []⟩
    | c :: t =>
      if c = '%' then do
        let (bs, rest) ← uriBytes s
        match String.fromUTF8? ⟨bs.toArray⟩ with
        | some text => (uriWithin n rest).map (Scanned.after text.toList)
        | none => .error .malformed
      else if isUriPart c then (uriWithin n t).map (Scanned.after [c])
      else .ok ⟨[], s⟩

/-- Reads the text of a tag. -/
def uri (s : List Char) : Except Fault Scanned := do
  let r ← uriWithin (s.length + 1) s
  if r.rest.length = s.length then .error .malformed else .ok r

/-- Reads the declaration of a handle after its directive. -/
def tagDirective (s : List Char) : Except Fault (Token × List Char) := do
  let (handle, s) ← tagHandle (s.dropWhile (· == ' '))
  if s.head? != some ' ' then .error .malformed
  else
    let r ← uri (s.dropWhile (· == ' '))
    if startsSpace r.rest then .ok (.tagDirective handle r.content, r.rest)
    else .error .malformed

/-- Reads a directive after its percent sign. -/
def directive (s : List Char) : Except Fault (Token × List Char) := do
  let name := s.takeWhile isNamePart
  let rest := s.drop name.length
  if name.isEmpty || !startsSpace rest then .error .malformed
  else
    let (t, rest) ←
      if name = "YAML".toList then version rest
      else if name = "TAG".toList then tagDirective rest
      else .ok (.otherDirective, rest.dropWhile fun c => !isBreak c)
    return (t, ← endDirective rest)

/-! ## Anchors and tags -/

/-- Reads the name of an anchor or alias. -/
def anchorName (s : List Char) : Except Fault (List Char × List Char) :=
  let name := s.takeWhile isNamePart
  let rest := s.drop name.length
  let ends := match rest with
    | [] => true
    | c :: _ => isGap c || "?:,]\x7d%@".toList.contains c || c.toNat == 96
  if name.isEmpty || !ends then .error .malformed else .ok (name, rest)

/-- Whether a tag has a second mark of exclamation. -/
def hasHandle (s : List Char) : Bool :=
  (s.takeWhile fun c => c != ' ' && !isBreak c).contains '!'

/-- Reads a tag. -/
def tag (s : List Char) : Except Fault (Token × List Char) := do
  let body := s.drop 1
  let (t, rest) ←
    if body.head? == some '<' then do
      let r ← uri (body.drop 1)
      match r.rest with
      | '>' :: rest => Except.ok (Token.tag none r.content, rest)
      | _ => .error .malformed
    else if startsGap body then .ok (.tag none ['!'], body)
    else if hasHandle body then do
      let (handle, rest) ← tagHandle s
      let r ← uri rest
      .ok (.tag (some handle) r.content, r.rest)
    else do
      let r ← uri body
      .ok (.tag (some ['!']) r.content, r.rest)
  if startsSpace rest then .ok (t, rest) else .error .malformed

/-! ## Tokens -/

/-- A token that reading a text gave, with a possible key before it. -/
def fetchNode (s : Scanner) (t : Token) (rest : List Char) : Except Fault Scanner := do
  let s ← s.saveKey
  return { (s.goTo rest).emit t with keyAllowed := false }

/-- A marker of three characters at the start of a line. -/
def fetchMarker (s : Scanner) (t : Token) : Except Fault Scanner := do
  let s ← (s.unwind (-1)).dropKey
  return { (s.advance 3).emit t with keyAllowed := false }

/-- A percent sign at the start of a line. -/
def fetchDirective (s : Scanner) : Except Fault Scanner := do
  let s ← (s.unwind (-1)).dropKey
  let (t, rest) ← directive (s.rest.drop 1)
  return { (s.goTo rest).emit t with keyAllowed := false }

/-- An opening bracket. -/
def fetchOpen (s : Scanner) (t : Token) : Except Fault Scanner := do
  let s ← s.saveKey
  return { (s.advance 1).emit t with depth := s.depth + 1, keyAllowed := true }

/-- A closing bracket; there must be an open one. -/
def fetchClose (s : Scanner) (t : Token) : Except Fault Scanner := do
  let s ← s.dropKey
  if s.depth = 0 then .error .malformed
  else return { (s.advance 1).emit t with depth := s.depth - 1, keyAllowed := false }

/-- A comma between brackets. -/
def fetchFlowEntry (s : Scanner) : Except Fault Scanner := do
  let s ← s.dropKey
  return { (s.advance 1).emit .flowEntry with keyAllowed := true }

/-- Starts a collection at the present column, unless it goes on there. -/
def startBlock (t : Token) (s : Scanner) : Except Fault Scanner :=
  if s.depth ≠ 0 then .ok s
  else if !s.keyAllowed then .error .malformed
  else if s.indentsTo s.column then .ok ((s.pushIndent s.column).emit t)
  else .ok s

/-- The dash of an entry. -/
def fetchBlockEntry (s : Scanner) : Except Fault Scanner := do
  let s ← (← s.startBlock .blockSequence).dropKey
  return { (s.advance 1).emit .blockEntry with keyAllowed := true }

/-- The question mark of a key. -/
def fetchKey (s : Scanner) : Except Fault Scanner := do
  let s ← (← s.startBlock .blockMapping).dropKey
  return { (s.advance 1).emit .key with keyAllowed := s.depth == 0 }

/-- The colon of a value. If there is a possible key, it is one. -/
def fetchValue (s : Scanner) : Except Fault Scanner := do
  match s.key? with
  | some k =>
    let s := { s with keys := s.keys.filter (·.1 != s.depth), keyAllowed := false }
    let s := s.insertAfter k.tokens .key
    let s :=
      if s.depth = 0 && s.indentsTo k.column then
        (s.pushIndent k.column).insertAfter k.tokens .blockMapping
      else s
    return (s.advance 1).emit .value
  | none =>
    let s ← (← s.startBlock .blockMapping).dropKey
    return { (s.advance 1).emit .value with keyAllowed := s.depth == 0 }

/-- A block of lines. -/
def fetchBlockScalar (s : Scanner) (fold : Bool) : Except Fault Scanner := do
  let s ← s.dropKey
  let r ← block fold s.indent (s.rest.drop 1)
  return { (s.goTo r.rest).emit (.scalar r.content false) with keyAllowed := true }

/-- A scalar between quotes. -/
def fetchQuoted (s : Scanner) (quote : Char) : Except Fault Scanner := do
  let s ← s.saveKey
  let r ← quoted quote (s.rest.drop 1)
  return { (s.goTo r.rest).emit (.scalar r.content false) with keyAllowed := false }

/-- A plain scalar. -/
def fetchPlain (s : Scanner) : Except Fault Scanner := do
  let r := plain (s.depth != 0) (s.indent + 1) s.rest
  let s ← s.fetchNode (.scalar r.content true) r.rest
  return { s with keyAllowed := r.lineEnded }

/-- Whether a plain scalar starts here. -/
def startsPlain (s : Scanner) : Bool :=
  match s.rest with
  | [] => false
  | c :: t =>
    (!isGap c && !"-?:,[]\x7b\x7d#&*!|>'\"%@".toList.contains c && c.toNat != 96) ||
      (!startsGap t && (c == '-' || (s.depth == 0 && (c == '?' || c == ':'))))

/-- Reads the next token after a gap. -/
def fetch (s : Scanner) : Except Fault Scanner := do
  match s.rest with
  | [] =>
    let s ← (s.unwind (-1)).dropKey
    return s.emit .finish
  | c :: t =>
    let start := s.column == 0
    let bracketed := s.depth != 0
    if c = '%' && start then s.fetchDirective
    else if start && startsMarker '-' s.rest then s.fetchMarker .documentStart
    else if start && startsMarker '.' s.rest then s.fetchMarker .documentEnd
    else if c = '[' then s.fetchOpen .flowSequence
    else if c = '\x7b' then s.fetchOpen .flowMapping
    else if c = ']' then s.fetchClose .flowSequenceEnd
    else if c = '\x7d' then s.fetchClose .flowMappingEnd
    else if c = ',' then s.fetchFlowEntry
    else if c = '-' && startsGap t then s.fetchBlockEntry
    else if c = '?' && (bracketed || startsGap t) then s.fetchKey
    else if c = ':' && (bracketed || startsGap t) then s.fetchValue
    else if c = '*' then
      let (name, rest) ← anchorName t
      s.fetchNode (.alias name) rest
    else if c = '&' then
      let (name, rest) ← anchorName t
      s.fetchNode (.anchor name) rest
    else if c = '!' then
      let (tok, rest) ← tag s.rest
      s.fetchNode tok rest
    else if c = '|' && !bracketed then s.fetchBlockScalar false
    else if c = '>' && !bracketed then s.fetchBlockScalar true
    else if c = '\'' || c = '"' then s.fetchQuoted c
    else if s.startsPlain then s.fetchPlain
    else .error .malformed

/-- Reads at most so many tokens. The first fault ends them; it is met where the tokens before it
are handed out. -/
def run : Nat → Scanner → List Token
  | 0, s => s.tokens
  | n + 1, before =>
    let s := before.toNextToken (before.rest.length + 1)
    let attempt : Except Fault Scanner := do (((← s.dropStaleKeys).unwind s.column)).fetch
    match attempt with
    | .error f => (before.insertAfter before.settled (.broken f)).tokens
    | .ok next =>
      match next.tokens with
      | .finish :: _ => next.tokens
      | _ => run n next

end Scanner

/-- The text without the mark of byte order that it may start with. -/
def withoutMark : List Char → List Char
  | '\uFEFF' :: s => s
  | s => s

/-- The tokens of a text. Every token but the last takes at least one character. -/
def tokens (s : List Char) : List Token :=
  if s.all isAllowed then ((Scanner.run (s.length + 2) { rest := withoutMark s }).reverse)
  else [.broken .malformed]

end PackageDoc.Yaml
