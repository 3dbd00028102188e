import PackageDoc.Toml.Scalar

/-!
# Documents of TOML

A document is made of lines that give a key its value, and of headers that open a table or a
further element of an array of tables. Keys with points in them open tables on their way. What was
opened by its own header, by a key with points in an earlier section, or as part of a value cannot
be opened again.

    load s          the table that the text s writes
-/

namespace PackageDoc.Toml

/-! ## Tables -/

/-- The parts of a key between its points. -/
abbrev Key := List String

/-- Changes the table at the end of a path, making the tables on the way that are missing. A list
on the way stands for its last element if `throughLists` says so. None if there is no table. -/
def changeAt (throughLists : Bool) (change : Fields → Option Fields) :
    Key → Fields → Option Fields
  | [], fields => change fields
  | k :: ks, fields =>
    let put (v : Value) : Fields := Fields.set (.text k) v fields
    match Fields.get? (.text k) fields with
    | none => (changeAt throughLists change ks []).map fun f => put (.map f)
    | some (.map f) => (changeAt throughLists change ks f).map fun f => put (.map f)
    | some (.list items) =>
      if !throughLists then none
      else match items.getLast? with
        | some (.map f) =>
          (changeAt throughLists change ks f).map fun f =>
            put (.list (items.dropLast ++ [.map f]))
        | _ => none
    | some _ => none

/-- Gives a key of a table its value; it must have none. -/
def addField (k : String) (v : Value) (fields : Fields) : Option Fields :=
  match Fields.get? (.text k) fields with
  | none => some (Fields.set (.text k) v fields)
  | some _ => none

/-- Adds an empty table to the array that a key stands for. -/
def addElement (k : String) (fields : Fields) : Option Fields :=
  match Fields.get? (.text k) fields with
  | none => some (Fields.set (.text k) (.list [.map []]) fields)
  | some (.list items) => some (Fields.set (.text k) (.list (items ++ [.map []])) fields)
  | some _ => none

/-! ## What is closed -/

/-- What must not be done to a key any more. -/
inductive Mark where
  /-- It must not be opened again. -/
  | opened
  /-- Nothing may be changed in it or below it. -/
  | frozen
  deriving Repr, DecidableEq, Inhabited

/-- Keys with their marks. -/
abbrev Marks := List (Key × Mark)

/-- Whether a key is marked. A frozen key freezes all keys below it. -/
def Marks.has (marks : Marks) (k : Key) (m : Mark) : Bool :=
  !k.isEmpty && marks.any fun (l, n) =>
    n = m && (if m = .frozen then l.isPrefixOf k else l = k)

/-- The marks less those of a key and the keys below it. -/
def Marks.release (marks : Marks) (k : Key) : Marks :=
  marks.filter fun (l, _) => !k.isPrefixOf l

/-! ## Keys -/

/-- Whether a character may be in a key without quotes. -/
def isBareKey (c : Char) : Bool :=
  ('a' ≤ c && c ≤ 'z') || ('A' ≤ c && c ≤ 'Z') || Text.isDigit c || c == '-' || c == '_'

/-- Reads one part of a key. -/
def keyPart (s : List Char) : Parsed String :=
  match s with
  | [] => .error .malformed
  | c :: t =>
    if isBareKey c then
      let name := s.takeWhile isBareKey
      .ok (String.ofList name, s.drop name.length)
    else if c = '\'' || c = '"' then
      (lineString c t).map fun (name, rest) => (String.ofList name, rest)
    else .error .malformed

/-- Reads a key of at most so many parts, and the spaces after it. -/
def keyWithin : Nat → List Char → Except Fault (Key × List Char)
  | 0, _ => .error .malformed
  | n + 1, s => do
    let (part, rest) ← keyPart s
    match skipSpaces rest with
    | '.' :: t =>
      let (parts, rest) ← keyWithin n (skipSpaces t)
      return (part :: parts, rest)
    | t => return ([part], t)

/-- Reads a key, and the spaces after it. -/
def key (s : List Char) : Parsed Key :=
  keyWithin (s.length + 1) s

/-! ## Values -/

/-- A text without the white space and comments that it starts with, at most so many. -/
def skipGaps : Nat → List Char → Except Fault (List Char)
  | 0, s => .ok s
  | n + 1, s => do
    let t ← skipComment (skipBlanks s)
    if t.length = s.length then return s else skipGaps n t

/-- A table in braces while it is read. -/
structure Inline where
  fields : Fields := []
  marks : Marks := []
  deriving Inhabited

/-- Adds a field to a table in braces. A value that is a list or a table is closed. -/
def Inline.add (t : Inline) (k : Key) (v : Value) : Except Fault Inline :=
  if t.marks.has k .frozen then .error .malformed
  else match changeAt false (addField (k.getLast?.getD "") v) k.dropLast t.fields with
    | none => .error .malformed
    | some fields =>
      let marks := match v with
        | .list _ => (k, .frozen) :: t.marks
        | .map _ => (k, .frozen) :: t.marks
        | _ => t.marks
      .ok { fields, marks }

mutual

/-- Reads a value. Every step takes one of so many. -/
def value : Nat → List Char → Except Fault (Value × List Char)
  | 0, _ => .error .malformed
  | n + 1, s =>
    match s with
    | [] => .error .malformed
    | c :: t =>
      if c = '"' || c = '\'' then
        (string c t).map fun (r, rest) => (.text (String.ofList r), rest)
      else if c = '[' then do
        let t ← skipGaps n t
        let (items, rest) ← elements n t
        return (.list items, rest)
      else if c = '\x7b' then
        match skipSpaces t with
        | '\x7d' :: rest => .ok (.map [], rest)
        | u => inlineFields n {} u
      else (scalar s).map fun (v, rest) => (.scalar v, rest)

/-- The elements of an array up to its closing bracket. -/
def elements : Nat → List Char → Except Fault (List Value × List Char)
  | 0, _ => .error .malformed
  | n + 1, s =>
    match s with
    | ']' :: rest => .ok ([], rest)
    | _ => do
      let (v, t) ← value n s
      match (← skipGaps n t) with
      | ']' :: rest => return ([v], rest)
      | ',' :: u =>
        let (vs, rest) ← elements n (← skipGaps n u)
        return (v :: vs, rest)
      | _ => .error .malformed

/-- The fields of a table in braces up to its closing brace. -/
def inlineFields : Nat → Inline → List Char → Except Fault (Value × List Char)
  | 0, _, _ => .error .malformed
  | n + 1, table, s => do
    let (k, v, t) ← keyValue n s
    let table ← table.add k v
    match skipSpaces t with
    | '\x7d' :: rest => return (.map table.fields, rest)
    | ',' :: u => inlineFields n table (skipSpaces u)
    | _ => .error .malformed

/-- A key, an equals sign and a value. -/
def keyValue : Nat → List Char → Except Fault (Key × Value × List Char)
  | 0, _ => .error .malformed
  | n + 1, s => do
    let (k, t) ← key s
    match t with
    | '=' :: u =>
      let (v, rest) ← value n (skipSpaces u)
      return (k, v, rest)
    | _ => .error .malformed

end

/-! ## Documents -/

/-- A document while it is read. -/
structure Draft where
  fields : Fields := []
  marks : Marks := []
  /-- The tables that keys with points opened since the last header. -/
  pending : List Key := []
  /-- The table that the last header opened. -/
  header : Key := []
  deriving Inhabited

namespace Draft

/-- The draft at a header: tables that were opened on the way are closed. -/
def endSection (d : Draft) : Draft :=
  { d with marks := d.pending.map (·, .opened) ++ d.marks, pending := [] }

/-- A header that opens a table. -/
def openTable (d : Draft) (k : Key) : Except Fault Draft :=
  if d.marks.has k .opened || d.marks.has k .frozen then .error .malformed
  else match changeAt true some k d.fields with
    | none => .error .malformed
    | some fields => .ok { d with fields, marks := (k, .opened) :: d.marks, header := k }

/-- A header that opens a further element of an array. -/
def openElement (d : Draft) (k : Key) : Except Fault Draft :=
  if d.marks.has k .frozen then .error .malformed
  else match changeAt true (addElement (k.getLast?.getD "")) k.dropLast d.fields with
    | none => .error .malformed
    | some fields =>
      .ok { d with fields, marks := (k, .opened) :: d.marks.release k, header := k }

/-- A key with its value in the present table. -/
def define (d : Draft) (k : Key) (v : Value) : Except Fault Draft :=
  let onTheWay := (List.range (k.length - 1)).map fun i => d.header ++ k.take (i + 1)
  let parent := d.header ++ k.dropLast
  if (onTheWay.any fun p => d.marks.has p .opened) || d.marks.has parent .frozen then
    .error .malformed
  else match changeAt true (addField (k.getLast?.getD "") v) parent d.fields with
    | none => .error .malformed
    | some fields =>
      let marks := match v with
        | .list _ => (d.header ++ k, .frozen) :: d.marks
        | .map _ => (d.header ++ k, .frozen) :: d.marks
        | _ => d.marks
      .ok { d with fields, marks, pending := onTheWay ++ d.pending }

/-- Reads what stands on a line before its end. -/
def statement (d : Draft) (s : List Char) : Except Fault (Draft × List Char) :=
  match s with
  | '[' :: '[' :: t => do
    let (k, t) ← key (skipSpaces t)
    let d ← d.endSection.openElement k
    match t with
    | ']' :: ']' :: rest => return (d, rest)
    | _ => .error .malformed
  | '[' :: t => do
    let (k, t) ← key (skipSpaces t)
    let d ← d.endSection.openTable k
    match t with
    | ']' :: rest => return (d, rest)
    | _ => .error .malformed
  | c :: _ =>
    if isBareKey c || c = '\'' || c = '"' then do
      let (k, v, rest) ← keyValue (2 * s.length + 4) s
      return (← d.define k v, rest)
    else if c = '#' then .ok (d, s)
    else .error .malformed
  | [] => .ok (d, [])

/-- Reads at most so many lines. -/
def readWithin : Nat → Draft → List Char → Except Fault Draft
  | 0, d, _ => .ok d
  | n + 1, d, s =>
    match skipSpaces s with
    | [] => .ok d
    | '\n' :: t => readWithin n d t
    | t => do
      let (d, rest) ← d.statement t
      match (← skipComment (skipSpaces rest)) with
      | [] => return d
      | '\n' :: u => readWithin n d u
      | _ => .error .malformed

end Draft

/-- A text in which every carriage return before a line feed is left out. -/
def unifyLines : List Char → List Char
  | [] => []
  | '\r' :: '\n' :: s => '\n' :: unifyLines s
  | c :: s => c :: unifyLines s

/-- The table that a text writes. -/
def load (s : List Char) : Except Fault Fields :=
  let t := unifyLines s
  (Draft.readWithin (t.length + 1) {} t).map Draft.fields

end PackageDoc.Toml
