import PackageDoc.Text.Hexadecimal

/-!
# Tags

The tag of a node says what its text means. A plain scalar without a tag is a truth value, a
number, a date, a merge key or nothing if it looks like one, and text otherwise.
-/

namespace PackageDoc.Yaml

/-- What a node means. -/
inductive Tag where
  | null
  | bool
  | int
  | float
  | binary
  | timestamp
  | pairs
  | set
  | text
  | sequence
  | mapping
  /-- The key that merges another mapping into one. -/
  | merge
  /-- The key of the value that stands for a mapping. -/
  | value
  | unknown
  deriving Repr, DecidableEq, Inhabited

namespace Tag

/-- The tags with values, by name. -/
def names : List (String × Tag) :=
  [("null", .null), ("bool", .bool), ("int", .int), ("float", .float), ("binary", .binary),
    ("timestamp", .timestamp), ("omap", .pairs), ("pairs", .pairs), ("set", .set),
    ("str", .text), ("seq", .sequence), ("map", .mapping), ("merge", .merge), ("value", .value)]

/-- The tag of a full name. -/
def ofName (name : List Char) : Tag :=
  let start := "tag:yaml.org,2002:".toList
  if start.isPrefixOf name then
    (names.lookup (String.ofList (name.drop start.length))).getD .unknown
  else .unknown

/-! ## Forms of plain scalars -/

/-- A text without the sign it may start with. -/
def unsigned (s : List Char) : List Char :=
  match s with
  | '+' :: t => t
  | '-' :: t => t
  | _ => s

/-- Whether a text is a digit and then digits and underscores. -/
def isNumeral (s : List Char) : Bool :=
  match s with
  | c :: t => Text.isDigit c && t.all fun c => Text.isDigit c || c == '_'
  | [] => false

/-- Whether a text is parts of one or two digits, below sixty, each behind a colon. -/
def isSexagesimalTail : List Char → Bool
  | [] => true
  | ':' :: a :: b :: s =>
    if b = ':' then Text.isDigit a && isSexagesimalTail (b :: s)
    else '0' ≤ a && a ≤ '5' && Text.isDigit b && isSexagesimalTail s
  | [':', a] => Text.isDigit a
  | _ => false

/-- Whether a text starts with a numeral that has such parts behind it. -/
def isSexagesimal (s : List Char) : Bool :=
  let head := s.takeWhile (· != ':')
  let tail := s.drop head.length
  isNumeral head && !tail.isEmpty && isSexagesimalTail tail

/-- Whether a text looks like an integer: binary, octal, decimal, hexadecimal or in base sixty. -/
def isInt (s : List Char) : Bool :=
  match unsigned s with
  | '0' :: t =>
    t.isEmpty || t.all (fun c => (Text.digit? 8 c).isSome || c == '_') ||
      (match t with
        | 'b' :: u => !u.isEmpty && u.all fun c => c == '0' || c == '1' || c == '_'
        | 'x' :: u => !u.isEmpty && u.all fun c => Text.isHexDigit c || c == '_'
        | _ => false)
  | t => isNumeral t || isSexagesimal t

/-- Whether a text is an exponent with its sign, or nothing. -/
def isExponent (s : List Char) : Bool :=
  match s with
  | [] => true
  | e :: sign :: ds =>
    (e == 'e' || e == 'E') && (sign == '+' || sign == '-') && !ds.isEmpty && ds.all Text.isDigit
  | _ => false

/-- Whether a text is a fraction: digits and underscores, and maybe an exponent. -/
def isFraction (s : List Char) : Bool :=
  isExponent (s.dropWhile fun c => Text.isDigit c || c == '_')

/-- Whether a text looks like a floating-point number. It has a point; only one that starts with a
digit may have a sign. -/
def isFloat (s : List Char) : Bool :=
  let t := unsigned s
  let head := t.takeWhile (· != '.')
  match t.drop head.length with
  | '.' :: u =>
    if head.isEmpty then
      ["inf", "Inf", "INF"].contains (String.ofList u) ||
        (t.length == s.length && (["nan", "NaN", "NAN"].contains (String.ofList u) ||
          ((u.head?.map Text.isDigit).getD false && isFraction u)))
    else if isNumeral head then isFraction u
    else isSexagesimal head && u.all fun c => Text.isDigit c || c == '_'
  | _ => false

/-- The parts of a date and time as they are written. -/
structure Written where
  year : List Char
  month : List Char
  day : List Char
  /-- Hour, minute and second. -/
  time : Option (List Char × List Char × List Char) := none
  fraction : List Char := []
  /-- A sign with hours and minutes, or neither for universal time. -/
  zone : Option (Option (Char × List Char × List Char)) := none
  deriving Repr, DecidableEq, Inhabited

/-- Digits, as many as a text starts with up to a bound, and the rest; at least so many. -/
def digits? (least most : Nat) (s : List Char) : Option (List Char × List Char) :=
  let ds := (s.take most).takeWhile Text.isDigit
  if least ≤ ds.length then some (ds, s.drop ds.length) else none

/-- The rest of a text after a character. -/
def after? (c : Char) (s : List Char) : Option (List Char) :=
  match s with
  | d :: t => if d = c then some t else none
  | [] => none

def isSpace (c : Char) : Bool :=
  c == ' ' || c == '\t'

/-- The zone that a whole text is, after white space. -/
def zone? (s : List Char) : Option (Option (Option (Char × List Char × List Char))) :=
  if s.isEmpty then some none
  else match s.dropWhile isSpace with
    | ['Z'] => some (some none)
    | sign :: t =>
      if sign ≠ '+' && sign ≠ '-' then none
      else do
        let (hours, t) ← digits? 1 2 t
        if t.isEmpty then some (some (some (sign, hours, [])))
        else
          let (minutes, t) ← digits? 2 2 (← after? ':' t)
          if t.isEmpty then some (some (some (sign, hours, minutes))) else none
    | [] => none

/-- A text that is more than a line end, without one at its end. -/
def withoutLineEnd (s : List Char) : List Char :=
  if s.getLast? = some '\n' && s.length ≠ 1 then s.dropLast else s

/-- The parts of a date, or of a date and time, that a whole text is. -/
def written? (s : List Char) : Option Written := do
  let (year, s) ← digits? 4 4 s
  let (month, s) ← digits? 1 2 (← after? '-' s)
  let (day, s) ← digits? 1 2 (← after? '-' s)
  if s.isEmpty then some { year, month, day }
  else
    let s ← match s with
      | c :: t =>
        if c = 'T' || c = 't' then some t
        else if isSpace c then some (t.dropWhile isSpace) else none
      | [] => none
    let (hour, s) ← digits? 1 2 s
    let (minute, s) ← digits? 2 2 (← after? ':' s)
    let (second, s) ← digits? 2 2 (← after? ':' s)
    let time := some (hour, minute, second)
    let fraction := match s with
      | '.' :: t => t.takeWhile Text.isDigit
      | _ => []
    let s := match s with
      | '.' :: t => t.drop fraction.length
      | _ => s
    some { year, month, day, time, fraction, zone := ← zone? s }

/-- Whether a text looks like a date or a date and time; a date alone has two digits for month and
day. -/
def isTimestamp (s : List Char) : Bool :=
  match written? s with
  | some w => w.time.isSome || (w.month.length == 2 && w.day.length == 2)
  | none => false

/-- The spellings of truth values. -/
def truths : List String :=
  ["yes", "Yes", "YES", "no", "No", "NO", "true", "True", "TRUE", "false", "False", "FALSE",
    "on", "On", "ON", "off", "Off", "OFF"]

/-- The spellings of nothing. -/
def nulls : List String :=
  ["", "~", "null", "Null", "NULL"]

/-- The characters that announce a tag, an anchor or an alias; alone they have a tag that nothing
has a value under. -/
def marks : List String :=
  ["!", "&", "*"]

/-- The tag of a plain scalar. A line end behind it makes no difference. -/
def ofPlain (text : List Char) : Tag :=
  let content := withoutLineEnd text
  let s := String.ofList content
  if truths.contains s then .bool
  else if isFloat content then .float
  else if isInt content then .int
  else if s = "<<" then .merge
  else if nulls.contains s then .null
  else if isTimestamp content then .timestamp
  else if s = "=" then .value
  else if marks.contains s then .unknown
  else .text

end Tag

end PackageDoc.Yaml
