import PackageDoc.Text.Hexadecimal
import PackageDoc.Value

/-!
# Scalars of TOML

Strings, numbers, dates and times. Every reader takes the text from where a scalar starts, and
gives it with the rest of the text.
-/

namespace PackageDoc.Toml

/-- Why a text has no value. -/
inductive Fault where
  | malformed
  | tooManyDigits (count : Nat)
  /-- It is nested deeper than the interpreter allows. -/
  | tooDeep
  /-- Whatever else ends the reading, by its kind. -/
  | other (kind : String)
  deriving Repr, DecidableEq, Inhabited

/-- What is wrong with a value, in words. -/
def Fault.message? : Fault → Option String
  | malformed => none
  | tooManyDigits count => some (Text.tooManyDigitsText (some count))
  | tooDeep => none
  | other _ => none

/-- What a reader gives: something and the rest of the text. -/
abbrev Parsed (α : Type) := Except Fault (α × List Char)

/-! ## Gaps -/

def isSpace (c : Char) : Bool :=
  c == ' ' || c == '\t'

/-- A text without the spaces and tabs that it starts with. -/
def skipSpaces (s : List Char) : List Char :=
  s.dropWhile isSpace

/-- A text without the spaces, tabs and line ends that it starts with. -/
def skipBlanks (s : List Char) : List Char :=
  s.dropWhile fun c => isSpace c || c == '\n'

/-- Whether a character may be neither in a comment nor in a string. -/
def isControl (c : Char) : Bool :=
  (c.toNat < 32 && c != '\t') || c.toNat == 127

/-- Passes over a comment, if there is one. -/
def skipComment (s : List Char) : Except Fault (List Char) :=
  match s with
  | '#' :: t =>
    let comment := t.takeWhile (· != '\n')
    if comment.any isControl then .error .malformed else .ok (t.drop comment.length)
  | _ => .ok s

/-! ## Strings -/

/-- The characters that single letters stand for behind a backslash. -/
def escapes : List (Char × Char) :=
  [('b', '\x08'), ('t', '\t'), ('n', '\n'), ('f', '\x0c'), ('r', '\r'), ('"', '"'),
    ('\\', '\\')]

/-- The character that so many hexadecimal digits name. -/
def namedCharacter (length : Nat) (s : List Char) : Parsed (List Char) :=
  let ds := s.take length
  let n := Text.ofHexadecimal ds
  if ds.length = length && ds.all Text.isHexDigit && Nat.isValidChar n then
    .ok ([Char.ofNat n], s.drop length)
  else .error .malformed

/-- What follows a backslash between double quotes. In a string of several lines it can stand
before the end of a line, and takes away all white space up to the next text. -/
def escape (multiline : Bool) (s : List Char) : Parsed (List Char) :=
  match s with
  | [] => .error .malformed
  | c :: t =>
    if multiline && c = '\n' then .ok ([], skipBlanks t)
    else if multiline && isSpace c then
      match skipSpaces t with
      | [] => .ok ([], [])
      | '\n' :: u => .ok ([], skipBlanks u)
      | _ => .error .malformed
    else if c = 'u' then namedCharacter 4 t
    else if c = 'U' then namedCharacter 8 t
    else match escapes.lookup c with
      | some d => .ok ([d], t)
      | none => .error .malformed

/-- Reads a string with escapes up to its closing quotes, of at most so many parts. -/
def basicWithin (multiline : Bool) : Nat → List Char → Except Fault (List Char × List Char)
  | 0, _ => .error .malformed
  | _, [] => .error .malformed
  | n + 1, c :: s =>
    if c = '"' then
      if !multiline then .ok ([], s)
      else match s with
        | '"' :: '"' :: t => .ok ([], t)
        | _ => (basicWithin multiline n s).map fun (r, rest) => ('"' :: r, rest)
    else if c = '\\' then do
      let (e, t) ← escape multiline s
      (basicWithin multiline n t).map fun (r, rest) => (e ++ r, rest)
    else if isControl c && !(multiline && c = '\n') then .error .malformed
    else (basicWithin multiline n s).map fun (r, rest) => (c :: r, rest)

/-- Reads a string with escapes after its opening quotes. -/
def basic (multiline : Bool) (s : List Char) : Parsed (List Char) :=
  basicWithin multiline (s.length + 1) s

/-- Reads a string without escapes up to its closing quotes. -/
def literal (multiline : Bool) : List Char → Parsed (List Char)
  | [] => .error .malformed
  | c :: s =>
    let ends := c == '\'' && (!multiline || s.take 2 == ['\'', '\''])
    if ends then .ok ([], if multiline then s.drop 2 else s)
    else if isControl c && !(multiline && c = '\n') then .error .malformed
    else (literal multiline s).map fun (r, rest) => (c :: r, rest)

/-- Reads a string of several lines after its three opening quotes. A line end directly after these
is no part of it, and one or two more quotes before the closing ones are. -/
def multilineString (quote : Char) (s : List Char) :
    Except Fault (List Char × List Char) := do
  let s := match s with
    | '\n' :: t => t
    | _ => s
  let (content, rest) ← if quote = '"' then basic true s else literal true s
  let more := ((rest.take 2).takeWhile (· == quote)).length
  return (content ++ List.replicate more quote, rest.drop more)

/-- Reads a string of one line after its opening quote. -/
def lineString (quote : Char) (s : List Char) : Parsed (List Char) :=
  if quote = '"' then basic false s else literal false s

/-- Reads a string after its opening quote. -/
def string (quote : Char) (s : List Char) : Parsed (List Char) :=
  match s with
  | a :: b :: t => if a = quote && b = quote then multilineString quote t else lineString quote s
  | _ => lineString quote s

/-! ## Numbers -/

/-- The digits that a text starts with, an underscore between any two of them being passed over;
none if it starts with no digit. -/
def digitRun (isDigit : Char → Bool) : List Char → List Char × List Char
  | [] => ([], [])
  | [c] => if isDigit c then ([c], []) else ([], [c])
  | c :: d :: s =>
    if !isDigit c then ([], c :: d :: s)
    else if d = '_' then
      match s with
      | e :: _ =>
        if isDigit e then
          let (ds, rest) := digitRun isDigit s
          (c :: ds, rest)
        else ([c], d :: s)
      | [] => ([c], d :: s)
    else
      let (ds, rest) := digitRun isDigit (d :: s)
      (c :: ds, rest)

/-- The bases that a letter behind a zero announces. -/
def bases : List (Char × Nat) :=
  [('x', 16), ('b', 2), ('o', 8)]

/-- Whether a character is a digit in a base. -/
def isDigitIn (base : Nat) (c : Char) : Bool :=
  (Text.hexDigit? c).any fun d => decide (d < base)

/-- An integer with the letter of a base. -/
def basedInteger? (s : List Char) : Option (Int × List Char) :=
  match s with
  | '0' :: letter :: t =>
    match bases.lookup letter with
    | some base =>
      let (ds, rest) := digitRun (isDigitIn base) t
      if ds.isEmpty then none
      else some (Int.ofNat (ds.foldl (fun n c => n * base + (Text.hexDigit? c).getD 0) 0), rest)
    | none => none
  | _ => none

/-- A sign, if there is one: whether it is a minus, and the rest. -/
def sign (s : List Char) : Bool × List Char :=
  match s with
  | '-' :: t => (true, t)
  | '+' :: t => (false, t)
  | _ => (false, s)

/-- The whole part of a decimal number; it starts with a zero only if it is one. -/
def wholePart? (s : List Char) : Option (List Char × List Char) :=
  match s with
  | '0' :: t => some (['0'], t)
  | _ =>
    let (ds, rest) := digitRun Text.isDigit s
    if ds.isEmpty then none else some (ds, rest)

/-- The digits after a point, if there are any. -/
def fraction (s : List Char) : List Char × List Char :=
  match s with
  | '.' :: t =>
    let (ds, rest) := digitRun Text.isDigit t
    if ds.isEmpty then ([], s) else (ds, rest)
  | _ => ([], s)

/-- An exponent, if there is one. -/
def exponent? (s : List Char) : Option (Int × List Char) :=
  match s with
  | e :: t =>
    if e = 'e' || e = 'E' then
      let (negative, u) := sign t
      let (ds, rest) := digitRun Text.isDigit u
      if ds.isEmpty then none
      else
        let n : Int := Text.ofDigits 10 ds
        some (if negative then -n else n, rest)
    else none
  | [] => none

/-- Reads a decimal number: a floating-point one if it has a fraction or an exponent. -/
def decimal? (s : List Char) : Option (Parsed Scalar) := do
  let (negative, t) := sign s
  let (whole, t) ← wholePart? t
  let (places, u) := fraction t
  match exponent? u with
  | some (e, rest) =>
    some (.ok (.float (.ofDecimal negative (Text.ofDigits 10 (whole ++ places))
      (e - places.length)), rest))
  | none =>
    if !places.isEmpty then
      some (.ok (.float (.ofDecimal negative (Text.ofDigits 10 (whole ++ places))
        (-places.length)), u))
    else if Text.maxDigits < whole.length then some (.error (.tooManyDigits whole.length))
    else
      let n : Int := Text.ofDigits 10 whole
      some (.ok (.int (if negative then -n else n), u))

/-- The floating-point numbers that are written as words. -/
def words : List (String × Binary64) :=
  [("inf", .infinite false), ("nan", .nan), ("-inf", .infinite true), ("+inf", .infinite false),
    ("-nan", .nan), ("+nan", .nan)]

/-- Reads a number that is written as a word. -/
def word? (s : List Char) : Option (Scalar × List Char) :=
  (words.find? fun w => w.1.toList.isPrefixOf s).map fun w => (.float w.2, s.drop w.1.length)

/-! ## Dates and times -/

/-- A number of exactly so many digits within bounds. -/
def part? (width least most : Nat) (s : List Char) : Option (Nat × List Char) :=
  let ds := s.take width
  let n := Text.ofDigits 10 ds
  if ds.length = width && ds.all Text.isDigit && least ≤ n && n ≤ most then
    some (n, s.drop width)
  else none

/-- The rest of a text after a character. -/
def after? (c : Char) (s : List Char) : Option (List Char) :=
  match s with
  | d :: t => if d = c then some t else none
  | [] => none

/-- The microseconds behind a point, of which further digits are passed over. -/
def microseconds (s : List Char) : Nat × List Char :=
  match s with
  | '.' :: t =>
    let ds := t.takeWhile Text.isDigit
    if ds.isEmpty then (0, s)
    else
      let kept := ds.take 6
      (Text.ofDigits 10 (kept ++ List.replicate (6 - kept.length) '0'), t.drop ds.length)
  | _ => (0, s)

/-- Reads a time of day. -/
def time? (s : List Char) : Option (TimeOfDay × List Char) := do
  let (hour, s) ← part? 2 0 23 s
  let (minute, s) ← part? 2 0 59 (← after? ':' s)
  let (second, s) ← part? 2 0 59 (← after? ':' s)
  let (microsecond, s) := microseconds s
  some (⟨hour, minute, second, microsecond⟩, s)

/-- The distance from universal time in minutes, if one is written. -/
def offset (s : List Char) : Option Int × List Char :=
  match s with
  | c :: t =>
    if c = 'Z' || c = 'z' then (some 0, t)
    else if c = '+' || c = '-' then
      let written := do
        let (hours, t) ← part? 2 0 23 t
        let (minutes, t) ← part? 2 0 59 (← after? ':' t)
        some (Int.ofNat (hours * 60 + minutes), t)
      match written with
      | some (m, t) => (some (if c = '-' then -m else m), t)
      | none => (none, s)
    else (none, s)
  | [] => (none, s)

/-- Reads a date, or a date and time. -/
def moment? (s : List Char) : Option (Parsed Scalar) := do
  let (year, s) ← part? 4 0 9999 s
  let (month, s) ← part? 2 1 12 (← after? '-' s)
  let (day, s) ← part? 2 1 31 (← after? '-' s)
  let date : Date := ⟨year, month, day⟩
  let time := match s with
    | c :: t => if c = 'T' || c = 't' || c = ' ' then time? t else none
    | [] => none
  let valid (v : Scalar) (rest : List Char) : Parsed Scalar :=
    if date.fault?.isSome then .error .malformed else .ok (v, rest)
  match time with
  | some (t, rest) =>
    let (zone, rest) := offset rest
    some (valid (.moment ⟨date, t, zone⟩) rest)
  | none => some (valid (.date date) s)

/-! ## Scalars -/

/-- Reads a scalar that is no string. -/
def scalar (s : List Char) : Parsed Scalar :=
  if "true".toList.isPrefixOf s then .ok (.bool true, s.drop 4)
  else if "false".toList.isPrefixOf s then .ok (.bool false, s.drop 5)
  else match moment? s with
    | some r => r
    | none =>
      match time? s with
      | some (t, rest) => .ok (.time t, rest)
      | none =>
        match basedInteger? s with
        | some (n, rest) => .ok (.int n, rest)
        | none =>
          match decimal? s with
          | some r => r
          | none =>
            match word? s with
            | some r => .ok r
            | none => .error .malformed

end PackageDoc.Toml
