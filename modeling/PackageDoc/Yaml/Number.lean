import PackageDoc.Binary64
import PackageDoc.Text.Blank
import PackageDoc.Text.Lines
import PackageDoc.Unicode.Casing
import PackageDoc.Unicode.Letter
import PackageDoc.Yaml.Fault

/-!
# Numbers of YAML

Reading the text of a scalar that is tagged as a number. Underscores are ignored. Integers are
binary, octal, hexadecimal or decimal by their beginning, and both kinds of numbers can have parts
in base sixty with colons in between.
-/

namespace PackageDoc.Yaml

/-- A text without its underscores. -/
def withoutUnderscores (s : List Char) : List Char :=
  s.filter (· != '_')

/-- Whether a text starts with a minus sign, and the text without the sign it may start with. -/
def takeSign (s : List Char) : Bool × List Char :=
  match s with
  | '-' :: t => (true, t)
  | '+' :: t => (false, t)
  | _ => (false, s)

/-- The value of a digit in a base of up to sixteen. -/
def digitIn? (base : Nat) (c : Char) : Option Nat :=
  (Text.hexDigit? c).filter (· < base)

/-- The number that digits in a base write; there must be one. -/
def digitsIn? (base : Nat) (ds : List Char) : Option Nat :=
  if ds.isEmpty then none
  else ds.foldlM (fun n c => (digitIn? base c).map fun d => n * base + d) 0

/-- The letter that can announce a base. -/
def baseLetter (base : Nat) : Char :=
  if base = 2 then 'b' else if base = 8 then 'o' else 'x'

/-- Reads an integer in a base, with white space around it and a sign and beginning of its own. -/
def integerIn (base : Nat) (s : List Char) : Except Fault Int :=
  let (negative, t) := takeSign (Unicode.plainDigits (Text.trim s))
  let ds := match t with
    | '0' :: c :: u => if base ≠ 10 && c.toLower = baseLetter base then u else t
    | _ => t
  match digitsIn? base ds with
  | none => .error (.noInteger base s)
  | some n =>
    if base = 10 && Text.maxDigits < ds.length then .error (.tooManyDigits ds.length)
    else .ok (if negative then -(n : Int) else n)

/-- The number that parts in base sixty write. -/
def sexagesimal (parts : List Int) : Int :=
  parts.foldl (fun n p => n * 60 + p) 0

/-- Reads the text of an integer. -/
def integer (s : List Char) : Except Fault Int := do
  let (negative, t) := takeSign (withoutUnderscores s)
  let n ← match t with
    | [] => .error .emptyNumber
    | '0' :: 'b' :: ds => integerIn 2 ds
    | '0' :: 'x' :: ds => integerIn 16 ds
    | ['0'] => .ok 0
    | '0' :: _ => integerIn 8 t
    | _ =>
      if t.contains ':' then do
        let parts ← (Text.splitAt ':' t).mapM (integerIn 10)
        .ok (sexagesimal parts)
      else integerIn 10 t
  return if negative then -n else n

/-! ## Floating point -/

/-- The digits that a text starts with, and the rest. -/
def spanDigits (s : List Char) : List Char × List Char :=
  let ds := s.takeWhile Text.isDigit
  (ds, s.drop ds.length)

/-- The exponent that a whole text is. -/
def exponent? (s : List Char) : Option Int :=
  match s with
  | [] => some 0
  | e :: t =>
    if e = 'e' then
      let (negative, ds) := takeSign t
      (digitsIn? 10 ds).map fun n => if negative then -(n : Int) else n
    else none

/-- A decimal number without sign: digits with a point among them or not, and an exponent. -/
def decimal? (negative : Bool) (s : List Char) : Option Binary64 := do
  let (whole, t) := spanDigits s
  let (fraction, t) := match t with
    | '.' :: u => spanDigits u
    | _ => ([], t)
  if whole.isEmpty && fraction.isEmpty then none
  else
    let e ← exponent? t
    some (.ofDecimal negative (Text.ofDigits 10 (whole ++ fraction)) (e - fraction.length))

/-- Reads a floating-point number in lower case, with white space around it and a sign. -/
def floatOf (s : List Char) : Except Fault Binary64 :=
  let (negative, t) := takeSign (Unicode.plainDigits (Text.trim s))
  let name := String.ofList t
  if name = "inf" || name = "infinity" then .ok (.infinite negative)
  else if name = "nan" then .ok .nan
  else match decimal? negative t with
    | some x => .ok x
    | none => .error (.noFloat s)

/-- The number that parts in base sixty write, the last part first. A power of the base may be too
large for the format. -/
def sexagesimalFloat (base : Int) : List Binary64 → Binary64 → Except Fault Binary64
  | [], sum => .ok sum
  | p :: ps, sum =>
    match Binary64.ofInt base with
    | .infinite _ => .error .overflow
    | x => sexagesimalFloat (base * 60) ps (sum.add (p.mul x))

/-- Reads the text of a floating-point number. -/
def float (s : List Char) : Except Fault Binary64 := do
  let text := Unicode.lower (withoutUnderscores s)
  if text.isEmpty then .error .emptyNumber
  else
    let (negative, t) := takeSign text
    let name := String.ofList t
    if name = ".inf" then .ok (.infinite negative)
    else if name = ".nan" then .ok .nan
    else
      let x ← if t.contains ':' then do
          let parts ← (Text.splitAt ':' t).mapM floatOf
          sexagesimalFloat 1 parts.reverse (.ofInt 0)
        else floatOf t
      return if negative then x.negate else x

end PackageDoc.Yaml
