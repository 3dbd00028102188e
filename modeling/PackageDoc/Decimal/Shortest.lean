import PackageDoc.Binary64

/-!
# Shortest decimals

The fewest decimal digits that read back as a given binary number. The reals that round to
`m · 2 ^ q` form an interval, its ends included iff `m` is even. For one digit, two digits, and so
on up to seventeen, the two neighbours of the number on the grid of that many digits are tried; the
first grid with a neighbour in the interval wins, and of two such neighbours the nearer one.

`text` writes the digits positionally while the decimal exponent is at least −4 and below 16, and
with an exponent of two digits or more otherwise; a positional number keeps its `.0`.
-/

namespace PackageDoc.Decimal

/-- A positive decimal, `digits · 10 ^ exponent`. -/
structure Scaled where
  digits : Nat
  exponent : Int
  deriving Repr, DecidableEq, Inhabited

/-- A positive ratio as numerator and denominator. -/
structure Ratio where
  num : Nat
  den : Nat
  deriving Repr, DecidableEq, Inhabited

/-- `digits · 10 ^ exponent` as a ratio. -/
def Scaled.ratio (d : Scaled) : Ratio :=
  if 0 ≤ d.exponent then ⟨d.digits * Nat.pow 10 d.exponent.toNat, 1⟩
  else ⟨d.digits, Nat.pow 10 (-d.exponent).toNat⟩

/-- `m · 2 ^ q` as a ratio. -/
def dyadic (m : Nat) (q : Int) : Ratio :=
  if 0 ≤ q then ⟨m * Nat.pow 2 q.toNat, 1⟩ else ⟨m, Nat.pow 2 (-q).toNat⟩

namespace Ratio

def lt (a b : Ratio) : Bool := a.num * b.den < b.num * a.den

def le (a b : Ratio) : Bool := a.num * b.den ≤ b.num * a.den

/-- The distance between two ratios. -/
def distance (a b : Ratio) : Ratio :=
  let x := a.num * b.den
  let y := b.num * a.den
  ⟨(x - y) + (y - x), a.den * b.den⟩

end Ratio

/-- The lower end of the interval of reals that round to `m · 2 ^ q`; below a power of two the
numbers stand twice as close. -/
def lowerEnd (m : Nat) (q : Int) : Ratio :=
  if m = Binary64.leastFull ∧ Binary64.minExponent < q then dyadic (4 * m - 1) (q - 2)
  else dyadic (2 * m - 1) (q - 1)

/-- The upper end of the interval. -/
def upperEnd (m : Nat) (q : Int) : Ratio :=
  dyadic (2 * m + 1) (q - 1)

/-- Whether a decimal rounds to `m · 2 ^ q`. -/
def readsBack (m : Nat) (q : Int) (d : Scaled) : Bool :=
  let r := d.ratio
  let lo := lowerEnd m q
  let hi := upperEnd m q
  if m % 2 = 0 then lo.le r && r.le hi else lo.lt r && r.lt hi

/-- The exponent of the leading decimal digit of a positive ratio. -/
def leadingExponent (r : Ratio) : Int :=
  let digits (n : Nat) : Int := (Nat.toDigits 10 n).length
  let guess : Int := digits r.num - digits r.den
  if (⟨1, guess⟩ : Scaled).ratio.le r then guess else guess - 1

/-- The neighbours of a ratio on the grid of multiples of `10 ^ e`, the lower one first. -/
def neighbours (r : Ratio) (e : Int) : Scaled × Scaled :=
  let k := if 0 ≤ e then r.num / (r.den * Nat.pow 10 e.toNat)
    else r.num * Nat.pow 10 (-e).toNat / r.den
  (⟨k, e⟩, ⟨k + 1, e⟩)

/-- The neighbour that reads back, the nearer of two and the even one of equally near ones. -/
def pick? (m : Nat) (q : Int) (r : Ratio) (e : Int) : Option Scaled :=
  let (lo, hi) := neighbours r e
  match readsBack m q lo, readsBack m q hi with
  | false, false => none
  | true, false => some lo
  | false, true => some hi
  | true, true =>
    let below := r.distance lo.ratio
    let above := r.distance hi.ratio
    if below.lt above then some lo
    else if above.lt below then some hi
    else if lo.digits % 2 = 0 then some lo else some hi

/-- The shortest decimal that reads back as `m · 2 ^ q`, where `m` is positive. -/
def shortest (m : Nat) (q : Int) : Scaled :=
  let r := dyadic m q
  let top := leadingExponent r
  let hit := (List.range 17).findSome? fun (n : Nat) => pick? m q r (top - n)
  hit.getD ⟨m, 0⟩

/-- The decimal without zeros at the end of its digits. -/
def stripZeros : Nat → Scaled → Scaled
  | 0, d => d
  | fuel + 1, d =>
    if d.digits ≠ 0 ∧ d.digits % 10 = 0 then stripZeros fuel ⟨d.digits / 10, d.exponent + 1⟩ else d

/-! ## Text -/

/-- Writes a positive decimal. -/
def write (d : Scaled) : String :=
  let d := stripZeros 20 d
  let ds := Nat.toDigits 10 d.digits
  let point : Int := ds.length + d.exponent
  let e := point - 1
  let zeros (n : Int) := List.replicate n.toNat '0'
  if -4 ≤ e ∧ e < 16 then
    if point ≤ 0 then String.ofList ('0' :: '.' :: zeros (-point) ++ ds)
    else
      let whole := ds.take point.toNat ++ zeros d.exponent
      let frac := ds.drop point.toNat
      String.ofList (whole ++ '.' :: (if frac.isEmpty then ['0'] else frac))
  else
    let frac := ds.drop 1
    let mantissa := ds.take 1 ++ (if frac.isEmpty then [] else '.' :: frac)
    let sign := if e < 0 then '-' else '+'
    let power := Nat.toDigits 10 e.natAbs
    let power := if power.length < 2 then '0' :: power else power
    String.ofList (mantissa ++ 'e' :: sign :: power)

/-- The shortest text that reads back as a number. -/
def text : Binary64 → String
  | .nan => "nan"
  | .infinite neg => if neg then "-inf" else "inf"
  | .finite neg m q =>
    let body := if m = 0 then "0.0" else write (shortest m q)
    if neg then "-" ++ body else body

end PackageDoc.Decimal
