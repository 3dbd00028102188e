/-!
# Binary floating-point numbers

The numbers of the 64-bit binary format as values that can be reasoned about: a finite number is
`± mantissa · 2 ^ exponent`, with the mantissa below `2 ^ 53` and the exponent between −1074 and
971. Every operation computes the exact rational result and rounds it once, to the nearest number
of the format and from a tie to the even mantissa.

    ofRatio neg num den = the number nearest to ± num / den
-/

namespace PackageDoc

/-- A number of the 64-bit format; `finite neg m q` is `± m · 2 ^ q`. -/
inductive Binary64 where
  | nan
  | infinite (negative : Bool)
  | finite (negative : Bool) (mantissa : Nat) (exponent : Int)
  deriving Repr, DecidableEq, Inhabited

namespace Binary64

/-- The least exponent. -/
def minExponent : Int := -1074

/-- The greatest exponent of a finite number. -/
def maxExponent : Int := 971

/-- The least mantissa of 53 bits, `2 ^ 52`. -/
def leastFull : Nat := 0x10000000000000

/-- `num · 2 ^ k / den` as a pair, without a negative power. -/
def scale (num den : Nat) (k : Int) : Nat × Nat :=
  if 0 ≤ k then (num * Nat.pow 2 k.toNat, den) else (num, den * Nat.pow 2 (-k).toNat)

/-- The natural number nearest to `num / den`, the even one of two. -/
def roundHalfEven (num den : Nat) : Nat :=
  let n := num / den
  let r := num % den
  if 2 * r < den then n
  else if den < 2 * r then n + 1
  else if n % 2 = 0 then n else n + 1

/-- The exponent with which the mantissa of `num / den` has 53 bits, or the least exponent. -/
def exponentOf (num den : Nat) : Int :=
  let guess : Int := (Nat.log2 num : Int) - (Nat.log2 den : Int) - 52
  let (n, d) := scale num den (-guess)
  let q := if n < d * leastFull then guess - 1 else guess
  max q minExponent

/-- The number nearest to `± num / den`. -/
def ofRatio (negative : Bool) (num den : Nat) : Binary64 :=
  if num = 0 ∨ den = 0 then finite negative 0 minExponent
  else
    let q := exponentOf num den
    let (n, d) := scale num den (-q)
    let m := roundHalfEven n d
    let (m, q) := if m = 2 * leastFull then (leastFull, q + 1) else (m, q)
    if maxExponent < q then infinite negative else finite negative m q

/-- The number nearest to `± digits · 10 ^ exponent`. Beyond 400 places before or after the point
the result is known without the power. -/
def ofDecimal (negative : Bool) (digits : Nat) (exponent : Int) : Binary64 :=
  let places : Int := (Nat.log2 digits : Int) / 3 + 1
  if digits = 0 then finite negative 0 minExponent
  else if 400 < exponent then infinite negative
  else if exponent + places < -400 then finite negative 0 minExponent
  else if 0 ≤ exponent then ofRatio negative (digits * Nat.pow 10 exponent.toNat) 1
  else ofRatio negative digits (Nat.pow 10 (-exponent).toNat)

/-- The number nearest to an integer. -/
def ofInt (i : Int) : Binary64 :=
  ofRatio (i < 0) i.natAbs 1

/-- The signed numerator and the denominator of a finite number. -/
def ratio? : Binary64 → Option (Int × Nat)
  | finite neg m q =>
    let (n, d) := scale m 1 q
    some (if neg then -n else n, d)
  | _ => none

/-- The same number with the other sign. -/
def negate : Binary64 → Binary64
  | nan => nan
  | infinite neg => infinite !neg
  | finite neg m q => finite (!neg) m q

/-- Whether the sign is negative. -/
def isNegative : Binary64 → Bool
  | nan => false
  | infinite neg => neg
  | finite neg _ _ => neg

/-- The rounded sum. A sum of zero is positive unless both terms are negative. -/
def add (a b : Binary64) : Binary64 :=
  match a, b with
  | nan, _ => nan
  | _, nan => nan
  | infinite s, infinite t => if s = t then infinite s else nan
  | infinite s, _ => infinite s
  | _, infinite t => infinite t
  | a, b =>
    match a.ratio?, b.ratio? with
    | some (n, d), some (n', d') =>
      let num := n * d' + n' * d
      if num = 0 then finite (a.isNegative && b.isNegative) 0 minExponent
      else ofRatio (num < 0) num.natAbs (d * d')
    | _, _ => nan

/-- The rounded product. -/
def mul (a b : Binary64) : Binary64 :=
  let neg := a.isNegative != b.isNegative
  let isZero : Binary64 → Bool
    | finite _ m _ => m == 0
    | _ => false
  match a, b with
  | nan, _ => nan
  | _, nan => nan
  | infinite _, b => if isZero b then nan else infinite neg
  | a, infinite _ => if isZero a then nan else infinite neg
  | a, b =>
    match a.ratio?, b.ratio? with
    | some (n, d), some (n', d') => ofRatio neg (n * n').natAbs (d * d')
    | _, _ => nan

/-- Whether two numbers compare equal: zeros of either sign do, and nothing equals `nan`. -/
def same : Binary64 → Binary64 → Bool
  | infinite s, infinite t => s == t
  | finite s m q, finite t m' q' => (m == 0 && m' == 0) || (s == t && m == m' && q == q')
  | _, _ => false

/-- The integer that a number is equal to, if it is one. -/
def toInt? (x : Binary64) : Option Int :=
  match x.ratio? with
  | some (n, d) => if n.natAbs % d = 0 then some (n / d) else none
  | none => none

/-! ## Lemmas -/

/-- The rounded quotient is within half a unit. -/
theorem roundHalfEven_near (num : Nat) {den : Nat} (h : 0 < den) :
    2 * (roundHalfEven num den * den) ≤ 2 * num + den ∧
      2 * num ≤ 2 * (roundHalfEven num den * den) + den := by
  have hm := Nat.div_add_mod num den
  have hl := Nat.mod_lt num h
  rw [Nat.mul_comm] at hm
  simp only [roundHalfEven]
  split
  · omega
  · split
    · rw [Nat.add_mul]; omega
    · split
      · omega
      · rw [Nat.add_mul]; omega

end Binary64

end PackageDoc
