/-!
# Numbers and digits

Writing and reading numbers with sixteen digits, of which the letters may be of either case, and
with ten. How many decimal digits can be turned into a number, or a number into, is bounded.
-/

namespace PackageDoc.Text

/-- A number in lower-case hexadecimal, with zeros in front up to a width. -/
def hexadecimal (width n : Nat) : List Char :=
  let ds := Nat.toDigits 16 n
  List.replicate (width - ds.length) '0' ++ ds

/-- The value of a hexadecimal digit. -/
def hexDigit? (c : Char) : Option Nat :=
  if '0' ≤ c ∧ c ≤ '9' then some (c.toNat - '0'.toNat)
  else if 'a' ≤ c ∧ c ≤ 'f' then some (c.toNat - 'a'.toNat + 10)
  else if 'A' ≤ c ∧ c ≤ 'F' then some (c.toNat - 'A'.toNat + 10)
  else none

/-- Whether a character is a hexadecimal digit. -/
def isHexDigit (c : Char) : Bool :=
  (hexDigit? c).isSome

/-- The number that hexadecimal digits write. -/
def ofHexadecimal (ds : List Char) : Nat :=
  ds.foldl (fun n c => n * 16 + (hexDigit? c).getD 0) 0

/-- The value of a digit in a base of up to ten. -/
def digit? (base : Nat) (c : Char) : Option Nat :=
  if '0' ≤ c ∧ c.toNat < '0'.toNat + base then some (c.toNat - '0'.toNat) else none

/-- The number that digits write in a base of up to ten. -/
def ofDigits (base : Nat) (ds : List Char) : Nat :=
  ds.foldl (fun n c => n * base + (digit? base c).getD 0) 0

/-- The most decimal digits that a number may have to be read or shown. -/
def maxDigits : Nat := 4300

/-- What is said about a number of too many digits, given how many if they are there to count. -/
def tooManyDigitsText (count : Option Nat) : String :=
  let counted := match count with
    | some n => ": value has " ++ toString n ++ " digits"
    | none => ""
  "Exceeds the limit (" ++ toString maxDigits ++ " digits) for integer string conversion" ++
    counted ++ "; use sys.set_int_max_str_digits() to increase the limit"

/-- Whether a character is a decimal digit of ASCII. -/
def isDigit (c : Char) : Bool :=
  '0' ≤ c && c ≤ '9'

/-! ## Lemmas -/

/-- A hexadecimal digit is worth less than sixteen. -/
theorem lt_of_hexDigit? {c : Char} {n : Nat} (h : hexDigit? c = some n) : n < 16 := by
  unfold hexDigit? at h
  split at h
  · rename_i hc
    have h9 : c.toNat ≤ 57 := hc.2
    have : c.toNat - 48 = n := by simpa using h
    omega
  · split at h
    · rename_i _ hc
      have h9 : c.toNat ≤ 102 := hc.2
      have : c.toNat - 97 + 10 = n := by simpa using h
      omega
    · split at h
      · rename_i _ _ hc
        have h9 : c.toNat ≤ 70 := hc.2
        have : c.toNat - 65 + 10 = n := by simpa using h
        omega
      · simp at h

end PackageDoc.Text
