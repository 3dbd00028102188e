import PackageDoc.Text.Hexadecimal

/-!
# Bytes written in base 64

Four characters of an alphabet of sixty-four stand for three bytes. Characters outside the alphabet
are passed over, and equals signs that fill up the last four characters end the text.
-/

namespace PackageDoc.Text

/-- The value of a character in base 64. -/
def base64Digit? (c : Char) : Option Nat :=
  if 'A' ≤ c ∧ c ≤ 'Z' then some (c.toNat - 'A'.toNat)
  else if 'a' ≤ c ∧ c ≤ 'z' then some (c.toNat - 'a'.toNat + 26)
  else if '0' ≤ c ∧ c ≤ '9' then some (c.toNat - '0'.toNat + 52)
  else if c = '+' then some 62
  else if c = '/' then some 63
  else none

/-- The bytes of a text, after `place` characters of a group that left `bits` over, and `fill`
equals signs in a row. A text that ends inside a group has no bytes. -/
def base64From (place bits fill : Nat) : List Char → Option (List UInt8)
  | [] => if place = 0 then some [] else none
  | c :: s =>
    if c = '=' then
      if 2 ≤ place && 4 ≤ place + fill + 1 then some []
      else base64From place bits (if 2 ≤ place then fill + 1 else fill) s
    else match base64Digit? c with
      | none => base64From place bits fill s
      | some d =>
        match place with
        | 0 => base64From 1 d 0 s
        | 1 => (base64From 2 (d % 16) 0 s).map (UInt8.ofNat (bits * 4 + d / 16) :: ·)
        | 2 => (base64From 3 (d % 4) 0 s).map (UInt8.ofNat (bits * 16 + d / 4) :: ·)
        | _ => (base64From 0 0 0 s).map (UInt8.ofNat (bits * 64 + d) :: ·)

/-- The bytes of a text in base 64. -/
def base64? (s : List Char) : Option (List UInt8) :=
  base64From 0 0 0 s

end PackageDoc.Text
