/-!
# Ranges of code points

Sets of characters given by the code points at which their stretches begin and end, and mappings of
characters given by the distance that a stretch of them is moved.
-/

namespace PackageDoc.Unicode

/-- A set of code points as stretches, each with its first and its last. -/
abbrev Ranges := List (Nat × Nat)

namespace Ranges

/-- Whether a code point lies in one of the stretches. -/
def holds (rs : Ranges) (n : Nat) : Bool :=
  rs.any fun r => r.1 ≤ n && n ≤ r.2

end Ranges

/-- A stretch of code points that are mapped alike: every `step`-th one from `first` to `last` is
moved by `shift`. -/
structure Shift where
  first : Nat
  last : Nat
  step : Nat
  shift : Int
  deriving Repr, DecidableEq, Inhabited

/-- Whether a stretch moves a code point. -/
def Shift.moves (s : Shift) (n : Nat) : Bool :=
  s.first ≤ n && n ≤ s.last && (n - s.first) % s.step == 0

/-- The character that the first stretch to move it makes of a character. -/
def shiftBy (table : List Shift) (c : Char) : Char :=
  match table.find? fun s => s.moves c.toNat with
  | some s => Char.ofNat (c.toNat + s.shift).toNat
  | none => c

end PackageDoc.Unicode
