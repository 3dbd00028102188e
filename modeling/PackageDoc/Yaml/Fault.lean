import PackageDoc.Moment
import PackageDoc.Text.Quoted

/-!
# Faults of YAML

Why a text has no value: it is not well formed, one of its scalars does not fit its tag, or its
nodes go deeper than they can be followed.
-/

namespace PackageDoc.Yaml

/-- Why a text has no value. -/
inductive Fault where
  /-- It is not well formed, or holds a node that has no value. -/
  | malformed
  /-- An escape names a number beyond the last code point. -/
  | codePoint (n : Nat)
  /-- A text is no integer in a base. -/
  | noInteger (base : Nat) (text : List Char)
  | tooManyDigits (count : Nat)
  | noFloat (text : List Char)
  /-- A number has no digits. -/
  | emptyNumber
  | noTruth
  | noTimestamp
  /-- A date is to be made of what is no text. -/
  | noText
  /-- The parts of a date or time are out of range. -/
  | moment (f : MomentFault)
  /-- A power of sixty is beyond the floating-point numbers. -/
  | overflow
  /-- It is nested deeper than the interpreter allows. -/
  | tooDeep
  /-- Whatever else ends the reading, by its kind. -/
  | other (kind : String)
  deriving Repr, DecidableEq, Inhabited

namespace Fault

/-- What is wrong with a value, in words; the other faults are told apart by their kind alone. -/
def message? : Fault → Option String
  | codePoint n => if n < 0x80000000 then some "chr() arg not in range(0x110000)" else none
  | noInteger base text =>
    some ("invalid literal for int() with base " ++ toString base ++ ": " ++
      Text.quoted (String.ofList text))
  | tooManyDigits count => some (Text.tooManyDigitsText (some count))
  | noFloat text =>
    some ("could not convert string to float: " ++ Text.quoted (String.ofList text))
  | moment f => some f.message
  | malformed => none
  | emptyNumber => none
  | noTruth => none
  | noTimestamp => none
  | noText => none
  | overflow => none
  | tooDeep => none
  | other _ => none

end Fault

end PackageDoc.Yaml
