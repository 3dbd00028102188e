import PackageDoc.Binary64
import PackageDoc.Moment

/-!
# Data values

The values that front matter, metadata and problem reports hold. Scalars may be keys of a mapping,
and two keys that compare equal are one key: `true`, `1` and `1.0` are. A mapping keeps its keys in
the order in which they first came. A collection can be held by itself, and is not written out again
there.
-/

namespace PackageDoc

/-- A value without parts. -/
inductive Scalar where
  | null
  | bool (b : Bool)
  | int (i : Int)
  | float (x : Binary64)
  | text (s : String)
  | bytes (data : List UInt8)
  | date (d : Date)
  | moment (m : Moment)
  | time (t : TimeOfDay)
  deriving Repr, DecidableEq, Inhabited

/-- A value: a scalar, a list, a mapping, a set of scalars, the name of a kind of options, or one of
the collections that it stands in. -/
inductive Value where
  | scalar (s : Scalar)
  | list (items : List Value)
  | map (fields : List (Scalar × Value))
  | set (elements : List Scalar)
  | kind (name : String)
  /-- The collection that it stands in, but for so many that lie in between. -/
  | again (levels : Nat)
  deriving Repr, Inhabited

namespace Scalar

/-- The integer a truth value or an integral number stands for in comparisons. -/
def integral? : Scalar → Option Int
  | bool b => some (if b then 1 else 0)
  | int i => some i
  | float x => x.toInt?
  | _ => none

/-- Whether two scalars compare equal. -/
def same (a b : Scalar) : Bool :=
  match a, b with
  | float x, float y => x.same y
  | moment m, moment n => m.same n
  | a, b =>
    match a.integral?, b.integral? with
    | some i, some j => i == j
    | none, none => a == b
    | _, _ => false

end Scalar

/-- The fields of a mapping in their order. -/
abbrev Fields := List (Scalar × Value)

namespace Fields

/-- Sets a key: an old key keeps its place and its spelling and takes the new value. -/
def set (key : Scalar) (value : Value) : Fields → Fields
  | [] => [(key, value)]
  | (k, v) :: rest => if k.same key then (k, value) :: rest else (k, v) :: set key value rest

/-- The value of a key. -/
def get? (key : Scalar) (fields : Fields) : Option Value :=
  (fields.find? fun f => f.1.same key).map Prod.snd

end Fields

namespace Value

def null : Value := .scalar .null
def bool (b : Bool) : Value := .scalar (.bool b)
def int (i : Int) : Value := .scalar (.int i)
def text (s : String) : Value := .scalar (.text s)

mutual

/-- Whether two values compare equal; mappings do when they have the same keys with equal values,
in whatever order. -/
def same : Value → Value → Bool
  | .scalar a, .scalar b => a.same b
  | .list xs, .list ys => sameItems xs ys
  | .map fs, .map gs => fs.length == gs.length && sameFields fs gs
  | .set xs, .set ys => xs.length == ys.length && xs.all fun x => ys.any x.same
  | .kind a, .kind b => a == b
  | .again m, .again n => m == n
  | _, _ => false

/-- Whether two lists compare equal item by item. -/
def sameItems : List Value → List Value → Bool
  | [], [] => true
  | x :: xs, y :: ys => same x y && sameItems xs ys
  | _, _ => false

/-- Whether every field has an equal one in a second mapping. -/
def sameFields : List (Scalar × Value) → Fields → Bool
  | [], _ => true
  | (k, v) :: fs, gs =>
    (match Fields.get? k gs with
      | some w => same v w
      | none => false) && sameFields fs gs

end

end Value

end PackageDoc
