import PackageDoc.Text.Base64
import PackageDoc.Value
import PackageDoc.Yaml.Merge
import PackageDoc.Yaml.Number

/-!
# Values of YAML

The value of a node is made from its tag, once however often it is asked for. That of a scalar is
made at once. A collection is begun empty, and is filled after what stands beside it has been begun,
so it can hold itself. A mapping is freed of merge keys before it is filled, and nothing but a
scalar can be a key.

    g.value root    the value of the node root in the graph g
    load s          the value that a text writes
-/

namespace PackageDoc.Yaml

/-! ## Scalars -/

/-- The number that digits write, or a default for none. -/
def numberOf (ds : List Char) : Nat :=
  Text.ofDigits 10 ds

/-- The distance from universal time that a zone names, in minutes. -/
def zoneOffset (zone : Option (Char × List Char × List Char)) : Int :=
  match zone with
  | none => 0
  | some (sign, hours, minutes) =>
    let m : Int := numberOf hours * 60 + numberOf minutes
    if sign = '-' then -m else m

/-- The date, or date and time, that its parts make. -/
def Tag.Written.scalar (w : Tag.Written) : Except Fault Scalar :=
  let date : Date := ⟨numberOf w.year, numberOf w.month, numberOf w.day⟩
  match w.time with
  | none =>
    match date.fault? with
    | some f => .error (.moment f)
    | none => .ok (.date date)
  | some (hour, minute, second) =>
    let fraction := w.fraction.take 6
    let microsecond := numberOf (fraction ++ List.replicate (6 - fraction.length) '0')
    let m : Moment :=
      ⟨date, ⟨numberOf hour, numberOf minute, numberOf second, microsecond⟩,
        w.zone.map zoneOffset⟩
    match m.fault? with
    | some f => .error (.moment f)
    | none => .ok (.moment m)

/-- The truth value that a text spells, in any case of letters. -/
def truth (s : List Char) : Except Fault Scalar :=
  let name := String.ofList (Unicode.lower s)
  if ["yes", "true", "on"].contains name then .ok (.bool true)
  else if ["no", "false", "off"].contains name then .ok (.bool false)
  else .error .noTruth

/-- The bytes that a text writes. -/
def binary (s : List Char) : Except Fault Scalar :=
  if s.any fun c => 127 < c.toNat then .error .malformed
  else match Text.base64? s with
    | some bs => .ok (.bytes bs)
    | none => .error .malformed

/-- The scalar that a text is under a tag. -/
def scalarValue (tag : Tag) (s : List Char) : Except Fault Scalar :=
  match tag with
  | .null => .ok .null
  | .bool => truth s
  | .int => (integer s).map Scalar.int
  | .float => (float s).map Scalar.float
  | .binary => binary s
  | .timestamp =>
    match Tag.written? (Tag.withoutLineEnd s) with
    | some w => w.scalar
    | none => .error .noTimestamp
  | .text => .ok (.text (String.ofList s))
  | _ => .error .malformed

/-- Whether values under a tag are made of a text. -/
def Tag.isOfText : Tag → Bool
  | null | bool | int | float | binary | timestamp | text => true
  | _ => false

/-- Whether values under a tag are collections. -/
def Tag.isOfNodes : Tag → Bool
  | pairs | set | sequence | mapping => true
  | _ => false

/-- A scalar and where it came from. By that, two values that equal nothing are told apart. -/
structure Atom where
  value : Scalar
  /-- The node that it was made of; the number that is none, by its own name, is made of none. -/
  source : Option Nat
  deriving Repr, DecidableEq, Inhabited

/-- Whether two scalars are one key. -/
def Atom.same (a b : Atom) : Bool :=
  a.value.same b.value || a == b

/-- Whether a text is the name of the number that is none. -/
def namesNan (s : List Char) : Bool :=
  (takeSign (Unicode.lower (withoutUnderscores s))).2 == ".nan".toList

namespace Graph

/-- The node that stands for a mapping where a text is wanted: the value of the key that is there
for that. -/
def standIn? (g : Graph) (id : Nat) : Option Nat := do
  let fields ← g.fields? id
  let (_, value) ← fields.find? fun field => g.hasTag .value field.1
  return value

/-- The text of a node: that of a scalar, or of the node that stands for a mapping. It is found in
no more steps than there are nodes, or in no number of steps. -/
def textWithin (g : Graph) : Nat → Nat → Except Fault (List Char)
  | 0, _ => .error .tooDeep
  | n + 1, id =>
    match g.standIn? id with
    | some value => g.textWithin n value
    | none =>
      match g[id]? with
      | some ⟨_, .scalar s⟩ => .ok s
      | _ => .error .malformed

/-- The text of a node. -/
def text (g : Graph) (id : Nat) : Except Fault (List Char) :=
  g.textWithin (g.length + 1) id

/-- The scalar that a node is. A date is made of the text of a scalar alone. -/
def atom (g : Graph) (id : Nat) (n : Node) : Except Fault Atom := do
  let s ← g.text id
  if n.tag = .timestamp && n.fields?.isSome then .error .noText
  else
    let value ← scalarValue n.tag s
    return ⟨value, if n.tag = .float && namesNan s then none else some id⟩

end Graph

/-! ## Making values -/

/-- What a node is made into; a collection is told by the node. -/
inductive Made where
  | atom (a : Atom)
  | collection (id : Nat)
  deriving Repr, DecidableEq, Inhabited

/-- The collection that something is, if it is one. -/
def Made.collections : Made → List Nat
  | .atom _ => []
  | .collection id => [id]

/-- What a collection is filled with. -/
inductive Filling where
  | list (items : List Made)
  | pairs (items : List (Made × Made))
  | map (fields : List (Atom × Made))
  | set (fields : List (Atom × Made))
  deriving Repr, DecidableEq, Inhabited

/-- What was made so far. -/
structure Building where
  graph : Graph
  made : List (Nat × Made) := []
  filled : List (Nat × Filling) := []
  /-- The collections that are to be filled, in this order. -/
  waiting : List Nat := []
  deriving Repr, Inhabited

/-- A step that makes values. -/
abbrev Builder (α : Type) := StateT Building (Except Fault) α

/-- What a node is made into at first. -/
def Graph.begin (g : Graph) (id : Nat) : Except Fault Made :=
  match g[id]? with
  | some n =>
    if n.tag.isOfText then (g.atom id n).map .atom
    else if n.tag.isOfNodes then .ok (.collection id)
    else .error .malformed
  | none => .error .malformed

/-- What a node is made into, now or before. -/
def make (id : Nat) : Builder Made := do
  let b ← get
  match b.made.lookup id with
  | some m => return m
  | none =>
    let m ← b.graph.begin id
    set { b with made := (id, m) :: b.made, waiting := b.waiting ++ m.collections }
    return m

/-- Sets a key: an old key stays as it is and takes the new value. -/
def setField (key : Atom) (value : Made) : List (Atom × Made) → List (Atom × Made)
  | [] => [(key, value)]
  | (k, v) :: rest =>
    if k.same key then (k, value) :: rest else (k, v) :: setField key value rest

/-- Makes a field of a mapping, beside those that were made before. -/
def makeField (made : List (Atom × Made)) (field : Nat × Nat) :
    Builder (List (Atom × Made)) := do
  match (← make field.1) with
  | .collection _ => throw .malformed
  | .atom key =>
    let value ← make field.2
    return setField key value made

/-- Makes the fields of a node, which must be a mapping, without merge keys. -/
def makeMapping (id : Nat) : Builder (List (Atom × Made)) := do
  let b ← get
  let g ← b.graph.flatten (b.graph.merges + 1) id
  set { b with graph := g }
  ((g.fields? id).getD []).foldlM makeField []

/-- Makes a pair of a node, which must be a mapping of one field. -/
def makePair (id : Nat) : Builder (Made × Made) := do
  match (← get).graph.fields? id with
  | some [(k, v)] =>
    let key ← make k
    let value ← make v
    return (key, value)
  | _ => throw .malformed

/-- What fills the collection that a node was made into. -/
def filling (id : Nat) : Builder Filling := do
  match (← get).graph[id]? with
  | some ⟨.sequence, .sequence items⟩ => return .list (← items.mapM make)
  | some ⟨.pairs, .sequence items⟩ => return .pairs (← items.mapM makePair)
  | some ⟨.mapping, _⟩ => return .map (← makeMapping id)
  | some ⟨.set, _⟩ => return .set (← makeMapping id)
  | _ => throw .malformed

/-- Fills the collections that are to be filled and those that come to be, of which there are at
most so many. -/
def fillAll : Nat → Builder Unit
  | 0 => return
  | n + 1 => do
    match (← get).waiting with
    | [] => return
    | id :: rest =>
      modify fun b => { b with waiting := rest }
      let content ← filling id
      modify fun b => { b with filled := b.filled ++ [(id, content)] }
      fillAll n

/-- Makes something of a node and of all that it holds, which are at most so many collections. -/
def makeAll (n : Nat) (root : Nat) : Builder Made := do
  let m ← make root
  fillAll n
  return m

/-- The value of what was made, to so many levels. A collection in itself is told by how many
others lie in between, pairs aside. -/
def valueWithin (filled : List (Nat × Filling)) : Nat → List Nat → Made → PackageDoc.Value
  | _, _, .atom a => .scalar a.value
  | 0, _, .collection _ => .list []
  | n + 1, above, .collection id =>
    let value := valueWithin filled n (id :: above)
    match above.idxOf? id with
    | some levels => .again levels
    | none =>
      match filled.lookup id with
      | some (.list items) => .list (items.map value)
      | some (.pairs items) => .list (items.map fun p => .list [value p.1, value p.2])
      | some (.map fields) => .map (fields.map fun f => (f.1.value, value f.2))
      | some (.set fields) => .set (fields.map fun f => f.1.value)
      | none => .list []

/-- The value of a node. -/
def Graph.value (g : Graph) (root : Nat) : Except Fault PackageDoc.Value := do
  let (m, b) ← (makeAll g.length root).run { graph := g }
  return valueWithin b.filled (b.filled.length + 1) [] m

/-- The value that a text writes; an empty one writes nothing. -/
def load (s : List Char) : Except Fault PackageDoc.Value := do
  match (← Document.ofText s) with
  | none => return .null
  | some d => d.graph.value d.root

end PackageDoc.Yaml
