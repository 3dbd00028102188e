import PackageDoc.Yaml.Resolve
import PackageDoc.Yaml.Token

/-!
# Nodes of YAML

The nodes that tokens write: scalars, sequences and mappings, each with its tag. An alias stands for
the node that its anchor was put on. That node must have begun before it and need not be complete,
so nodes form a graph, which may lead back to where it came from. They are told by their numbers, in
the order in which they begin. A text holds one document at most.

    document? ts    the document that the tokens ts write, if they write any
-/

namespace PackageDoc.Yaml

/-! ## Graphs -/

/-- What a node holds: its text, or the numbers of other nodes. -/
inductive Content where
  | scalar (text : List Char)
  | sequence (items : List Nat)
  | mapping (fields : List (Nat × Nat))
  deriving Repr, DecidableEq, Inhabited

/-- A node with its tag. -/
structure Node where
  tag : Tag
  content : Content
  deriving Repr, DecidableEq, Inhabited

/-- Nodes by their numbers. -/
abbrev Graph := List Node

/-- A graph and the node that it is about. -/
structure Document where
  graph : Graph
  root : Nat
  deriving Repr, DecidableEq, Inhabited

/-- Gives a node other content. -/
def Graph.setContent (g : Graph) (id : Nat) (content : Content) : Graph :=
  g.modify id fun n => { n with content }

/-! ## Reading tokens -/

/-- The tokens left to read, the nodes so far, and what earlier tokens declared. -/
structure Reading where
  tokens : List Token
  graph : Graph := []
  anchors : List (List Char × Nat) := []
  handles : List (List Char × List Char) := []
  deriving Repr, Inhabited

/-- A reader of tokens. -/
abbrev Reader (α : Type) := StateT Reading (Except Fault) α

namespace Reader

/-- The next token. A fault of the text comes up when its place is reached. -/
def peek : Reader Token := do
  match (← get).tokens with
  | [] => return .finish
  | .broken f :: _ => throw f
  | t :: _ => return t

/-- Moves to the token after the next. -/
def skip : Reader Unit :=
  modify fun r => { r with tokens := r.tokens.tail }

/-- Moves over a token if it is the next. -/
def accept (t : Token) : Reader Bool := do
  if (← peek) = t then
    skip
    return true
  else return false

/-- Moves over a token, which must be the next. -/
def expect (t : Token) : Reader Unit := do
  if !(← accept t) then throw .malformed

/-- Whether the next token is one of some. -/
def nextIn (ts : List Token) : Reader Bool := do
  return ts.contains (← peek)

end Reader

open Reader

/-! ## Properties -/

/-- The anchor and the tag before a node. -/
structure Properties where
  anchor : Option (List Char) := none
  tag : Option (List Char) := none
  deriving Repr, DecidableEq, Inhabited

/-- The anchor that comes next, if one does. -/
def anchor? : Reader (Option (List Char)) := do
  match (← peek) with
  | .anchor name =>
    skip
    return some name
  | _ => return none

/-- The full name of a tag, whose handle must be declared. -/
def tagName (handle : Option (List Char)) (suffix : List Char) : Reader (List Char) := do
  match handle with
  | none => return suffix
  | some h =>
    match (← get).handles.lookup h with
    | some start => return start ++ suffix
    | none => throw .malformed

/-- The anchor and the tag before a node, in either order. -/
def properties : Reader Properties := do
  match (← peek) with
  | .tag handle suffix =>
    skip
    let anchor ← anchor?
    return { anchor, tag := some (← tagName handle suffix) }
  | .anchor name =>
    skip
    match (← peek) with
    | .tag handle suffix =>
      skip
      return { anchor := some name, tag := some (← tagName handle suffix) }
    | _ => return { anchor := some name }
  | _ => return {}

/-- The node of a scalar. A plain one without a tag, and any with the tag that says nothing, is
what its text looks like. -/
def scalarNode (tag : Option (List Char)) (text : List Char) (plain : Bool) : Node :=
  match tag with
  | none => ⟨if plain then Tag.ofPlain text else .text, .scalar text⟩
  | some ['!'] => ⟨Tag.ofPlain text, .scalar text⟩
  | some name => ⟨Tag.ofName name, .scalar text⟩

/-- The tag of a collection. -/
def collectionTag (tag : Option (List Char)) (usual : Tag) : Tag :=
  match tag with
  | none => usual
  | some ['!'] => usual
  | some name => Tag.ofName name

/-! ## Nodes -/

/-- Begins a node, under its anchor if it has one, which must not be in use. -/
def start (anchor : Option (List Char)) (n : Node) : Reader Nat := do
  let r ← get
  let id := r.graph.length
  match anchor with
  | none => set { r with graph := r.graph ++ [n] }
  | some name =>
    if (r.anchors.lookup name).isSome then throw .malformed
    else set { r with graph := r.graph ++ [n], anchors := (name, id) :: r.anchors }
  return id

/-- The node of nothing. -/
def emptyNode : Reader Nat :=
  start none ⟨.null, .scalar []⟩

/-- A node without content, which its properties must announce. -/
def bare (given : Properties) : Reader Nat :=
  if given.anchor.isSome || given.tag.isSome then
    start given.anchor (scalarNode given.tag [] true)
  else throw .malformed

/-- A collection, from its first token on. It has begun before what it holds is read. -/
def collection (given : Properties) (usual : Tag) (read : Reader Content) : Reader Nat := do
  let id ← start given.anchor ⟨collectionTag given.tag usual, .sequence []⟩
  skip
  let content ← read
  modify fun r => { r with graph := r.graph.setContent id content }
  return id

/-- Where a node stands: between brackets, or where lines are indented; there, the entries of a
sequence as value of a mapping need not be indented further. -/
inductive Place where
  | flow
  | block
  | blockOrEntries
  deriving Repr, DecidableEq, Inhabited

mutual

/-- Reads a node. Every step takes one of so many. -/
def node : Nat → Place → Reader Nat
  | 0, _ => throw .tooDeep
  | n + 1, place => do
    match (← peek) with
    | .alias name =>
      skip
      match (← get).anchors.lookup name with
      | some id => return id
      | none => throw .malformed
    | _ =>
      let given ← properties
      match (← peek) with
      | .blockEntry =>
        if place = .blockOrEntries then
          collection given .sequence (.sequence <$> entries n)
        else bare given
      | .scalar text plain =>
        skip
        start given.anchor (scalarNode given.tag text plain)
      | .flowSequence => collection given .sequence (.sequence <$> flowItems n true)
      | .flowMapping => collection given .mapping (.mapping <$> flowFields n true)
      | .blockSequence =>
        if place = .flow then bare given
        else collection given .sequence (.sequence <$> blockItems n)
      | .blockMapping =>
        if place = .flow then bare given
        else collection given .mapping (.mapping <$> blockFields n)
      | _ => bare given

/-- The entries of an indented sequence after its beginning. -/
def blockItems : Nat → Reader (List Nat)
  | 0 => throw .tooDeep
  | n + 1 => do
    if (← accept .blockEntry) then
      let item ← if (← nextIn [.blockEntry, .blockEnd]) then emptyNode else node n .block
      return item :: (← blockItems n)
    else
      expect .blockEnd
      return []

/-- The entries of a sequence that is not indented further, after the dash of the first one. -/
def entries : Nat → Reader (List Nat)
  | 0 => throw .tooDeep
  | n + 1 => do
    let item ←
      if (← nextIn [.blockEntry, .key, .value, .blockEnd]) then emptyNode else node n .block
    if (← accept .blockEntry) then return item :: (← entries n) else return [item]

/-- The fields of an indented mapping after its beginning. -/
def blockFields : Nat → Reader (List (Nat × Nat))
  | 0 => throw .tooDeep
  | n + 1 => do
    if (← accept .key) then
      let k ← if (← nextIn [.key, .value, .blockEnd]) then emptyNode else node n .blockOrEntries
      let v ← blockValue n
      return (k, v) :: (← blockFields n)
    else
      expect .blockEnd
      return []

/-- The value of a field in an indented mapping. -/
def blockValue : Nat → Reader Nat
  | 0 => throw .tooDeep
  | n + 1 => do
    if (← accept .value) then
      if (← nextIn [.key, .value, .blockEnd]) then emptyNode else node n .blockOrEntries
    else emptyNode

/-- The items of a sequence in brackets, the first or a further one. -/
def flowItems : Nat → Bool → Reader (List Nat)
  | 0, _ => throw .tooDeep
  | n + 1, first => do
    if (← accept .flowSequenceEnd) then return []
    else
      if !first then expect .flowEntry
      if (← accept .key) then
        let id ← start none ⟨.mapping, .mapping []⟩
        let k ←
          if (← nextIn [.value, .flowEntry, .flowSequenceEnd]) then emptyNode else node n .flow
        let v ← flowValue n .flowSequenceEnd
        modify fun r => { r with graph := r.graph.setContent id (.mapping [(k, v)]) }
        return id :: (← flowItems n false)
      else if (← accept .flowSequenceEnd) then return []
      else
        let item ← node n .flow
        return item :: (← flowItems n false)

/-- The value of a field between brackets. -/
def flowValue : Nat → Token → Reader Nat
  | 0, _ => throw .tooDeep
  | n + 1, close => do
    if (← accept .value) then
      if (← nextIn [.flowEntry, close]) then emptyNode else node n .flow
    else emptyNode

/-- The fields of a mapping in brackets, the first or a further one. -/
def flowFields : Nat → Bool → Reader (List (Nat × Nat))
  | 0, _ => throw .tooDeep
  | n + 1, first => do
    if (← accept .flowMappingEnd) then return []
    else
      if !first then expect .flowEntry
      if (← accept .key) then
        let k ←
          if (← nextIn [.value, .flowEntry, .flowMappingEnd]) then emptyNode else node n .flow
        let v ← flowValue n .flowMappingEnd
        return (k, v) :: (← flowFields n false)
      else if (← accept .flowMappingEnd) then return []
      else
        let k ← node n .flow
        let v ← emptyNode
        return (k, v) :: (← flowFields n false)

end

/-! ## Documents -/

/-- The handles that need no declaration. -/
def usualHandles : List (List Char × List Char) :=
  [(['!'], ['!']), (['!', '!'], "tag:yaml.org,2002:".toList)]

/-- Reads directives; a version or a handle must not be declared twice, and the version must be the
first. Every step takes one of so many. -/
def directives : Nat → (versioned : Bool) → List (List Char × List Char) →
    Reader (List (List Char × List Char))
  | 0, _, _ => throw .tooDeep
  | n + 1, versioned, declared => do
    match (← peek) with
    | .versionDirective major =>
      skip
      if versioned || major ≠ 1 then throw .malformed else directives n true declared
    | .tagDirective handle start =>
      skip
      if (declared.lookup handle).isSome then throw .malformed
      else directives n versioned ((handle, start) :: declared)
    | .otherDirective =>
      skip
      directives n versioned declared
    | _ => return declared

/-- Whether the next token starts a document with a marker. -/
def startsExplicitly : Reader Bool := do
  match (← peek) with
  | .versionDirective _ => return true
  | .tagDirective .. => return true
  | .otherDirective => return true
  | t => return t = .documentStart

/-- Moves over ends of documents. -/
def skipEnds : Reader Unit :=
  modify fun r => { r with tokens := r.tokens.dropWhile (· = .documentEnd) }

/-- Reads a document that starts with a marker. -/
def explicitDocument (n : Nat) : Reader Nat := do
  let declared ← directives n false []
  expect .documentStart
  modify fun r => { r with
    handles := declared ++ usualHandles.filter fun h => (declared.lookup h.1).isNone }
  if (← startsExplicitly) || (← nextIn [.documentEnd, .finish]) then emptyNode
  else node n .block

/-- Reads at most one document. The directives of another one are still read. -/
def document (n : Nat) : Reader (Option Nat) := do
  if (← peek) = .finish then return none
  else
    let root ←
      if (← startsExplicitly) then explicitDocument n
      else
        modify fun r => { r with handles := usualHandles }
        node n .block
    skipEnds
    if (← peek) = .finish then return some root
    else
      let _ ← directives n false []
      throw .malformed

/-- The document that tokens write, if they write any. No token is looked at in more than three
steps. -/
def document? (ts : List Token) : Except Fault (Option Document) := do
  let (root, r) ← (document (3 * ts.length + 2)).run { tokens := ts }
  return root.map (⟨r.graph, ·⟩)

/-- The document that a text writes, if it writes any. -/
def Document.ofText (s : List Char) : Except Fault (Option Document) :=
  document? (tokens s)

end PackageDoc.Yaml
