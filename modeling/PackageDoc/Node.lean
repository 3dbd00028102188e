import PackageDoc.Value

/-!
# Document trees

A Markdown document is a tree of nodes. A node is a leaf, a container of further nodes, or a
table, whose head row stands apart from its body. What a leaf or container is, with the data of its
own, is its `Leaf` or `Container`; every node can also carry metadata and a place in its source.

    children n      the nodes directly below n, in order; a table's head row comes first
    preorder n      n and all nodes below it, each with its depth
-/

namespace PackageDoc

/-- How the text of a table column is set. -/
inductive Alignment where
  | left
  | center
  | right
  deriving Repr, DecidableEq, Inhabited

/-- The level of a heading. -/
structure HeadingLevel where
  val : Nat
  one_le : 1 ≤ val := by decide
  le_six : val ≤ 6 := by decide
  deriving Repr, DecidableEq

namespace HeadingLevel

instance : Inhabited HeadingLevel := ⟨⟨1, by decide, by decide⟩⟩

/-- The level of a number, if it is one. -/
def ofInt? (i : Int) : Option HeadingLevel :=
  if h : 1 ≤ i.toNat ∧ i.toNat ≤ 6 then some ⟨i.toNat, h.1, h.2⟩ else none

end HeadingLevel

/-- A place in a source document. -/
structure Location where
  format : String
  line : Option Int := none
  column : Option Int := none
  metadata : Fields := []
  deriving Repr, Inhabited

/-- What any node can carry. -/
structure Info where
  metadata : Fields := []
  location : Option Location := none
  deriving Repr, Inhabited

/-- The nodes without others below them; `custom` stands for kinds that others define. -/
inductive Leaf where
  | codeBlock (content : String) (language : Option String)
  | thematicBreak
  | htmlBlock (content : String)
  | text (content : String)
  | code (content : String)
  | image (url alt : String) (title : Option String)
  | lineBreak (soft : Bool)
  | htmlInline (content : String)
  | footnoteReference (identifier : String)
  | custom (name : String)
  deriving Repr, DecidableEq, Inhabited

/-- The nodes that hold others, tables apart. -/
inductive Container where
  | document
  | heading (level : HeadingLevel)
  | paragraph
  | blockQuote
  | list (ordered : Bool) (start : Int) (tight : Bool)
  | listItem
  | tableRow (isHeader : Bool)
  | tableCell (alignment : Option Alignment)
  | footnoteDefinition (identifier : String)
  | emphasis
  | strong
  | strikethrough
  | link (url : String) (title : Option String)
  deriving Repr, DecidableEq, Inhabited

/-- A document tree. -/
inductive Node where
  | leaf (kind : Leaf) (info : Info)
  | container (kind : Container) (children : List Node) (info : Info)
  | table (head : Option Node) (body : List Node) (alignments : List (Option Alignment))
      (info : Info)
  deriving Repr, Inhabited

namespace Node

/-! ## Building nodes -/

def document (children : List Node) (metadata : Fields := []) : Node :=
  .container .document children ⟨metadata, none⟩

def heading (level : HeadingLevel) (content : List Node) : Node :=
  .container (.heading level) content {}

def paragraph (content : List Node) : Node :=
  .container .paragraph content {}

def text (content : String) : Node :=
  .leaf (.text content) {}

/-! ## Parts -/

/-- The nodes directly below a node, in order. -/
def children : Node → List Node
  | .leaf _ _ => []
  | .container _ children _ => children
  | .table head body _ _ => head.toList ++ body

def info : Node → Info
  | .leaf _ info => info
  | .container _ _ info => info
  | .table _ _ _ info => info

/-- Whether a node is the root of a document. -/
def isDocument : Node → Bool
  | .container .document _ _ => true
  | _ => false

end Node

/-! ## Names -/

def Leaf.name : Leaf → String
  | .codeBlock .. => "CodeBlock"
  | .thematicBreak => "ThematicBreak"
  | .htmlBlock _ => "HTMLBlock"
  | .text _ => "Text"
  | .code _ => "Code"
  | .image .. => "Image"
  | .lineBreak _ => "LineBreak"
  | .htmlInline _ => "HTMLInline"
  | .footnoteReference _ => "FootnoteReference"
  | .custom name => name

def Container.name : Container → String
  | .document => "Document"
  | .heading _ => "Heading"
  | .paragraph => "Paragraph"
  | .blockQuote => "BlockQuote"
  | .list .. => "List"
  | .listItem => "ListItem"
  | .tableRow _ => "TableRow"
  | .tableCell _ => "TableCell"
  | .footnoteDefinition _ => "FootnoteDefinition"
  | .emphasis => "Emphasis"
  | .strong => "Strong"
  | .strikethrough => "Strikethrough"
  | .link .. => "Link"

/-- The name of a node's kind. -/
def Node.name : Node → String
  | .leaf kind _ => kind.name
  | .container kind _ _ => kind.name
  | .table .. => "Table"

/-! ## Traversal -/

namespace Node

mutual

/-- A node and all nodes below it in the order of the text, each with its depth. -/
def preorderFrom (depth : Nat) : Node → List (Nat × Node)
  | .leaf kind info => [(depth, .leaf kind info)]
  | .container kind children info =>
    (depth, .container kind children info) :: preorderAll (depth + 1) children
  | .table head body alignments info =>
    (depth, .table head body alignments info) ::
      ((match head with
        | none => []
        | some row => preorderFrom (depth + 1) row) ++ preorderAll (depth + 1) body)
termination_by structural n => n

/-- The preorder of each node of a list, one after another. -/
def preorderAll (depth : Nat) : List Node → List (Nat × Node)
  | [] => []
  | n :: ns => preorderFrom depth n ++ preorderAll depth ns
termination_by structural ns => ns

end

/-- A node and all nodes below it, each with its depth. -/
def preorder (n : Node) : List (Nat × Node) :=
  preorderFrom 0 n

/-! ## Comparison -/

end Node

/-- Whether two places compare equal. -/
def Location.same (a b : Location) : Bool :=
  a.format == b.format && a.line == b.line && a.column == b.column &&
    Value.same (.map a.metadata) (.map b.metadata)

/-- Whether what two nodes carry compares equal. -/
def Info.same (a b : Info) : Bool :=
  Value.same (.map a.metadata) (.map b.metadata) &&
    match a.location, b.location with
    | none, none => true
    | some p, some q => p.same q
    | _, _ => false

namespace Node

mutual

/-- Whether two trees compare equal: the same kinds with equal data in the same places. -/
def same : Node → Node → Bool
  | .leaf k i, .leaf k' i' => k == k' && i.same i'
  | .container k ns i, .container k' ns' i' => k == k' && i.same i' && sameAll ns ns'
  | .table h ns as i, .table h' ns' as' i' =>
    as == as' && i.same i' && (match h, h' with
      | none, none => true
      | some r, some r' => same r r'
      | _, _ => false) && sameAll ns ns'
  | _, _ => false
termination_by structural n => n

/-- Whether two lists of trees compare equal one by one. -/
def sameAll : List Node → List Node → Bool
  | [], [] => true
  | n :: ns, n' :: ns' => same n n' && sameAll ns ns'
  | _, _ => false
termination_by structural ns => ns

end

/-! ## Lemmas -/

theorem preorderFrom_cons (depth : Nat) (n : Node) :
    preorderFrom depth n = (depth, n) :: preorderAll (depth + 1) n.children := by
  cases n with
  | leaf => simp [preorderFrom, children, preorderAll]
  | container => simp [preorderFrom, children]
  | table head =>
    cases head <;> simp [preorderFrom, children, preorderAll]

end Node

end PackageDoc
