import PackageDoc.Node

/-!
# Trees: induction, nodes and shape

Induction over a tree goes by its children. The nodes of a tree are itself and those of its
children:

    n.nodes = n :: n.children.flatMap nodes                     (nodes_eq)

`Fits place n` is the shape that reading Markdown gives a tree: blocks stand in documents and in
list items, items in lists, running text in headings, paragraphs, emphasis and links, and no link
stands in a link. Nothing is said of what stands below quotes, tables and footnotes.
-/

namespace PackageDoc

/-! ## Induction -/

namespace Node

@[simp] theorem children_leaf (kind : Leaf) (info : Info) : (Node.leaf kind info).children = [] :=
  rfl

@[simp] theorem children_container (kind : Container) (ns : List Node) (info : Info) :
    (Node.container kind ns info).children = ns := rfl

/-- Whether a container is a document does not depend on what it holds. -/
theorem isDocument_container (kind : Container) (ns ns' : List Node) (info info' : Info) :
    (Node.container kind ns info).isDocument = (Node.container kind ns' info').isDocument := by
  cases kind <;> rfl

theorem sizeOf_lt_of_mem_children {c n : Node} (h : c ∈ n.children) : sizeOf c < sizeOf n := by
  cases n with
  | leaf => simp at h
  | container kind ns info =>
    have := List.sizeOf_lt_of_mem (show c ∈ ns from h)
    simp only [container.sizeOf_spec]
    omega
  | table head body alignments info =>
    simp only [children, List.mem_append, Option.mem_toList] at h
    rcases h with rfl | h
    · simp only [table.sizeOf_spec, Option.some.sizeOf_spec]
      omega
    · have := List.sizeOf_lt_of_mem h
      simp only [table.sizeOf_spec]
      omega

/-- What holds of a node whenever it holds of its children holds of every node. -/
@[elab_as_elim, induction_eliminator]
theorem induction {motive : Node → Prop}
    (leaf : ∀ kind info, motive (.leaf kind info))
    (container : ∀ kind children info, (∀ c ∈ children, motive c) →
      motive (.container kind children info))
    (table : ∀ head body alignments info,
      (∀ c ∈ (Node.table head body alignments info).children, motive c) →
      motive (.table head body alignments info)) (n : Node) : motive n := by
  have below : ∀ c ∈ n.children, motive c := fun c _ => induction leaf container table c
  cases n with
  | leaf => exact leaf _ _
  | container => exact container _ _ _ below
  | table => exact table _ _ _ _ below
termination_by sizeOf n
decreasing_by exact sizeOf_lt_of_mem_children ‹_›

/-! ## Nodes -/

/-- A node and all nodes below it, in the order of the text. -/
def nodes (n : Node) : List Node :=
  n.preorder.map Prod.snd

theorem map_snd_preorderAll {ns : List Node}
    (h : ∀ n ∈ ns, ∀ depth, (preorderFrom depth n).map Prod.snd = n.nodes) (depth : Nat) :
    (preorderAll depth ns).map Prod.snd = ns.flatMap nodes := by
  induction ns with
  | nil => rfl
  | cons n ns ih =>
    rw [preorderAll, List.map_append, List.flatMap_cons, h n List.mem_cons_self,
      ih fun m hm => h m (List.mem_cons_of_mem _ hm)]

/-- The depth at which a traversal starts does not matter to the nodes it meets. -/
theorem map_snd_preorderFrom (n : Node) (depth : Nat) :
    (preorderFrom depth n).map Prod.snd = n.nodes := by
  induction n generalizing depth with
  | leaf => simp [nodes, preorder, preorderFrom]
  | container kind ns info ih =>
    rw [nodes, preorder, preorderFrom_cons, preorderFrom_cons, List.map_cons, List.map_cons,
      children_container, map_snd_preorderAll ih, map_snd_preorderAll ih]
  | table head body alignments info ih =>
    rw [nodes, preorder, preorderFrom_cons, preorderFrom_cons, List.map_cons, List.map_cons,
      map_snd_preorderAll ih, map_snd_preorderAll ih]

theorem nodes_eq (n : Node) : n.nodes = n :: n.children.flatMap nodes := by
  rw [nodes, preorder, preorderFrom_cons, List.map_cons,
    map_snd_preorderAll fun c _ depth => map_snd_preorderFrom c depth]

theorem mem_nodes_self (n : Node) : n ∈ n.nodes := by
  rw [nodes_eq]
  exact List.mem_cons_self

theorem mem_nodes_of_mem_children {m c n : Node} (hc : c ∈ n.children) (hm : m ∈ c.nodes) :
    m ∈ n.nodes := by
  rw [nodes_eq]
  exact List.mem_cons_of_mem _ (List.mem_flatMap.2 ⟨c, hc, hm⟩)

/-- The texts of a node that are written just as they are: inline code, and what a link says of
its target. -/
def verbatim : Node → List String
  | .leaf (.code content) _ => [content]
  | .container (.link url title) _ _ => title.toList ++ [url]
  | _ => []

end Node

/-! ## Shape -/

/-- The leaves that stand among blocks. -/
def Leaf.isBlock : Leaf → Bool
  | .codeBlock .. | .thematicBreak | .htmlBlock _ => true
  | _ => false

/-- The leaves that stand in running text. -/
def Leaf.isInline : Leaf → Bool
  | .text _ | .code _ | .image .. | .lineBreak _ | .htmlInline _ | .footnoteReference _ => true
  | _ => false

/-- The containers that have no counterpart in a comment. -/
def Container.isDropped : Container → Bool
  | .blockQuote | .tableRow _ | .tableCell _ | .footnoteDefinition _ => true
  | _ => false

def Node.isHeading : Node → Bool
  | .container (.heading _) _ _ => true
  | _ => false

/-- Where a node can stand: among blocks, among the items of a list, or in running text, which may
be that of a link. -/
inductive Position where
  | block
  | item
  | inline (linked : Bool)
  deriving Repr, DecidableEq, Inhabited

/-- Whether a node, and everything below it that matters to a comment, stands where it belongs. -/
inductive Node.Fits : Position → Node → Prop
  | blockLeaf {kind info} (h : kind.isBlock = true) : Fits .block (.leaf kind info)
  | inlineLeaf {linked kind info} (h : kind.isInline = true) :
      Fits (.inline linked) (.leaf kind info)
  | heading {level ns info} (h : ∀ n ∈ ns, Fits (.inline false) n) :
      Fits .block (.container (.heading level) ns info)
  | paragraph {ns info} (h : ∀ n ∈ ns, Fits (.inline false) n) :
      Fits .block (.container .paragraph ns info)
  | list {ordered start tight ns info} (h : ∀ n ∈ ns, Fits .item n) :
      Fits .block (.container (.list ordered start tight) ns info)
  | listItem {ns info} (h : ∀ n ∈ ns, Fits .block n) : Fits .item (.container .listItem ns info)
  | dropped {kind ns info} (h : kind.isDropped = true) : Fits .block (.container kind ns info)
  | table {head body alignments info} : Fits .block (.table head body alignments info)
  | emphasis {linked ns info} (h : ∀ n ∈ ns, Fits (.inline linked) n) :
      Fits (.inline linked) (.container .emphasis ns info)
  | strong {linked ns info} (h : ∀ n ∈ ns, Fits (.inline linked) n) :
      Fits (.inline linked) (.container .strong ns info)
  | strikethrough {linked ns info} (h : ∀ n ∈ ns, Fits (.inline linked) n) :
      Fits (.inline linked) (.container .strikethrough ns info)
  | link {url title ns info} (h : ∀ n ∈ ns, Fits (.inline true) n) :
      Fits (.inline false) (.container (.link url title) ns info)

theorem Node.fits_of_mem_text {linked : Bool} {n : Node} (t : String) (h : n ∈ [Node.text t]) :
    n.Fits (.inline linked) := by
  rw [List.mem_singleton.1 h]
  exact .inlineLeaf rfl

theorem Node.Fits.isDocument_eq_false {n : Node} (h : n.Fits .block) : n.isDocument = false := by
  cases h with
  | @dropped kind ns info hd =>
    cases kind with
    | document => simp [Container.isDropped] at hd
    | _ => rfl
  | _ => rfl

end PackageDoc
