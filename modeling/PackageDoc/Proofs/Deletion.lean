import PackageDoc.Proofs.Tree

/-!
# Deleting nodes from a tree

`n.without gone linked` is the tree `n` after every node that a test picks has been deleted from
the lists of nodes in it, together with everything below that node. The test is told whether the
node stands in a link; `linked` says so of `n` itself, which is never deleted.

    children of a container       withoutAll gone (linked || it is a link) of its children
    rows of a table               withoutAll gone linked of its rows
    if nothing is picked          the tree stays as it is                     (without_eq_self)
-/

namespace PackageDoc

def Container.isLink : Container → Bool
  | .link .. => true
  | _ => false

def Container.isList : Container → Bool
  | .list .. => true
  | _ => false

namespace Node

def isList : Node → Bool
  | .container kind _ _ => kind.isList
  | _ => false

def isItem : Node → Bool
  | .container .listItem _ _ => true
  | _ => false

mutual

/-- A tree without the nodes below it that a test picks. -/
def without (gone : Bool → Node → Bool) (linked : Bool) : Node → Node
  | .leaf kind info => .leaf kind info
  | .container kind children info =>
    .container kind (withoutAll gone (linked || kind.isLink) children) info
  | .table head body alignments info =>
    .table (match head with
      | none => none
      | some row => if gone linked row then none else some (without gone linked row))
      (withoutAll gone linked body) alignments info
termination_by structural n => n

/-- A list of trees without those that a test picks, and each of the others without what the test
picks below it. -/
def withoutAll (gone : Bool → Node → Bool) (linked : Bool) : List Node → List Node
  | [] => []
  | n :: ns =>
    if gone linked n then withoutAll gone linked ns
    else without gone linked n :: withoutAll gone linked ns
termination_by structural ns => ns

end

variable {gone : Bool → Node → Bool} {linked : Bool} {n : Node} {ns : List Node}

theorem withoutAll_cons_of_gone (h : gone linked n = true) :
    withoutAll gone linked (n :: ns) = withoutAll gone linked ns := by
  rw [withoutAll, if_pos h]

theorem withoutAll_cons_of_kept (h : gone linked n = false) :
    withoutAll gone linked (n :: ns) = n.without gone linked :: withoutAll gone linked ns := by
  rw [withoutAll, h, if_neg Bool.false_ne_true]

/-- Only in a link are the children told that they are in one. -/
theorem without_container {kind : Container} {info : Info} (h : kind.isLink = false) :
    (container kind ns info).without gone linked =
      container kind (withoutAll gone linked ns) info := by
  rw [without, h, Bool.or_false]

theorem isDocument_without (gone : Bool → Node → Bool) (linked : Bool) (n : Node) :
    (n.without gone linked).isDocument = n.isDocument := by
  cases n with
  | leaf => rfl
  | container => exact isDocument_container _ _ _ _ _
  | table head => cases head <;> rfl

/-- Where nothing is picked, a list of trees that stay as they are stays as it is. -/
theorem withoutAll_eq_self (hkept : ∀ n ∈ ns, gone linked n = false)
    (hself : ∀ n ∈ ns, n.without gone linked = n) : withoutAll gone linked ns = ns := by
  induction ns with
  | nil => rfl
  | cons n ns ih =>
    obtain ⟨hn, hns⟩ := List.forall_mem_cons.1 hkept
    obtain ⟨hn', hns'⟩ := List.forall_mem_cons.1 hself
    rw [withoutAll_cons_of_kept hn, hn', ih hns hns']

/-- A tree of which no node is picked stays as it is. -/
theorem without_eq_self (h : ∀ linked, ∀ m ∈ n.nodes, gone linked m = false) (linked : Bool) :
    n.without gone linked = n := by
  induction n generalizing linked with
  | leaf => rfl
  | container kind ns info ih =>
    have below : ∀ c ∈ ns, ∀ linked, ∀ m ∈ c.nodes, gone linked m = false :=
      fun c hc linked m hm => h linked m (mem_nodes_of_mem_children hc hm)
    have hns : withoutAll gone (linked || kind.isLink) ns = ns := by
      apply withoutAll_eq_self
      · exact fun c hc => below c hc _ c c.mem_nodes_self
      · exact fun c hc => ih c hc (below c hc) _
    rw [without, hns]
  | table head body alignments info ih =>
    have below : ∀ c ∈ (Node.table head body alignments info).children,
        ∀ linked, ∀ m ∈ c.nodes, gone linked m = false :=
      fun c hc linked m hm => h linked m (mem_nodes_of_mem_children hc hm)
    have hbody : ∀ c ∈ body, c ∈ (Node.table head body alignments info).children :=
      fun c hc => List.mem_append_right _ hc
    have hns : withoutAll gone linked body = body := by
      apply withoutAll_eq_self
      · exact fun c hc => below c (hbody c hc) _ c c.mem_nodes_self
      · exact fun c hc => ih c (hbody c hc) (below c (hbody c hc)) _
    cases head with
    | none => rw [without, hns]
    | some row =>
      have hrow : row ∈ (Node.table (some row) body alignments info).children :=
        List.mem_cons_self
      have hkept := below row hrow linked row row.mem_nodes_self
      have hself := ih row hrow (below row hrow) linked
      simp only [without, hns, hkept, hself, Bool.false_eq_true, if_false]

end Node

end PackageDoc
