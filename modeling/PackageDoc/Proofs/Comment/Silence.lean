import PackageDoc.Options
import PackageDoc.Proofs.Lines
import PackageDoc.Proofs.Tree

/-!
# Silent nodes

A node is silent if it leaves nothing in a comment that is at the beginning of a line: what is
dropped, images and line breaks, blank texts and code blocks, inline code of nothing, suppressed
badges and links that show nothing, lists without items, and headings and paragraphs of silent
nodes. Markers and bullets are written whatever they surround, so emphasis and list items are
never silent.
-/

namespace PackageDoc

def Leaf.isImage : Leaf → Bool
  | .image .. => true
  | _ => false

def Leaf.silent : Leaf → Bool
  | .text content => content.toList.all Text.isBlank
  | .code content => content.toList.isEmpty
  | .codeBlock content _ => content.toList.all Text.isBlank
  | .image .. | .lineBreak _ => true
  | .thematicBreak | .htmlBlock _ | .htmlInline _ | .footnoteReference _ => true
  | .custom _ => false

namespace Node

def isImage : Node → Bool
  | .leaf kind _ => kind.isImage
  | _ => false

/-- Whether there is an image in a tree. -/
def pictured (n : Node) : Bool :=
  n.nodes.any isImage

mutual

/-- Whether a node leaves nothing in a comment. -/
def silent (o : Comment.Options) : Node → Bool
  | .leaf kind _ => kind.silent
  | .table .. => true
  | .container kind children _ =>
    match kind with
    | .heading _ => silentAll o children
    | .paragraph => silentAll o children
    | .list .. => children.isEmpty
    | .link url title =>
      (o.suppressBadges && children.any pictured) ||
        (title.all String.isEmpty && url.isEmpty && silentAll o children)
    | .document | .listItem | .emphasis | .strong | .strikethrough => false
    | .blockQuote | .tableRow _ | .tableCell _ | .footnoteDefinition _ => true
termination_by structural n => n

/-- Whether all nodes of a list are silent. -/
def silentAll (o : Comment.Options) : List Node → Bool
  | [] => true
  | n :: ns => silent o n && silentAll o ns
termination_by structural ns => ns

end

theorem silentAll_iff {o : Comment.Options} {ns : List Node} :
    silentAll o ns = true ↔ ∀ n ∈ ns, n.silent o = true := by
  induction ns with
  | nil => simp [silentAll]
  | cons n ns ih => simp [silentAll, ih]

theorem silent_of_isDropped {kind : Container} (h : kind.isDropped = true)
    (o : Comment.Options) (ns : List Node) (info : Info) :
    (Node.container kind ns info).silent o = true := by
  cases kind with
  | blockQuote => rfl
  | tableRow => rfl
  | tableCell => rfl
  | footnoteDefinition => rfl
  | _ => simp [Container.isDropped] at h

theorem pictured_leaf (kind : Leaf) (info : Info) :
    (Node.leaf kind info).pictured = kind.isImage := by
  simp [pictured, nodes_eq, isImage]

theorem pictured_container (kind : Container) (ns : List Node) (info : Info) :
    (Node.container kind ns info).pictured = ns.any pictured := by
  rw [pictured, nodes_eq, children_container, List.any_cons, List.any_flatMap]
  rfl

end Node

end PackageDoc
