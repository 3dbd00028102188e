import PackageDoc.Conversion
import PackageDoc.Proofs.Comment.Unsupported
import PackageDoc.Proofs.Tree

/-!
# The first node without a rule

A visit goes through a tree in the order of the text and does not look below quotes, tables and
footnotes. `n.exposed` lists the nodes it comes upon, by the children of each node alone. Rendering
stops at the first of them that has no rule, and otherwise gives a text.

    n.exposed = n :: n.children.flatMap exposed, unless n hides them             (exposed_eq)
    n.unsupported? = the kind of the first exposed node without a rule   (unsupported?_eq_find?)
    rendering n fails iff there is one, and names its kind                (render_stops_at_first)
-/

namespace PackageDoc

namespace Node

/-! ## Exposed nodes -/

/-- Whether what stands below a node is dropped together with it. -/
def hides : Node → Bool
  | .leaf _ _ => false
  | .container kind _ _ => kind.isDropped
  | .table .. => true

/-- Whether a node has no rule: text that is struck through, and kinds that others define. -/
def lacksRule : Node → Bool
  | .leaf (.custom _) _ => true
  | .container .strikethrough _ _ => true
  | _ => false

mutual

/-- A node and the nodes below it in the order of the text, without those that are hidden. -/
def exposed : Node → List Node
  | .leaf kind info => [.leaf kind info]
  | .table head body alignments info => [.table head body alignments info]
  | .container kind children info =>
    .container kind children info :: if kind.isDropped then [] else exposedAll children
termination_by structural n => n

/-- The exposed nodes of each node of a list, one after another. -/
def exposedAll : List Node → List Node
  | [] => []
  | n :: ns => exposed n ++ exposedAll ns
termination_by structural ns => ns

end

theorem exposedAll_eq_flatMap (ns : List Node) : exposedAll ns = ns.flatMap exposed := by
  induction ns with
  | nil => rfl
  | cons n ns ih => rw [exposedAll, ih, List.flatMap_cons]

/-- The exposed nodes are found by going through the children of each node. -/
theorem exposed_eq (n : Node) :
    n.exposed = n :: if n.hides then [] else n.children.flatMap exposed := by
  cases n with
  | leaf => rfl
  | table => rfl
  | container kind ns info => rw [exposed, exposedAll_eq_flatMap, hides, children_container]

/-! ## The first of them without a rule -/

theorem find?_lacksRule_of_hides {n : Node} (h : n.hides = true) :
    n.exposed.find? lacksRule = none := by
  rw [exposed_eq, if_pos h]
  cases n with
  | leaf => simp [hides] at h
  | table => rfl
  | container kind =>
    cases kind with
    | strikethrough => simp [hides, Container.isDropped] at h
    | _ => rfl

theorem unsupportedAmong?_eq_find? {ns : List Node}
    (h : ∀ n ∈ ns, n.unsupported? = (n.exposed.find? lacksRule).map name) :
    unsupportedAmong? ns = ((exposedAll ns).find? lacksRule).map name := by
  induction ns with
  | nil => rfl
  | cons n ns ih =>
    rw [unsupportedAmong?, h n List.mem_cons_self, ih fun m hm => h m (List.mem_cons_of_mem _ hm),
      exposedAll, List.find?_append, Option.map_or]

/-- What a visit stops at is the first exposed node without a rule. -/
theorem unsupported?_eq_find? (n : Node) :
    n.unsupported? = (n.exposed.find? lacksRule).map name := by
  induction n with
  | leaf kind => cases kind <;> rfl
  | table => rfl
  | container kind ns info ih =>
    by_cases hd : kind.isDropped = true
    · have hhides : (container kind ns info).hides = true := hd
      rw [find?_lacksRule_of_hides hhides, unsupported?, if_pos hd]
      rfl
    · by_cases hs : kind = .strikethrough
      · subst hs
        rfl
      · have hrule : (container kind ns info).lacksRule = false := by
          cases kind with
          | strikethrough => exact absurd rfl hs
          | _ => rfl
        rw [unsupported?, if_neg hd, if_neg hs, unsupportedAmong?_eq_find? ih, exposed, if_neg hd,
          List.find?_cons_of_neg (by simp [hrule])]

end Node

/-! ## Rendering -/

namespace Comment

variable {o : Options} {n : Node}

theorem renderDocument_eq_ok_iff {s : String} :
    renderDocument o n = .ok s ↔ render o n = .ok s := by
  unfold renderDocument
  rw [if_neg (by simp [Host.walks])]
  cases render o n <;> simp

/-- A document that cannot be rendered is told about by the kind that has no rule. -/
theorem renderDocument_eq_error_iff {f : Failure} :
    renderDocument o n = .error f ↔
      ∃ kind, render o n = .error kind ∧ f = .problem (.unsupportedNode kind none) := by
  unfold renderDocument
  rw [if_neg (by simp [Host.walks])]
  cases render o n <;> simp [eq_comm]

theorem exists_render_eq_ok : (∃ s, render o n = .ok s) ↔ (visitRoot o n).failure = none := by
  simp only [render_eq_ok_iff, exists_and_left, exists_eq, and_true]

/-- **Rendering fails exactly on exposed nodes without a rule.** What a failed rendering tells is
that it met the first such node, by its kind, and there is no other failure. It is met whatever the
options are, and in whatever state the writer is when it comes to the tree. -/
theorem render_stops_at_first (n : Node) :
    (∀ o f, renderDocument o n = .error f ↔
      ∃ before m after, n.exposed = before ++ m :: after ∧
        (∀ k ∈ before, k.lacksRule = false) ∧ m.lacksRule = true ∧
        f = .problem (.unsupportedNode m.name none)) ∧
      (∀ o, (∃ s, renderDocument o n = .ok s) ↔ ∀ m ∈ n.exposed, m.lacksRule = false) ∧
      ∀ o w, (visit o n w).failure = (n.exposed.find? Node.lacksRule).map Node.name := by
  have hvisit : ∀ o w, (visit o n w).failure = (n.exposed.find? Node.lacksRule).map Node.name := by
    intro o w
    rw [failure_visit, Node.unsupported?_eq_find?]
  refine ⟨fun o f => ?_, fun o => ?_, hvisit⟩
  · have hfirst : ∀ kind, render o n = .error kind ↔
        ∃ m, n.exposed.find? Node.lacksRule = some m ∧ m.name = kind := by
      intro kind
      rw [render_eq_error_iff, visitRoot, hvisit, Option.map_eq_some_iff]
    rw [renderDocument_eq_error_iff]
    constructor
    · rintro ⟨kind, hkind, rfl⟩
      obtain ⟨m, hm, rfl⟩ := (hfirst kind).1 hkind
      obtain ⟨hlacks, before, after, hsplit, hbefore⟩ := List.find?_eq_some_iff_append.1 hm
      exact ⟨before, m, after, hsplit, by simpa using hbefore, hlacks, rfl⟩
    · rintro ⟨before, m, after, hsplit, hbefore, hlacks, rfl⟩
      have hm : n.exposed.find? Node.lacksRule = some m :=
        List.find?_eq_some_iff_append.2 ⟨hlacks, before, after, hsplit, by simpa using hbefore⟩
      exact ⟨m.name, (hfirst m.name).2 ⟨m, hm, rfl⟩, rfl⟩
  · simp only [renderDocument_eq_ok_iff]
    rw [exists_render_eq_ok, visitRoot, hvisit, Option.map_eq_none_iff, List.find?_eq_none]
    simp only [Bool.not_eq_true]

/-- A node of another's kind in a suppressed badge, below struck text that a quote hides. -/
example :
    ((Node.document [.container .blockQuote [.container .strikethrough [] {}] {},
      .paragraph [.container (.link "u" none) [.leaf (.image "i" "" none) {},
        .leaf (.custom "Math") {}] {}, .container .strikethrough [] {}]]).exposed.find?
      Node.lacksRule).map Node.name = some "Math" := by
  decide

end Comment

end PackageDoc
