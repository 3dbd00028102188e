import PackageDoc.Proofs.Comment.Agreement

/-!
# Nodes that leave no trace

Dropped nodes and images outside links neither write anything nor change the state, whatever
stands below them. So a tree is rendered as what is left of it without them, with the same error
if it has one. Inside a link an image decides whether the link is a badge, and is without a trace
only if badges are shown.

    an unseen node agrees with writing nothing                          (agree_pure_of_unseen)
    a tree agrees with what is left of it without unseen nodes              (agree_without)
    both are rendered alike                                            (render_without_dropped)

The items of a list are counted, so a dropped node that stands among them would be seen. Lists are
taken to hold nothing but items.
-/

namespace PackageDoc

/-- The leaves that have no counterpart in a comment. -/
def Leaf.isDropped : Leaf → Bool
  | .thematicBreak | .htmlBlock _ | .htmlInline _ | .footnoteReference _ => true
  | _ => false

namespace Node

/-- Whether a node has no counterpart in a comment. -/
def isDropped : Node → Bool
  | .leaf kind _ => kind.isDropped
  | .container kind _ _ => kind.isDropped
  | .table .. => true

/-- Every list in a tree holds nothing but items. -/
def Itemized (n : Node) : Prop :=
  ∀ m ∈ n.nodes, m.isList = true → ∀ c ∈ m.children, c.isItem = true

theorem Itemized.of_mem {c n : Node} (h : n.Itemized) (hc : c ∈ n.children) : c.Itemized :=
  fun m hm => h m (mem_nodes_of_mem_children hc hm)

/-- Whether a node leaves no trace where it stands: it is dropped, or it is an image, and if that
is in a link badges are shown. -/
def Unseen (o : Comment.Options) (linked : Bool) (n : Node) : Prop :=
  n.isDropped = true ∨ n.isImage = true ∧ (linked = true → o.suppressBadges = false)

theorem not_unseen_of_isItem {o : Comment.Options} {linked : Bool} {n : Node}
    (h : n.isItem = true) : ¬ n.Unseen o linked := by
  unfold Unseen
  cases n with
  | container kind =>
    cases kind with
    | listItem => simp [isDropped, isImage, Container.isDropped]
    | _ => simp [isItem] at h
  | _ => simp [isItem] at h

end Node

namespace Comment

variable {o : Options} {linked : Bool} {n : Node} {w v : Writer}
  {gone : Bool → Node → Bool}

/-- What the flags of links can be where images may have been deleted: outside links the writer
knows that it is outside, and an image is missed only if badges are shown. -/
def Overlooked (o : Options) (linked inLink sawImage sawImage' : Bool) : Prop :=
  (linked = false → inLink = false) ∧ (o.suppressBadges = true → sawImage = sawImage')

theorem agree_drop (kind : String) :
    Agree (Overlooked o linked) (Step.drop kind) .pure :=
  fun _ _ h => ⟨rfl, rfl, h⟩

theorem agree_visitImage {kind : Leaf} (h : kind.isImage = true) :
    Agree (Overlooked o linked) (visitLeaf kind) (visitLeaf kind) := by
  intro w v hwv
  obtain ⟨b, rfl⟩ : ∃ b, v = { w with sawImage := b } := ⟨_, hwv.eq⟩
  rw [visitImage_eq h, visitImage_eq h]
  refine ⟨rfl, rfl, rfl, hwv.flags.1, fun hs => ?_⟩
  show (w.sawImage || w.inLink) = (b || w.inLink)
  rw [show w.sawImage = b from hwv.flags.2 hs]

/-- A node without a trace agrees with writing nothing. -/
theorem agree_pure_of_unseen (h : n.Unseen o linked) :
    Agree (Overlooked o linked) (visit o n) .pure := by
  cases n with
  | leaf kind info =>
    rcases h with h | ⟨h, hs⟩
    · cases kind with
      | thematicBreak => exact agree_drop _
      | htmlBlock => exact agree_drop _
      | htmlInline => exact agree_drop _
      | footnoteReference => exact agree_drop _
      | _ => simp [Node.isDropped, Leaf.isDropped] at h
    · intro w v hwv
      rw [visit, visitImage_eq h]
      refine ⟨rfl, rfl, hwv.eq, hwv.flags.1, fun hshown => ?_⟩
      cases linked with
      | true =>
        rw [hs rfl] at hshown
        contradiction
      | false =>
        show (w.sawImage || w.inLink) = v.sawImage
        rw [hwv.flags.1 rfl, Bool.or_false]
        exact hwv.flags.2 hshown
  | table => exact agree_drop _
  | container kind ns info =>
    rcases h with h | ⟨h, -⟩
    · rw [visit_of_isDropped h]
      exact agree_drop _
    · simp [Node.isImage] at h

/-- Nodes without a trace can be deleted from a tree. -/
theorem agree_without (hgone : ∀ linked n, gone linked n = true → n.Unseen o linked)
    (h : n.Itemized) (linked : Bool) :
    Agree (Overlooked o linked) (visit o n) (visit o (n.without gone linked)) := by
  induction n generalizing linked with
  | leaf kind info =>
    cases hk : kind.isImage with
    | true => exact agree_visitImage hk
    | false => exact fun _ _ hwv => same_visitLeaf hk hwv
  | table head =>
    cases head with
    | none => exact fun _ _ hwv => same_drop _ hwv
    | some => exact fun _ _ hwv => same_drop _ hwv
  | container kind ns info ih =>
    have hkept : ∀ linked, ∀ c ∈ ns, Agree (Overlooked o linked) (visit o c)
        (visit o (c.without gone linked)) := fun linked c hc => ih c hc (h.of_mem hc) linked
    have hcontent : ∀ linked, Agree (Overlooked o linked) (visitEach o id ns)
        (visitEach o id (Node.withoutAll gone linked ns)) := by
      intro linked
      apply agree_visitEach
      · exact fun _ _ hwv => hwv
      · exact fun c hc _ => hkept linked c hc
      · exact fun c _ hd => agree_pure_of_unseen (hgone linked c hd)
    cases hlink : kind.isLink with
    | true =>
      cases kind with
      | link url title =>
        rw [Node.without, hlink, Bool.or_true]
        apply agree_visitLink (hcontent true)
        · exact ⟨fun hf => absurd hf (by decide), fun _ => rfl⟩
        · exact fun l i i' hflags => ⟨fun _ => rfl, hflags.2⟩
        · intro l i i' hflags
          cases hs : o.suppressBadges with
          | false => rw [Bool.and_false, Bool.and_false]
          | true => rw [hflags.2 hs]
      | _ => simp [Container.isLink] at hlink
    | false =>
      rw [Node.without_container hlink]
      cases hlist : kind.isList with
      | false => exact agree_visit_container hlink hlist (hcontent linked) info
      | true =>
        cases kind with
        | list ordered start tight =>
          have hitems : ∀ c ∈ ns, gone linked c = false := by
            intro c hc
            have hitem : c.isItem = true := h _ (Node.mem_nodes_self _) rfl c hc
            by_contra hd
            rw [Bool.not_eq_false] at hd
            exact Node.not_unseen_of_isItem hitem (hgone linked c hd)
          exact agree_visit_list (agree_visitItems hitems (hkept linked)) _ _ _ info
        | _ => simp [Container.isList] at hlist

/-- **Dropped constructs are invisible.** A tree whose lists hold items is rendered just as what is
left of it when all dropped nodes, and all images outside links, have been deleted with everything
below them: with the same text or the same error. If badges are shown, so it is when the images
inside links have been deleted too. -/
theorem render_without_dropped (h : n.Itemized) :
    render o (n.without (fun linked c => c.isDropped || c.isImage && !linked) false) =
        render o n ∧
      (o.suppressBadges = false →
        render o (n.without (fun _ c => c.isDropped || c.isImage) false) = render o n) := by
  have hstart : Overlooked o false false false false := ⟨fun _ => rfl, fun _ => rfl⟩
  constructor
  · apply render_eq_of_agree (Node.isDocument_without _ _ n) rfl hstart
    apply agree_without _ h
    intro linked c hc
    rw [Bool.or_eq_true, Bool.and_eq_true, Bool.not_eq_true'] at hc
    refine hc.imp_right fun ⟨himage, hl⟩ => ⟨himage, fun hl' => ?_⟩
    rw [hl] at hl'
    contradiction
  · intro hs
    apply render_eq_of_agree (Node.isDocument_without _ _ n) rfl hstart
    apply agree_without _ h
    intro linked c hc
    rw [Bool.or_eq_true] at hc
    exact hc.imp_right fun himage => ⟨himage, fun _ => hs⟩

/-- Raw HTML within a line, a quote, and an item with a badge and a rule. -/
def cluttered : Node :=
  .document [.paragraph [.text "a ", .leaf (.htmlInline "<br>") {}, .text "b"],
    .container .blockQuote [.paragraph [.text "q"]] {},
    .container (.list false 1 true) [.container .listItem
      [.paragraph [.container (.link "u" none) [.text "c", .leaf (.image "i" "" none) {}] {}],
        .leaf .thematicBreak {}] {}] {}]

theorem render_without_dropped_cluttered :
    cluttered.Itemized ∧
      render {} (cluttered.without (fun linked c => c.isDropped || c.isImage && !linked) false) =
        .ok "// Package main is the .\n//\n// a b\n//\n// • \npackage main\n" ∧
      render { suppressBadges := false }
          (cluttered.without (fun _ c => c.isDropped || c.isImage) false) =
        .ok "// Package main is the .\n//\n// a b\n//\n// • c (u)\npackage main\n" := by
  have h : cluttered.Itemized := by
    unfold Node.Itemized
    decide
  have hhidden : render {} cluttered =
      .ok "// Package main is the .\n//\n// a b\n//\n// • \npackage main\n" := rfl
  have hshown : render { suppressBadges := false } cluttered =
      .ok "// Package main is the .\n//\n// a b\n//\n// • c (u)\npackage main\n" := rfl
  refine ⟨h, ?_, ?_⟩
  · rw [(render_without_dropped h).1, hhidden]
  · rw [(render_without_dropped h).2 rfl, hshown]

end Comment

end PackageDoc
