import PackageDoc.Proofs.Comment.Agreement
import PackageDoc.Proofs.Comment.Blocks

/-!
# Badges

A badge is a link in which an image can be reached through emphasis. While badges are suppressed a
badge is written and then taken back, and leaves the state as it found it. So a document is
rendered with badges suppressed as what is left of it without its badges is rendered with badges
shown.

    n.shows = n.pictured, for a node in a link                           (shows_eq_pictured)
    a suppressed badge agrees with writing nothing                    (agree_pure_of_badge)
    badges suppressed agree with badges deleted                     (agree_without_badges)
    render ⟨p, true⟩ n = render ⟨p, false⟩ (n without badges)            (render_suppressed)
-/

namespace PackageDoc

/-- Whether a place is inside a link. -/
def Position.inLink : Position → Bool
  | .inline linked => linked
  | _ => false

namespace Node

mutual

/-- Whether an image can be reached from a node through emphasis. -/
def shows : Node → Bool
  | .leaf kind _ => kind.isImage
  | .table .. => false
  | .container kind children _ =>
    match kind with
    | .emphasis => showsAny children
    | .strong => showsAny children
    | _ => false
termination_by structural n => n

/-- Whether an image can be so reached from one of some nodes. -/
def showsAny : List Node → Bool
  | [] => false
  | n :: ns => shows n || showsAny ns
termination_by structural ns => ns

end

/-- Whether a node is a link in which an image can be reached through emphasis. -/
def isBadge : Node → Bool
  | .container (.link _ _) children _ => showsAny children
  | _ => false

theorem showsAny_eq_any_pictured {ns : List Node} (h : ∀ n ∈ ns, n.shows = n.pictured) :
    showsAny ns = ns.any pictured := by
  induction ns with
  | nil => rfl
  | cons n ns ih =>
    obtain ⟨hn, hns⟩ := List.forall_mem_cons.1 h
    rw [showsAny, List.any_cons, hn, ih hns]

/-- Below a link there is nothing but emphasis between the link and an image. -/
theorem shows_eq_pictured {place : Position} {n : Node} (h : n.Fits place)
    (hplace : place = .inline true) (hok : n.unsupported? = none) : n.shows = n.pictured := by
  induction h with
  | inlineLeaf => rw [pictured_leaf, shows]
  | @emphasis linked ns info h ih =>
    have hns := showsAny_eq_any_pictured fun n hn =>
      ih n hn hplace (unsupported?_of_mem hok rfl n hn)
    rw [pictured_container, ← hns, shows]
  | @strong linked ns info h ih =>
    have hns := showsAny_eq_any_pictured fun n hn =>
      ih n hn hplace (unsupported?_of_mem hok rfl n hn)
    rw [pictured_container, ← hns, shows]
  | strikethrough => simp [unsupported?, Container.isDropped] at hok
  | link => simp at hplace
  | _ => simp at hplace

/-- A badge stands in running text outside links. -/
theorem isBadge_eq_false {place : Position} {n : Node} (h : n.Fits place)
    (hplace : place ≠ .inline false) : n.isBadge = false := by
  cases h with
  | link => exact absurd rfl hplace
  | @dropped kind _ _ hd =>
    cases kind with
    | link => simp [Container.isDropped] at hd
    | _ => rfl
  | _ => rfl

/-- The images that a link is a badge for are all images in it. -/
theorem isBadge_link {url : String} {title : Option String} {ns : List Node} {info : Info}
    (h : (container (.link url title) ns info).Fits (.inline false))
    (hok : (container (.link url title) ns info).unsupported? = none) :
    (container (.link url title) ns info).isBadge = ns.any pictured := by
  cases h with
  | link hns =>
    exact showsAny_eq_any_pictured fun n hn =>
      shows_eq_pictured (hns n hn) rfl (unsupported?_of_mem hok rfl n hn)

end Node

namespace Comment

variable {name : String} {o : Options} {place : Position} {n : Node} {w : Writer}

/-- The flags of links where no image has turned up. -/
def Clear (linked inLink sawImage sawImage' : Bool) : Prop :=
  inLink = linked ∧ sawImage = false ∧ sawImage' = false

theorem Writer.At.leaveLink_eq (hw : w.At false) : w.leaveLink = w := by
  obtain ⟨_, _, _, _, _, _, inLink, sawImage⟩ := w
  obtain rfl : inLink = false := hw.inLink
  obtain rfl : sawImage = false := hw.sawImage rfl
  rfl

/-- A suppressed badge writes nothing and leaves the state as it found it. -/
theorem visit_of_isBadge (h : n.Fits (.inline false)) (hok : n.unsupported? = none)
    (hb : n.isBadge = true) (ho : o.suppressBadges = true) (hw : w.At false) :
    (visit o n w).tokens = [] ∧ (visit o n w).writer = w := by
  cases h with
  | @link url title ns info hns =>
    rw [Node.isBadge_link (.link hns) hok] at hb
    have hc := fluent_visitEach (o := o) fun n hn =>
      behaves_of_fits (hns n hn) (Node.unsupported?_of_mem hok rfl n hn)
    obtain ⟨htokens, hwriter⟩ := visitLink_of_pictured (o := o) hc (by rw [hb, ho, Bool.and_self])
      url title w
    exact ⟨htokens, hwriter.trans hw.leaveLink_eq⟩
  | _ => simp [Node.isBadge] at hb

theorem agree_pure_of_badge (h : n.Fits place) (hok : n.unsupported? = none)
    (hb : n.isBadge = true) : Agree (Clear place.inLink) (visit ⟨name, true⟩ n) .pure := by
  obtain rfl : place = .inline false := by
    by_contra hplace
    rw [Node.isBadge_eq_false h hplace] at hb
    contradiction
  intro w v hwv
  obtain ⟨htokens, hwriter⟩ := visit_of_isBadge (o := ⟨name, true⟩) h hok hb rfl
    ⟨hwv.flags.1, fun _ => hwv.flags.2.1⟩
  refine ⟨htokens, ?_, ?_⟩
  · rw [failure_visit, hok]
    rfl
  · rw [hwriter]
    exact hwv

/-- Nodes agree with what is left of them if each that is no badge does. -/
theorem agree_content {ns : List Node} (h : ∀ n ∈ ns, n.Fits place)
    (hok : ∀ n ∈ ns, n.unsupported? = none)
    (hkept : ∀ n ∈ ns, n.isBadge = false → Agree (Clear place.inLink) (visit ⟨name, true⟩ n)
      (visit ⟨name, false⟩ (n.without (fun _ => Node.isBadge) place.inLink))) :
    Agree (Clear place.inLink) (visitEach ⟨name, true⟩ id ns)
      (visitEach ⟨name, false⟩ id
        (Node.withoutAll (fun _ => Node.isBadge) place.inLink ns)) := by
  apply agree_visitEach
  · exact fun _ _ hwv => hwv
  · exact hkept
  · exact fun n hn hb => agree_pure_of_badge (h n hn) (hok n hn) hb

theorem agree_visitImage_of_clear {kind : Leaf} (h : kind.isImage = true) :
    Agree (Clear false) (visitLeaf kind) (visitLeaf kind) := by
  intro w v hwv
  obtain ⟨b, rfl⟩ : ∃ b, v = { w with sawImage := b } := ⟨_, hwv.eq⟩
  obtain ⟨hl, hi, hb⟩ := hwv.flags
  rw [visitImage_eq h, visitImage_eq h]
  refine ⟨rfl, rfl, rfl, hl, ?_, ?_⟩
  · show (w.sawImage || w.inLink) = false
    rw [hi, hl, Bool.or_false]
  · show (b || w.inLink) = false
    rw [show b = false from hb, hl, Bool.or_false]

/-- Badges can be deleted from a tree instead of being suppressed. In a link that is no badge there
are no images. -/
theorem agree_without_badges (h : n.Fits place) (hok : n.unsupported? = none)
    (hplain : place.inLink = true → n.pictured = false) (hb : n.isBadge = false) :
    Agree (Clear place.inLink) (visit ⟨name, true⟩ n)
      (visit ⟨name, false⟩ (n.without (fun _ => Node.isBadge) place.inLink)) := by
  have hout : ∀ n : Node, false = true → n.pictured = false := fun n hf => by simp at hf
  -- in emphasis within a link, what holds of the whole holds of each part
  have hbelow : ∀ {linked kind info} {ns : List Node},
      (linked = true → (Node.container kind ns info).pictured = false) →
      ∀ n ∈ ns, linked = true → n.pictured = false := by
    intro linked kind info ns hns n hn hl
    have hany := hns hl
    rw [Node.pictured_container, List.any_eq_false] at hany
    simpa using hany n hn
  induction h with
  | @blockLeaf kind info h =>
    have hk : kind.isImage = false := by
      cases kind with
      | image => simp [Leaf.isBlock] at h
      | _ => rfl
    exact fun _ _ hwv => same_visitLeaf hk hwv
  | @inlineLeaf linked kind info h =>
    cases hk : kind.isImage with
    | false => exact fun _ _ hwv => same_visitLeaf hk hwv
    | true =>
      cases linked with
      | false => exact agree_visitImage_of_clear hk
      | true =>
        have hno := hplain rfl
        rw [Node.pictured_leaf, hk] at hno
        contradiction
  | heading h ih =>
    have hns := Node.unsupported?_of_mem hok rfl
    exact agree_visit_container rfl rfl
      (agree_content h hns fun n hn => ih n hn (hns n hn) (hout n)) _
  | paragraph h ih =>
    have hns := Node.unsupported?_of_mem hok rfl
    exact agree_visit_container rfl rfl
      (agree_content h hns fun n hn => ih n hn (hns n hn) (hout n)) _
  | @list _ _ _ ns _ h ih =>
    have hns := Node.unsupported?_of_mem hok rfl
    have hitem : ∀ n ∈ ns, n.isBadge = false :=
      fun n hn => Node.isBadge_eq_false (h n hn) (by simp)
    exact agree_visit_list
      (agree_visitItems hitem fun n hn => ih n hn (hns n hn) (hout n) (hitem n hn)) _ _ _ _
  | listItem h ih =>
    have hns := Node.unsupported?_of_mem hok rfl
    exact agree_visit_container rfl rfl
      (agree_content h hns fun n hn => ih n hn (hns n hn) (hout n)) _
  | @dropped kind ns info h =>
    rw [Node.without, visit_of_isDropped h, visit_of_isDropped h]
    exact fun _ _ hwv => same_drop _ hwv
  | @table head =>
    cases head with
    | none => exact fun _ _ hwv => same_drop _ hwv
    | some => exact fun _ _ hwv => same_drop _ hwv
  | emphasis h ih =>
    have hns := Node.unsupported?_of_mem hok rfl
    rw [Node.without_container rfl]
    exact agree_visit_container rfl rfl
      (agree_content h hns fun n hn => ih n hn (hns n hn) (hbelow hplain n hn)) _
  | strong h ih =>
    have hns := Node.unsupported?_of_mem hok rfl
    rw [Node.without_container rfl]
    exact agree_visit_container rfl rfl
      (agree_content h hns fun n hn => ih n hn (hns n hn) (hbelow hplain n hn)) _
  | strikethrough => simp [Node.unsupported?, Container.isDropped] at hok
  | @link url title ns info h ih =>
    have hns := Node.unsupported?_of_mem hok rfl
    rw [Node.isBadge_link (.link h) hok, List.any_eq_false] at hb
    have hc : Agree (Clear true) (visitEach ⟨name, true⟩ id ns)
        (visitEach ⟨name, false⟩ id (Node.withoutAll (fun _ => Node.isBadge) true ns)) :=
      agree_content h hns fun n hn => ih n hn (hns n hn) fun _ => by simpa using hb n hn
    apply agree_visitLink hc
    · exact ⟨rfl, rfl, rfl⟩
    · exact fun l i i' hflags => ⟨rfl, hflags.2⟩
    · rintro l i i' ⟨-, rfl, rfl⟩
      rfl

/-! ## Whole documents -/

theorem agree_document {ns : List Node} (hf : ∀ n ∈ ns, n.Fits .block)
    (hok : ∀ n ∈ ns, n.unsupported? = none) (info : Info) :
    Agree (Clear false) (visit ⟨name, true⟩ (.container .document ns info))
      (visit ⟨name, false⟩
        ((Node.container .document ns info).without (fun _ => Node.isBadge) false)) := by
  rw [Node.without_container rfl]
  apply agree_visit_container rfl rfl
  apply agree_content hf hok
  intro n hn
  apply agree_without_badges (hf n hn) (hok n hn)
  exact fun hl => by simp [Position.inLink] at hl

/-- **Suppressing badges is deleting them.** A document that renders with badges suppressed is
rendered with the same text when its badges are deleted and badges are shown. So the two settings
agree on a document without badges. Wherever a suppressed badge is met, it writes nothing and leaves
the state as it was. -/
theorem render_suppressed {ns : List Node} {info : Info} {s : String}
    (hf : ∀ n ∈ ns, n.Fits .block)
    (h : render ⟨name, true⟩ (.container .document ns info) = .ok s) :
    render ⟨name, false⟩
        ((Node.container .document ns info).without (fun _ => Node.isBadge) false) = .ok s ∧
      ((∀ m ∈ (Node.container .document ns info).nodes, m.isBadge = false) →
        render ⟨name, false⟩ (.container .document ns info) = .ok s) ∧
      ∀ c, c.Fits (.inline false) → c.unsupported? = none → c.isBadge = true →
        ∀ w, w.At false →
          (visit ⟨name, true⟩ c w).tokens = [] ∧ (visit ⟨name, true⟩ c w).writer = w := by
  have hok := (render_eq_ok_iff.1 h).1
  rw [visitRoot, failure_visit] at hok
  have hns := Node.unsupported?_of_mem hok rfl
  have hsame : render ⟨name, false⟩
      ((Node.container .document ns info).without (fun _ => Node.isBadge) false) = .ok s := by
    rw [← h]
    have hagree := @agree_document name ns hf hns info
    exact render_eq_of_agree (Node.isDocument_without _ _ _) rfl ⟨rfl, rfl, rfl⟩ hagree
  refine ⟨hsame, fun hnone => ?_, fun c hc hcok hb w hw => visit_of_isBadge hc hcok hb rfl hw⟩
  rw [← hsame, Node.without_eq_self fun _ => hnone]

/-- A link around an image in emphasis. -/
def boldBadge : Node :=
  .container (.link "u" (some "t")) [.container .strong [.leaf (.image "i" "" none) {}] {}] {}

theorem fits_boldBadge : boldBadge.Fits (.inline false) := by
  refine .link fun n hn => ?_
  rw [List.mem_singleton.1 hn]
  refine .strong fun m hm => ?_
  rw [List.mem_singleton.1 hm]
  exact .inlineLeaf rfl

/-- Badges before a heading, between words, and in an item. -/
def badgedBlocks : List Node :=
  [.paragraph [boldBadge], .heading default [.text "a ", boldBadge, .text "b"],
    .container (.list false 1 true)
      [.container .listItem [.paragraph [boldBadge, .text "c"]] {}] {}]

theorem render_suppressed_badgedBlocks :
    (∀ n ∈ badgedBlocks, n.Fits .block) ∧
      render ⟨"main", true⟩ (.document badgedBlocks) =
        .ok "// Package main is the a b\n//\n// • c\npackage main\n" ∧
      render ⟨"main", false⟩
          ((Node.document badgedBlocks).without (fun _ => Node.isBadge) false) =
        .ok "// Package main is the a b\n//\n// • c\npackage main\n" ∧
      (visit ⟨"main", true⟩ boldBadge (.start true)).writer = .start true := by
  have htext : ∀ t : String, (Node.text t).Fits (.inline false) := fun t => .inlineLeaf rfl
  have hf : ∀ n ∈ badgedBlocks, n.Fits .block := by
    simp only [badgedBlocks, List.forall_mem_cons, List.not_mem_nil, false_implies, implies_true,
      and_true]
    refine ⟨.paragraph ?_, .heading ?_, .list ?_⟩
    · simpa using fits_boldBadge
    · simpa using ⟨htext "a ", fits_boldBadge, htext "b"⟩
    · intro n hn
      rw [List.mem_singleton.1 hn]
      refine .listItem fun m hm => ?_
      rw [List.mem_singleton.1 hm]
      refine .paragraph ?_
      simpa using ⟨fits_boldBadge, htext "c"⟩
  have h : render ⟨"main", true⟩ (.document badgedBlocks) =
      .ok "// Package main is the a b\n//\n// • c\npackage main\n" := rfl
  obtain ⟨hdeleted, -, htrace⟩ := render_suppressed hf h
  refine ⟨hf, h, hdeleted, ?_⟩
  exact (htrace boldBadge fits_boldBadge rfl rfl (.start true) ⟨rfl, fun _ => rfl⟩).2

end Comment

end PackageDoc
