import PackageDoc.Proofs.Comment.Inline
import PackageDoc.Proofs.Comment.Reach
import PackageDoc.Proofs.Comment.Stops
import PackageDoc.Proofs.Deletion

/-!
# Links in links

The writer remembers in two flags that it is inside a link and that it has met an image there. A
link sets them where it begins and clears them where it ends, whatever link it stands in; what is
written, in contrast, is set aside and taken back for each link. So where a link ends, the one
around it has forgotten the images before and takes no notice of those after.

    what is exposed of a program tells what it does to the flags                   (tracks_visit)
    a link with images is a badge iff no other link is exposed in it   (visitLink_of_pictures)
    a link with an image that is shown although badges are suppressed        (exists_badge_shown)
-/

namespace PackageDoc

namespace Node

/-- Whether a node is a link. -/
def isLink : Node → Bool
  | .container kind _ _ => kind.isLink
  | _ => false

/-- An image can be reached from a node through emphasis and links. -/
inductive Pictures : Node → Prop
  | image {kind info} (h : kind.isImage = true) : Pictures (.leaf kind info)
  | emphasis {n ns info} (hn : n ∈ ns) (h : Pictures n) : Pictures (.container .emphasis ns info)
  | strong {n ns info} (hn : n ∈ ns) (h : Pictures n) : Pictures (.container .strong ns info)
  | link {url title n ns info} (hn : n ∈ ns) (h : Pictures n) :
      Pictures (.container (.link url title) ns info)

/-- Whether a node with a property is exposed. -/
def exposes (p : Node → Bool) (n : Node) : Bool :=
  n.exposed.any p

variable {p : Node → Bool}

theorem exposes_leaf (p : Node → Bool) (kind : Leaf) (info : Info) :
    (Node.leaf kind info).exposes p = p (.leaf kind info) := by
  simp [exposes, exposed]

/-- Besides itself a container exposes what its children do, unless it is dropped. -/
theorem exposes_container {kind : Container} {ns : List Node} {info : Info}
    (hd : kind.isDropped = false) :
    (Node.container kind ns info).exposes p =
      (p (.container kind ns info) || ns.any (exposes p)) := by
  rw [exposes, exposed, hd, if_neg Bool.false_ne_true, exposedAll_eq_flatMap, List.any_cons,
    List.any_flatMap]
  rfl

theorem exposes_of_isDropped {kind : Container} {ns : List Node} {info : Info}
    (hd : kind.isDropped = true) :
    (Node.container kind ns info).exposes p = p (.container kind ns info) := by
  simp [exposes, exposed, hd]

theorem isLink_of_isDropped {kind : Container} {ns : List Node} {info : Info}
    (hd : kind.isDropped = true) : (Node.container kind ns info).isLink = false := by
  cases kind with
  | link => simp [Container.isDropped] at hd
  | _ => rfl

theorem Pictures.exposes {n : Node} (h : n.Pictures) : n.exposes isImage = true := by
  have hbelow : ∀ {kind n ns info}, n ∈ ns → n.exposes isImage = true →
      kind.isDropped = false → (Node.container kind ns info).exposes isImage = true := by
    intro kind n ns info hn hi hd
    rw [exposes_container hd, Bool.or_eq_true]
    exact .inr (List.any_eq_true.2 ⟨n, hn, hi⟩)
  induction h with
  | image h => rwa [exposes_leaf]
  | emphasis hn _ ih => exact hbelow hn ih rfl
  | strong hn _ ih => exact hbelow hn ih rfl
  | link hn _ ih => exact hbelow hn ih rfl

end Node

namespace Comment

variable {o : Options} {w : Writer} {f g content : Writer → Step} {l l' i i' : Bool}
  {ns : List Node} {links images : Node → Bool}

/-! ## Flags -/

/-- What a program does to the flags of links, unless it fails. If it comes upon a link, the writer
is inside no link afterwards and remembers no image; otherwise it remembers an image if it comes
upon one inside a link. -/
def Tracks (links images : Bool) (f : Writer → Step) : Prop :=
  ∀ w, (f w).failure = none →
    (f w).writer.inLink = (w.inLink && !links) ∧
    (f w).writer.sawImage = ((w.sawImage || w.inLink && images) && !links)

/-- Two writers have the same flags of links. -/
def Writer.SameFlags (w v : Writer) : Prop :=
  v.inLink = w.inLink ∧ v.sawImage = w.sawImage

theorem Writer.SameFlags.trans {u v w : Writer} (h : u.SameFlags v) (h' : v.SameFlags w) :
    u.SameFlags w :=
  ⟨h'.1.trans h.1, h'.2.trans h.2⟩

theorem sameFlags_requestBreak (w : Writer) : w.SameFlags w.requestBreak :=
  ⟨rfl, rfl⟩

theorem sameFlags_requestParagraph (w : Writer) : w.SameFlags w.requestParagraph :=
  ⟨rfl, rfl⟩

theorem tracks_of_sameFlags (h : ∀ w : Writer, w.SameFlags (f w).writer) :
    Tracks false false f := by
  intro w _
  rw [Bool.not_false, Bool.and_true, Bool.and_true, Bool.and_false, Bool.or_false]
  exact h w

theorem Tracks.andThen (hf : Tracks l i f) (hg : Tracks l' i' g) :
    Tracks (l || l') (i || i') fun w => (f w).andThen g := by
  intro w hok
  rw [Step.failure_andThen, Option.or_eq_none_iff] at hok
  obtain ⟨hinLink, hsawImage⟩ := hf w hok.1
  obtain ⟨hinLink', hsawImage'⟩ := hg _ hok.2
  dsimp only
  rw [Step.andThen_of_ok hok.1]
  refine ⟨?_, ?_⟩
  · rw [hinLink', hinLink, Bool.not_or, Bool.and_assoc]
  · rw [hsawImage', hsawImage, hinLink]
    cases l <;> cases l' <;> simp [Bool.and_or_distrib_left, Bool.or_assoc]

/-! ## Words and leaves -/

theorem sameFlags_write (t : List Char) (w : Writer) : w.SameFlags (write t w).2 := by
  have h := write_flags t w w.inLink w.sawImage
  exact ⟨congrArg (fun r => r.2.inLink) h, congrArg (fun r => r.2.sawImage) h⟩

theorem sameFlags_writeLines (ls : List (List Char)) (w : Writer) :
    w.SameFlags (writeLines ls w).2 := by
  induction ls generalizing w with
  | nil => exact ⟨rfl, rfl⟩
  | cons line rest ih =>
    have hline := sameFlags_write (lineWord line w) w
    cases rest with
    | nil =>
      rw [writeLines_singleton]
      split
      · exact hline
      · exact hline
    | cons next rest =>
      rw [writeLines_cons_cons]
      exact hline.trans (ih (write (lineWord line w) w).2.requestBreak)

theorem sameFlags_writeCode (ls : List (List Char)) (w : Writer) :
    w.SameFlags (writeCode ls w).2 := by
  induction ls generalizing w with
  | nil => exact ⟨rfl, rfl⟩
  | cons l rest ih =>
    by_cases hl : l = []
    · rw [hl, writeCode_nil_cons]
      exact ih { w with breaks := w.breaks + 1 }
    · rw [writeCode_cons hl]
      exact (sameFlags_write _ w).trans
        (ih { (write (indent ++ l) w).2 with breaks := (write (indent ++ l) w).2.breaks + 1 })

theorem tracks_write (t : List Char) : Tracks false false fun w => .wrote (write t w) :=
  tracks_of_sameFlags (sameFlags_write t)

theorem tracks_drop (kind : String) : Tracks false false (Step.drop kind) :=
  tracks_of_sameFlags fun _ => ⟨rfl, rfl⟩

theorem tracks_requestBreak : Tracks false false fun w => .pure w.requestBreak :=
  tracks_of_sameFlags sameFlags_requestBreak

theorem tracks_requestParagraph : Tracks false false fun w => .pure w.requestParagraph :=
  tracks_of_sameFlags sameFlags_requestParagraph

theorem tracks_keepApart : Tracks false false fun w => .pure w.keepApart :=
  tracks_of_sameFlags fun _ => ⟨rfl, rfl⟩

theorem sameFlags_visitLeaf {kind : Leaf} (h : kind.isImage = false) (w : Writer) :
    w.SameFlags (visitLeaf kind w).writer := by
  cases kind with
  | text content => exact sameFlags_writeLines (Text.splitAt '\n' content.toList) w
  | code content => exact sameFlags_write content.toList w
  | codeBlock content language =>
    have hcode := sameFlags_writeCode (codeLines content.toList) w.requestParagraph
    rw [visitLeaf, Step.writer_adjust, Step.writer_wrote]
    exact ((sameFlags_requestParagraph w).trans hcode).trans (sameFlags_requestBreak _)
  | lineBreak soft => cases soft <;> exact ⟨rfl, rfl⟩
  | image => simp [Leaf.isImage] at h
  | _ => exact ⟨rfl, rfl⟩

theorem tracks_visitLeaf (kind : Leaf) : Tracks false kind.isImage (visitLeaf kind) := by
  cases hkind : kind.isImage with
  | false => exact tracks_of_sameFlags (sameFlags_visitLeaf hkind)
  | true =>
    intro w _
    rw [visitImage_eq hkind]
    simp

/-! ## Containers -/

theorem tracks_visitEach {before : Writer → Writer}
    (hb : ∀ w : Writer, w.SameFlags (before w))
    (h : ∀ n ∈ ns, Tracks (links n) (images n) (visit o n)) :
    Tracks (ns.any links) (ns.any images) (visitEach o before ns) := by
  induction ns with
  | nil => exact tracks_of_sameFlags fun _ => ⟨rfl, rfl⟩
  | cons n ns ih =>
    have hbefore : Tracks false false fun w => .pure (before w) := tracks_of_sameFlags hb
    exact (hbefore.andThen (h n List.mem_cons_self)).andThen
      (ih fun m hm => h m (List.mem_cons_of_mem _ hm))

theorem tracks_visitItems
    (h : ∀ n ∈ ns, Tracks (links n) (images n) (visit o n)) :
    Tracks (ns.any links) (ns.any images) (visitItems o ns) := by
  cases ns with
  | nil => exact tracks_of_sameFlags fun _ => ⟨rfl, rfl⟩
  | cons n ns =>
    exact (h n List.mem_cons_self).andThen
      (tracks_visitEach (fun _ => ⟨rfl, rfl⟩) fun m hm => h m (List.mem_cons_of_mem _ hm))

/-- A move at the beginning and one at the end change nothing of what is tracked. -/
theorem Tracks.between (hf : Tracks false false f) (hc : Tracks l i content)
    (hg : Tracks false false g) :
    Tracks l i fun w => ((f w).andThen content).andThen g := by
  have h := (hf.andThen hc).andThen hg
  rwa [Bool.false_or, Bool.false_or, Bool.or_false, Bool.or_false] at h

theorem tracks_visitMarked (marker : List Char) (hc : Tracks l i content) :
    Tracks l i (visitMarked marker content) := by
  have hmarker := tracks_keepApart.andThen (tracks_write marker)
  exact hmarker.between hc (tracks_write marker)

theorem Tracks.ending (hc : Tracks l i content) (hg : Tracks false false g) :
    Tracks l i fun w => (content w).andThen g := by
  have h := hc.andThen hg
  rwa [Bool.or_false, Bool.or_false] at h

theorem tracks_visitHeading (hc : Tracks l i content) : Tracks l i (visitHeading content) := by
  have hbody : Tracks l i fun w =>
      if w.sentenceOpen then
        (content { w with completing := true }).adjust fun w => { w with completing := false }
      else content w.requestParagraph := by
    intro w hok
    dsimp only at hok ⊢
    split at hok
    · next ho =>
      rw [if_pos ho]
      exact hc { w with completing := true } hok
    · next ho =>
      rw [if_neg ho]
      exact hc w.requestParagraph hok
  exact hbody.ending tracks_requestParagraph

theorem tracks_visitLinkText (title : Option String) (hc : Tracks l i content) :
    Tracks l i (visitLinkText title content) := by
  cases ht : title.all String.isEmpty with
  | true =>
    rw [visitLinkText_of_isEmpty ht]
    exact hc
  | false =>
    cases title with
    | none => simp at ht
    | some t =>
      have h := (tracks_write t.toList).andThen (tracks_keepApart.andThen hc)
      rw [visitLinkText_of_title ht]
      rwa [Bool.false_or, Bool.false_or, Bool.false_or, Bool.false_or] at h

/-- Where a link ends the writer is inside no link, and it has forgotten all images. -/
theorem tracks_visitLink (i : Bool) (o : Options) (url : String) (title : Option String)
    (content : Writer → Step) : Tracks true i (visitLink o url title content) := by
  intro w hok
  rw [Bool.not_true, Bool.and_false, Bool.and_false]
  cases hbody : (linkBody title content w).failure with
  | some kind =>
    rw [visitLink_of_failure hbody, hbody] at hok
    contradiction
  | none =>
    cases hb : (linkBody title content w).writer.sawImage && o.suppressBadges with
    | true =>
      rw [visitLink_of_badge hbody hb]
      exact ⟨rfl, rfl⟩
    | false =>
      rw [(visitLink_eq_shown hbody hb).2]
      exact ⟨rfl, rfl⟩

theorem tracks_visit_container {kind : Container} (hd : kind.isDropped = false)
    (hlink : kind.isLink = false) (h : ∀ n ∈ ns, Tracks (links n) (images n) (visit o n))
    (info : Info) : Tracks (ns.any links) (ns.any images) (visit o (.container kind ns info)) := by
  have hall : Tracks (ns.any links) (ns.any images) (visitEach o id ns) :=
    tracks_visitEach (fun _ => ⟨rfl, rfl⟩) h
  cases kind with
  | document =>
    refine hall.ending (tracks_of_sameFlags fun w => ?_)
    split <;> exact ⟨rfl, rfl⟩
  | heading => exact tracks_visitHeading hall
  | paragraph => exact hall.ending tracks_requestParagraph
  | list => exact (tracks_visitItems h).ending tracks_requestBreak
  | listItem => exact (tracks_write bullet).between hall tracks_requestBreak
  | emphasis => exact tracks_visitMarked _ hall
  | strong => exact tracks_visitMarked _ hall
  | strikethrough => exact fun w hok => by simp [visit, Step.fail] at hok
  | link => simp [Container.isLink] at hlink
  | _ => simp [Container.isDropped] at hd

/-- What a node does to the flags of links is told by the links and images it exposes. -/
theorem tracks_visit (o : Options) (n : Node) :
    Tracks (n.exposes Node.isLink) (n.exposes Node.isImage) (visit o n) := by
  induction n with
  | leaf kind info =>
    rw [Node.exposes_leaf, Node.exposes_leaf]
    exact tracks_visitLeaf kind
  | table => exact tracks_drop _
  | container kind ns info ih =>
    cases hd : kind.isDropped with
    | true =>
      rw [Node.exposes_of_isDropped hd, Node.exposes_of_isDropped hd,
        Node.isLink_of_isDropped hd, visit_of_isDropped hd]
      exact tracks_drop _
    | false =>
      have himage : (Node.container kind ns info).isImage = false := rfl
      rw [Node.exposes_container hd, Node.exposes_container hd, himage, Bool.false_or]
      cases hlink : kind.isLink with
      | true =>
        have hself : (Node.container kind ns info).isLink = true := hlink
        obtain ⟨url, title, rfl⟩ : ∃ url title, kind = .link url title := by
          cases kind with
          | link url title => exact ⟨url, title, rfl⟩
          | _ => simp [Container.isLink] at hlink
        -- where a link ends it no longer matters what stood in it
        rw [hself, Bool.true_or]
        exact tracks_visitLink _ o url title _
      | false =>
        have hself : (Node.container kind ns info).isLink = false := hlink
        rw [hself, Bool.false_or]
        exact tracks_visit_container hd hlink ih info

/-! ## Badges with links in them -/

theorem tracks_visitEach_exposed (o : Options) (ns : List Node) :
    Tracks (ns.any (Node.exposes Node.isLink)) (ns.any (Node.exposes Node.isImage))
      (visitEach o id ns) :=
  tracks_visitEach (fun _ => ⟨rfl, rfl⟩) fun n _ => tracks_visit o n

/-- Whether a link remembers an image at its end. -/
theorem sawImage_linkBody {title : Option String}
    (hok : (linkBody title (visitEach o id ns) w).failure = none) :
    (linkBody title (visitEach o id ns) w).writer.sawImage =
      (ns.any (Node.exposes Node.isImage) && !ns.any (Node.exposes Node.isLink)) := by
  have htext := tracks_visitLinkText title (tracks_visitEach_exposed o ns)
  exact (htext w.enterLink hok).2

/-- **A link with an image is a badge unless another link is met in it.** Let an image be reached
from a link through emphasis and further links, and the link be written while badges are
suppressed. If no link is exposed below it, it leaves no trace. If there is one, wherever it stands
and whatever it holds, the link is written as if there were no image in it. -/
theorem visitLink_of_pictures (ho : o.suppressBadges = true) (himage : ∃ n ∈ ns, n.Pictures)
    (w : Writer) (url : String) (title : Option String) (info : Info)
    (hok : (visit o (.container (.link url title) ns info) w).failure = none) :
    let s := visit o (.container (.link url title) ns info) w
    ((∀ m ∈ ns.flatMap Node.exposed, m.isLink = false) →
      s.tokens = [] ∧ w.rewindTo s.writer = s.writer) ∧
    ((∃ m ∈ ns.flatMap Node.exposed, m.isLink = true) →
      let shown := (visitLinkText title (visitEach o id ns) w.enterLink).andThen (visitAddress url)
      s.tokens = shown.tokens ∧ s.writer = shown.writer.leaveLink) := by
  have hlinks : ns.any (Node.exposes Node.isLink) = (ns.flatMap Node.exposed).any Node.isLink := by
    rw [List.any_flatMap]
    rfl
  have himages : ns.any (Node.exposes Node.isImage) = true := by
    obtain ⟨n, hn, hpictures⟩ := himage
    exact List.any_eq_true.2 ⟨n, hn, hpictures.exposes⟩
  have hbody : (linkBody title (visitEach o id ns) w).failure = none := by
    cases hf : (linkBody title (visitEach o id ns) w).failure with
    | none => rfl
    | some kind =>
      rw [visit, visitLink_of_failure hf, hf] at hok
      contradiction
  have hsaw := sawImage_linkBody hbody
  rw [himages, Bool.true_and, hlinks] at hsaw
  refine ⟨fun hnone => ?_, fun hsome => ?_⟩
  · have hany : (ns.flatMap Node.exposed).any Node.isLink = false := by
      rw [List.any_eq_false]
      exact fun m hm => by simp [hnone m hm]
    rw [hany] at hsaw
    rw [visit, visitLink_of_badge hbody (by rw [hsaw, ho]; rfl)]
    exact ⟨rfl, rfl⟩
  · rw [List.any_eq_true.2 hsome] at hsaw
    exact visitLink_eq_shown hbody (by rw [hsaw]; rfl)

def boldImage : Node :=
  .container .strong [.leaf (.image "i" "" none) {}] {}

theorem pictures_boldImage : boldImage.Pictures :=
  .strong List.mem_cons_self (.image rfl)

/-- A link after an image in bold type. -/
def imageAndLink : List Node :=
  [boldImage, .container (.link "v" none) [.text "x"] {}]

theorem visitLink_of_pictures_imageAndLink :
    let w := Writer.start true
    let badge := visit {} (.container (.link "u" none) [boldImage] {}) w
    let shown := visit {} (.container (.link "u" none) imageAndLink {}) w
    (∃ n ∈ [boldImage], n.Pictures) ∧ (∃ n ∈ imageAndLink, n.Pictures) ∧
      badge.failure = none ∧ badge.tokens = [] ∧ w.rewindTo badge.writer = badge.writer ∧
      shown.failure = none ∧
      shown.tokens = ((visitEach {} id imageAndLink w.enterLink).andThen
        (visitAddress "u")).tokens ∧
      text shown.tokens = " .\n//\n// ****x (v) (u)".toList := by
  have hbold : ∃ n ∈ [boldImage], n.Pictures := ⟨_, List.mem_cons_self, pictures_boldImage⟩
  have hlinked : ∃ n ∈ imageAndLink, n.Pictures := ⟨_, List.mem_cons_self, pictures_boldImage⟩
  have hbadge := (visitLink_of_pictures (o := {}) rfl hbold (.start true) "u" none {} rfl).1
    (by decide)
  have hshown := (visitLink_of_pictures (o := {}) rfl hlinked (.start true) "u" none {} rfl).2
    (by decide)
  exact ⟨hbold, hlinked, rfl, hbadge.1, hbadge.2, rfl, hshown.1, by decide⟩

/-- A link with an image in it that is shown although badges are suppressed. -/
theorem exists_badge_shown :
    ¬ ∀ (o : Options) (w : Writer) (url : String) (title : Option String) (ns : List Node)
      (info : Info), w.Reachable → o.suppressBadges = true → (∃ n ∈ ns, n.Pictures) →
      (visit o (.container (.link url title) ns info) w).failure = none →
      (visit o (.container (.link url title) ns info) w).tokens = [] ∧
        w.rewindTo (visit o (.container (.link url title) ns info) w).writer =
          (visit o (.container (.link url title) ns info) w).writer := by
  intro h
  have hshown := h {} (.start true) "u" none imageAndLink {} (reachable_start true) rfl
    ⟨_, List.mem_cons_self, pictures_boldImage⟩ rfl
  exact absurd hshown.1 (by decide)

end Comment

end PackageDoc
