import PackageDoc.Proofs.Comment.Parallel

/-!
# A tree and what is left of it

A tree and what is left of it after nodes have been deleted are written by runs that go side by
side. Their states differ at most in whether an image has turned up: `w.Same p v` says so, and that
the flags are as `p` allows. Two steps agree if they write the same, fail alike and leave such
states.

    every move keeps the states the same                                  (parallel_same)
    a deleted node agrees with writing nothing  → a list agrees with what is left of it

Containers agree if their contents do. For a link, the contents have to decide alike whether it is
to be shown.
-/

namespace PackageDoc.Comment

/-- Two states that differ at most in whether an image has turned up. The flags, of which the first
says whether the writer is inside a link, are as `p` allows. -/
structure Writer.Same (p : Bool → Bool → Bool → Prop) (w v : Writer) : Prop where
  eq : v = { w with sawImage := v.sawImage }
  flags : p w.inLink w.sawImage v.sawImage

/-- Two steps that write the same, fail alike and leave such states. Their notices may differ. -/
structure Step.Same (p : Bool → Bool → Bool → Prop) (s t : Step) : Prop where
  tokens : s.tokens = t.tokens
  failure : s.failure = t.failure
  writer : s.writer.Same p t.writer

variable {p q : Bool → Bool → Bool → Prop} {o o' : Options} {f g g' : Writer → Step}
  {w v : Writer} {s t : Step}

theorem Writer.Same.refl (h : p w.inLink w.sawImage w.sawImage) : w.Same p w :=
  ⟨rfl, h⟩

theorem Writer.Same.imp (h : w.Same p v) (hpq : ∀ l i i', p l i i' → q l i i') : w.Same q v :=
  ⟨h.eq, hpq _ _ _ h.flags⟩

/-- A change of the state that leaves the flags of links alone. -/
theorem Writer.Same.map {m : Writer → Writer} (h : w.Same p v)
    (hm : ∀ w b, m { w with sawImage := b } = { m w with sawImage := b })
    (hl : ∀ w, (m w).inLink = w.inLink) (hi : ∀ w, (m w).sawImage = w.sawImage) :
    (m w).Same p (m v) := by
  have hv : m v = { m w with sawImage := v.sawImage } := by
    rw [← hm, ← h.eq]
  constructor
  · rw [hi, ← hv]
  · rw [hl, hi, hi]
    exact h.flags

theorem Writer.Same.requestBreak (h : w.Same p v) : w.requestBreak.Same p v.requestBreak :=
  h.map (fun _ _ => rfl) (fun _ => rfl) fun _ => rfl

theorem Writer.Same.keepApart (h : w.Same p v) : w.keepApart.Same p v.keepApart :=
  h.map (fun _ _ => rfl) (fun _ => rfl) fun _ => rfl

theorem Writer.Same.completing_set (h : w.Same p v) (completing : Bool) :
    ({ w with completing } : Writer).Same p { v with completing } :=
  h.map (m := fun w => { w with completing }) (fun _ _ => rfl) (fun _ => rfl) fun _ => rfl

theorem Writer.Same.addBreak (h : w.Same p v) :
    ({ w with breaks := w.breaks + 1 } : Writer).Same p { v with breaks := v.breaks + 1 } :=
  h.map (m := fun w => { w with breaks := w.breaks + 1 }) (fun _ _ => rfl) (fun _ => rfl)
    fun _ => rfl

theorem Writer.Same.sentenceOpen (h : w.Same p v) : v.sentenceOpen = w.sentenceOpen := by
  rw [h.eq]

theorem Writer.Same.atLineStart (h : w.Same p v) : v.atLineStart = w.atLineStart := by
  rw [h.eq]
  rfl

/-- Entering a link, the states become equal. -/
theorem Writer.Same.enterLink (h : w.Same p v) (hq : q true false false) :
    w.enterLink.Same q v.enterLink := by
  have hv : v.enterLink = w.enterLink := by
    rw [h.eq]
    rfl
  rw [hv]
  exact .refl hq

/-- Leaving a link with the layout of before, the states stay the same. -/
theorem Writer.Same.rewindTo {x y : Writer} (h : w.Same p v) (hxy : x.Same q y)
    (hp : p x.inLink false false) :
    ({ w.rewindTo x with sawImage := false } : Writer).Same p
      { v.rewindTo y with sawImage := false } := by
  obtain ⟨b, rfl⟩ : ∃ b, v = { w with sawImage := b } := ⟨_, h.eq⟩
  obtain ⟨c, rfl⟩ : ∃ c, y = { x with sawImage := c } := ⟨_, hxy.eq⟩
  exact .refl hp

/-! ## Moves -/

theorem same_write (h : w.Same p v) (t : List Char) :
    (Step.wrote (write t w)).Same p (.wrote (write t v)) := by
  -- a word does not look at the flags of links
  have hw := write_flags t w w.inLink w.sawImage
  have hv := write_flags t w w.inLink v.sawImage
  have heq : v = { w with inLink := w.inLink, sawImage := v.sawImage } := h.eq
  rw [← heq] at hv
  have hw' : write t w =
      ((write t w).1, { (write t w).2 with inLink := w.inLink, sawImage := w.sawImage }) := hw
  have hl : (write t w).2.inLink = w.inLink := by rw [hw']
  have hi : (write t w).2.sawImage = w.sawImage := by rw [hw']
  constructor
  · rw [Step.tokens_wrote, Step.tokens_wrote, hv]
  · rfl
  · rw [Step.writer_wrote, Step.writer_wrote, hv]
    constructor
    · rw [← hl]
    · rw [hl, hi]
      exact h.flags

theorem same_closeSentence (h : w.Same p v) :
    (Step.wrote (closeSentence w)).Same p (.wrote (closeSentence v)) := by
  rw [h.eq]
  exact ⟨rfl, rfl, ⟨rfl, h.flags⟩⟩

/-- Agreement is going side by side with the same tokens. -/
theorem same_iff_related : s.Same p t ↔ s.Related (Writer.Same p) (· = ·) t :=
  ⟨fun h => ⟨h.tokens, h.failure, h.writer⟩, fun h => ⟨h.tokens, h.failure, h.writer⟩⟩

/-- Two programs that agree on states that are the same. -/
def Agree (p : Bool → Bool → Bool → Prop) (f g : Writer → Step) : Prop :=
  ∀ w v, w.Same p v → (f w).Same p (g v)

theorem agree_iff_related : Agree p f g ↔ Related (Writer.Same p) (· = ·) f g :=
  forall₃_congr fun _ _ _ => same_iff_related

/-- States that are the same stay so in every move made in both. -/
theorem parallel_same : Parallel (Writer.Same p) (· = ·) where
  nil := rfl
  append := congrArg₂ (· ++ ·)
  sentenceOpen := Writer.Same.sentenceOpen
  atLineStart := Writer.Same.atLineStart
  write := fun t => agree_iff_related.1 fun _ _ h => same_write h t
  close := agree_iff_related.1 fun _ _ h => same_closeSentence h
  requestBreak := Writer.Same.requestBreak
  keepApart := Writer.Same.keepApart
  addBreak := Writer.Same.addBreak
  completing := fun completing h => h.completing_set completing

theorem same_pure (h : w.Same p v) : (Step.pure w).Same p (.pure v) :=
  ⟨rfl, rfl, h⟩

theorem same_drop (kind : String) (h : w.Same p v) : (Step.drop kind w).Same p (.drop kind v) :=
  ⟨rfl, rfl, h⟩

theorem Step.Same.andThen (h : s.Same p t) (hg : Agree p g g') :
    (s.andThen g).Same p (t.andThen g') :=
  same_iff_related.2 (parallel_same.step_andThen (same_iff_related.1 h) (agree_iff_related.1 hg))

/-- Leaves other than images neither read nor set the flags of links. -/
theorem same_visitLeaf {kind : Leaf} (hk : kind.isImage = false) (h : w.Same p v) :
    (visitLeaf kind w).Same p (visitLeaf kind v) :=
  same_iff_related.2 (parallel_same.visitLeaf hk w v h)

/-! ## Links -/

/-- Inside a link the flags are as `q` allows, after it as `p` does. -/
theorem crossing_same (hq : q true false false) (hleave : ∀ l i i', q l i i' → p false i i')
    (hshown : ∀ l i i', q l i i' → (i && o.suppressBadges) = (i' && o'.suppressBadges)) :
    Crossing (Writer.Same p) (Writer.Same q) (Writer.Same fun l i i' => l = false ∧ p false i i')
      o o' := by
  have hout : p false false false := hleave _ _ _ hq
  constructor
  case enter => exact fun h => h.enterLink hq
  case leave =>
    intro x y h
    obtain ⟨b, rfl⟩ : ∃ b, y = { x with sawImage := b } := ⟨_, h.eq⟩
    exact ⟨rfl, rfl, hleave _ _ _ h.flags⟩
  case shown => exact fun h => hshown _ _ _ h.flags
  case stop =>
    intro x y h
    refine h.imp ?_
    rintro l i i' ⟨rfl, hp⟩
    exact hp
  case forget =>
    intro x y h
    obtain ⟨b, rfl⟩ : ∃ b, y = { x with sawImage := b } := ⟨_, h.eq⟩
    exact ⟨rfl, h.flags.1 ▸ hout⟩
  case rewind =>
    intro w v x y h hxy
    exact h.rewindTo hxy (hxy.flags.1 ▸ hout)

/-- Contents that agree inside a link, and decide alike whether it is to be shown, make links that
agree. -/
theorem agree_visitLink {content content' : Writer → Step} (hc : Agree q content content')
    (hq : q true false false) (hleave : ∀ l i i', q l i i' → p false i i')
    (hshown : ∀ l i i', q l i i' → (i && o.suppressBadges) = (i' && o'.suppressBadges))
    (url : String) (title : Option String) :
    Agree p (visitLink o url title content) (visitLink o' url title content') :=
  agree_iff_related.2 ((crossing_same hq hleave hshown).visitLink parallel_same parallel_same
    (agree_iff_related.1 hc) url title)

/-! ## Lists of nodes -/

variable {gone : Bool → Node → Bool} {linked : Bool} {ns : List Node}

/-- A list agrees with what is left of it if each node that stays does, and each that is deleted
agrees with writing nothing. -/
theorem agree_visitEach {before : Writer → Writer}
    (hb : ∀ w v, w.Same p v → (before w).Same p (before v))
    (hkept : ∀ n ∈ ns, gone linked n = false →
      Agree p (visit o n) (visit o' (n.without gone linked)))
    (hgone : ∀ n ∈ ns, gone linked n = true → Agree p (fun w => visit o n (before w)) .pure) :
    Agree p (visitEach o before ns) (visitEach o' before (Node.withoutAll gone linked ns)) := by
  induction ns with
  | nil => exact fun _ _ h => same_pure h
  | cons n ns ih =>
    obtain ⟨hn, hns⟩ := List.forall_mem_cons.1 hkept
    obtain ⟨hg, hgs⟩ := List.forall_mem_cons.1 hgone
    have hrest := ih hns hgs
    intro w v h
    rw [visitEach_cons]
    cases hd : gone linked n with
    | true =>
      have hstep := (hg hd w v h).andThen hrest
      rw [Step.pure_andThen] at hstep
      rw [Node.withoutAll_cons_of_gone hd]
      exact hstep
    | false =>
      rw [Node.withoutAll_cons_of_kept hd, visitEach_cons]
      exact (hn hd _ _ (hb w v h)).andThen hrest

/-- The items of a list of which none is deleted agree with what is left of them. -/
theorem agree_visitItems (hstay : ∀ n ∈ ns, gone linked n = false)
    (hkept : ∀ n ∈ ns, Agree p (visit o n) (visit o' (n.without gone linked))) :
    Agree p (visitItems o ns) (visitItems o' (Node.withoutAll gone linked ns)) := by
  intro w v h
  cases ns with
  | nil => exact same_pure h
  | cons n ns =>
    obtain ⟨hn, hns⟩ := List.forall_mem_cons.1 hstay
    obtain ⟨hk, hks⟩ := List.forall_mem_cons.1 hkept
    rw [Node.withoutAll_cons_of_kept hn, visitItems, visitItems]
    apply (hk w v h).andThen
    apply agree_visitEach
    · exact fun _ _ h => h.requestBreak
    · exact fun m hm _ => hks m hm
    · intro m hm hgone
      rw [hns m hm] at hgone
      contradiction

/-! ## Nodes -/

/-- Containers other than lists and links agree if their contents do. -/
theorem agree_visit_container {kind : Container} {ns' : List Node} (hlink : kind.isLink = false)
    (hlist : kind.isList = false) (hc : Agree p (visitEach o id ns) (visitEach o' id ns'))
    (info : Info) :
    Agree p (visit o (.container kind ns info)) (visit o' (.container kind ns' info)) :=
  agree_iff_related.2 (parallel_same.visit_container hlink hlist (agree_iff_related.1 hc) info)

theorem agree_visit_list {ns' : List Node} (hc : Agree p (visitItems o ns) (visitItems o' ns'))
    (ordered : Bool) (start : Int) (tight : Bool) (info : Info) :
    Agree p (visit o (.container (.list ordered start tight) ns info))
      (visit o' (.container (.list ordered start tight) ns' info)) :=
  agree_iff_related.2 (parallel_same.visit_list (agree_iff_related.1 hc) ordered start tight info)

/-! ## Whole documents -/

/-- Trees that agree at the beginning of a comment are rendered alike. -/
theorem render_eq_of_agree {n m : Node} (hroot : m.isDocument = n.isDocument)
    (hname : o.packageName = o'.packageName) (hp : p false false false)
    (h : Agree p (visit o n) (visit o' m)) : render o' m = render o n :=
  (agree_iff_related.1 h).render_eq hroot hname (fun _ => .refl hp) fun _ _ => congrArg text

end PackageDoc.Comment
