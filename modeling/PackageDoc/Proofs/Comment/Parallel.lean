import PackageDoc.Proofs.Comment.Inline
import PackageDoc.Proofs.Deletion

/-!
# Relations that runs side by side keep

Two runs go side by side if a relation between their states, and one between the tokens they have
written, are kept by every move made in both. Such relations are kept by leaves, and by containers
whose contents keep them, so two trees that differ in one place only have to be compared there.

    R w v → (f w).Related R T (f v)                           for a move f
    the nodes of two lists keep R and T in pairs  →  so do the lists      (Parallel.visitEach)
    contents keep R and T  →  so do the containers around them     (Parallel.visit_container)

A link is written with another relation `Q` inside it, and goes on with a third one once its flag
has been taken back (`Crossing`).
-/

namespace PackageDoc.Comment

/-- Two steps that leave related states, wrote related tokens and fail alike. Their notices may
differ. -/
structure Step.Related (R : Writer → Writer → Prop) (T : List Token → List Token → Prop)
    (s t : Step) : Prop where
  tokens : T s.tokens t.tokens
  failure : s.failure = t.failure
  writer : R s.writer t.writer

/-- Two programs that go side by side from related states. -/
def Related (R : Writer → Writer → Prop) (T : List Token → List Token → Prop)
    (f g : Writer → Step) : Prop :=
  ∀ w v, R w v → (f w).Related R T (g v)

/-- A relation between states and one between tokens that every move keeps. -/
structure Parallel (R : Writer → Writer → Prop) (T : List Token → List Token → Prop) : Prop where
  nil : T [] []
  append : ∀ {ts ts' us us'}, T ts ts' → T us us' → T (ts ++ us) (ts' ++ us')
  sentenceOpen : ∀ {w v}, R w v → v.sentenceOpen = w.sentenceOpen
  atLineStart : ∀ {w v}, R w v → v.atLineStart = w.atLineStart
  write : ∀ t, Related R T (fun w => .wrote (write t w)) fun w => .wrote (write t w)
  close : Related R T (fun w => .wrote (closeSentence w)) fun w => .wrote (closeSentence w)
  requestBreak : ∀ {w v}, R w v → R w.requestBreak v.requestBreak
  keepApart : ∀ {w v}, R w v → R w.keepApart v.keepApart
  addBreak : ∀ {w v : Writer}, R w v →
    R { w with breaks := w.breaks + 1 } { v with breaks := v.breaks + 1 }
  completing : ∀ {w v : Writer} completing, R w v →
    R { w with completing } { v with completing }

variable {R Q M : Writer → Writer → Prop} {T : List Token → List Token → Prop} {o o' : Options}
  {f f' g g' content content' : Writer → Step} {s t : Step} {w v : Writer} {ns ns' : List Node}

theorem Step.Related.adjust {m : Writer → Writer} (h : s.Related R T t)
    (hm : ∀ w v, R w v → Q (m w) (m v)) : (s.adjust m).Related Q T (t.adjust m) :=
  ⟨h.tokens, h.failure, hm _ _ h.writer⟩

namespace Parallel

variable (hR : Parallel R T)
include hR

theorem requestParagraph (h : R w v) : R w.requestParagraph v.requestParagraph :=
  hR.requestBreak (hR.requestBreak h)

/-! ## Steps -/

/-- A change of the state that the relation survives. -/
theorem pure {m m' : Writer → Writer} (hm : ∀ w v, R w v → R (m w) (m' v)) :
    Related R T (fun w => .pure (m w)) fun w => .pure (m' w) :=
  fun w v h => ⟨hR.nil, rfl, hm w v h⟩

theorem drop (kind : String) : Related R T (.drop kind) (.drop kind) :=
  fun _ _ h => ⟨hR.nil, rfl, h⟩

theorem fail (kind : String) : Related R T (.fail kind) (.fail kind) :=
  fun _ _ h => ⟨hR.nil, rfl, h⟩

theorem step_andThen (h : s.Related R T t) (hg : Related R T g g') :
    (s.andThen g).Related R T (t.andThen g') := by
  cases hf : s.failure with
  | some kind =>
    have ht : t.failure = some kind := by rw [← h.failure, hf]
    rw [Step.andThen_of_failure hf, Step.andThen_of_failure ht]
    exact h
  | none =>
    have ht : t.failure = none := by rw [← h.failure, hf]
    have hnext := hg _ _ h.writer
    rw [Step.andThen_of_ok hf, Step.andThen_of_ok ht]
    exact ⟨hR.append h.tokens hnext.tokens, hnext.failure, hnext.writer⟩

theorem andThen (hf : Related R T f f') (hg : Related R T g g') :
    Related R T (fun w => (f w).andThen g) fun w => (f' w).andThen g' :=
  fun w v h => hR.step_andThen (hf w v h) hg

/-! ## Leaves -/

theorem writeLines (ls : List (List Char)) :
    Related R T (fun w => .wrote (writeLines ls w)) fun w => .wrote (writeLines ls w) := by
  induction ls with
  | nil => exact fun _ _ h => ⟨hR.nil, rfl, h⟩
  | cons line rest ih =>
    -- the line's word depends on where the line begins, which the relation settles
    have hline : Related R T (fun w => .wrote (Comment.write (lineWord line w) w))
        fun w => .wrote (Comment.write (lineWord line w) w) := by
      intro w v h
      have hword : lineWord line v = lineWord line w := by
        unfold lineWord
        rw [hR.atLineStart h]
      dsimp only
      rw [hword]
      exact hR.write _ w v h
    cases rest with
    | nil =>
      rw [funext (wrote_writeLines_singleton line)]
      apply hR.andThen hline
      split
      · exact hR.pure fun _ _ => hR.keepApart
      · exact hR.pure fun _ _ => id
    | cons next rest =>
      rw [funext (wrote_writeLines_cons_cons line next rest)]
      exact hR.andThen hline (hR.andThen (hR.pure fun _ _ => hR.requestBreak) ih)

theorem writeCode (ls : List (List Char)) :
    Related R T (fun w => .wrote (writeCode ls w)) fun w => .wrote (writeCode ls w) := by
  induction ls with
  | nil => exact fun _ _ h => ⟨hR.nil, rfl, h⟩
  | cons l rest ih =>
    intro w v h
    dsimp only
    by_cases hl : l = []
    · rw [hl, writeCode_nil_cons, writeCode_nil_cons]
      exact ih _ _ (hR.addBreak h)
    · have hword := hR.write (indent ++ l) w v h
      have hrest := ih _ _ (hR.addBreak hword.writer)
      rw [writeCode_cons hl, writeCode_cons hl]
      exact ⟨hR.append hword.tokens hrest.tokens, rfl, hrest.writer⟩

/-- Leaves other than images do not look at the flags of links. -/
theorem visitLeaf {kind : Leaf} (hk : kind.isImage = false) :
    Related R T (visitLeaf kind) (visitLeaf kind) := by
  cases kind with
  | text => exact hR.writeLines _
  | code => exact hR.write _
  | codeBlock =>
    intro w v h
    exact (hR.writeCode _ _ _ (hR.requestParagraph h)).adjust fun _ _ => hR.requestBreak
  | lineBreak soft =>
    cases soft with
    | true => exact hR.pure fun _ _ => hR.requestBreak
    | false => exact hR.pure fun _ _ => hR.requestParagraph
  | image => simp [Leaf.isImage] at hk
  | thematicBreak => exact hR.drop _
  | htmlBlock => exact hR.drop _
  | htmlInline => exact hR.drop _
  | footnoteReference => exact hR.drop _
  | custom => exact hR.fail _

/-! ## Containers -/

theorem visitMarked (hc : Related R T content content') (marker : List Char) :
    Related R T (visitMarked marker content) (visitMarked marker content') := by
  intro w v h
  exact hR.step_andThen (hR.step_andThen (hR.write marker _ _ (hR.keepApart h)) hc)
    (hR.write marker)

theorem visitHeading (hc : Related R T content content') :
    Related R T (visitHeading content) (visitHeading content') := by
  intro w v h
  unfold Comment.visitHeading
  apply hR.step_andThen _ (hR.pure fun _ _ => hR.requestParagraph)
  by_cases ho : w.sentenceOpen = true
  · rw [if_pos ho, if_pos ((hR.sentenceOpen h).trans ho)]
    exact (hc _ _ (hR.completing true h)).adjust fun _ _ => hR.completing false
  · rw [if_neg ho, if_neg ((hR.sentenceOpen h).trans_ne ho)]
    exact hc _ _ (hR.requestParagraph h)

theorem visitLinkText (hc : Related R T content content') (title : Option String) :
    Related R T (visitLinkText title content) (visitLinkText title content') := by
  intro w v h
  unfold Comment.visitLinkText
  split
  · exact hc w v h
  · split
    · exact hc w v h
    · exact hR.step_andThen (hR.write _ w v h) fun _ _ hwv => hc _ _ (hR.keepApart hwv)

end Parallel

/-- How a relation `R` goes over into another one, `Q`, on entering a link and comes back on leaving
it, by way of `M` while the flag for images is still that of the link. States that `Q` relates
decide alike whether the link is to be shown. -/
structure Crossing (R Q M : Writer → Writer → Prop) (o o' : Options) : Prop where
  enter : ∀ {w v}, R w v → Q w.enterLink v.enterLink
  leave : ∀ {w v : Writer}, Q w v → M { w with inLink := false } { v with inLink := false }
  shown : ∀ {w v}, Q w v →
    (w.sawImage && o.suppressBadges) = (v.sawImage && o'.suppressBadges)
  stop : ∀ {w v}, M w v → R w v
  forget : ∀ {w v : Writer}, M w v → R { w with sawImage := false } { v with sawImage := false }
  rewind : ∀ {w v x y : Writer}, R w v → M x y →
    R { w.rewindTo x with sawImage := false } { v.rewindTo y with sawImage := false }

/-- Contents that go side by side inside a link make links that do so outside. -/
theorem Crossing.visitLink (hx : Crossing R Q M o o') (hQ : Parallel Q T) (hM : Parallel M T)
    (hc : Related Q T content content') (url : String) (title : Option String) :
    Related R T (visitLink o url title content) (visitLink o' url title content') := by
  intro w v h
  have htext := hQ.visitLinkText hc title _ _ (hx.enter h)
  have hbody : (linkBody title content w).Related M T (linkBody title content' v) :=
    htext.adjust fun _ _ => hx.leave
  have hdecide : ((linkBody title content w).writer.sawImage && o.suppressBadges) =
      ((linkBody title content' v).writer.sawImage && o'.suppressBadges) :=
    (hx.shown htext.writer :)
  cases hf : (linkBody title content w).failure with
  | some kind =>
    have hf' : (linkBody title content' v).failure = some kind := by rw [← hbody.failure, hf]
    rw [visitLink_of_failure hf, visitLink_of_failure hf']
    exact ⟨hM.nil, hbody.failure, hx.stop hbody.writer⟩
  | none =>
    have hf' : (linkBody title content' v).failure = none := by rw [← hbody.failure, hf]
    cases hb : (linkBody title content w).writer.sawImage && o.suppressBadges with
    | true =>
      rw [visitLink_of_badge hf hb, visitLink_of_badge hf' (hdecide ▸ hb)]
      exact ⟨hM.nil, rfl, hx.rewind h hbody.writer⟩
    | false =>
      rw [visitLink_of_shown hf hb, visitLink_of_shown hf' (hdecide ▸ hb)]
      apply Step.Related.adjust (R := M) _ fun _ _ => hx.forget
      split
      · exact hbody
      · exact hM.step_andThen hbody fun _ _ hwv => hM.write _ _ _ (hM.keepApart hwv)

/-! ## Lists of nodes -/

namespace Parallel

variable (hR : Parallel R T)
include hR

/-- Lists go side by side if their nodes do so in pairs. -/
theorem visitEach {before : Writer → Writer} (hb : ∀ w v, R w v → R (before w) (before v))
    (h : List.Forall₂ (fun n n' => Related R T (visit o n) (visit o' n')) ns ns') :
    Related R T (visitEach o before ns) (visitEach o' before ns') := by
  induction h with
  | nil => exact hR.pure fun _ _ => id
  | cons hn _ ih =>
    intro w v hwv
    rw [visitEach_cons, visitEach_cons]
    exact hR.step_andThen (hn _ _ (hb w v hwv)) ih

theorem visitItems
    (h : List.Forall₂ (fun n n' => Related R T (visit o n) (visit o' n')) ns ns') :
    Related R T (visitItems o ns) (visitItems o' ns') := by
  cases h with
  | nil => exact hR.pure fun _ _ => id
  | cons hn hns =>
    intro w v hwv
    rw [Comment.visitItems, Comment.visitItems]
    exact hR.step_andThen (hn w v hwv) (hR.visitEach (fun _ _ => hR.requestBreak) hns)

/-! ## Nodes -/

theorem visit_container {kind : Container} (hlink : kind.isLink = false)
    (hlist : kind.isList = false)
    (hc : Related R T (Comment.visitEach o id ns) (Comment.visitEach o' id ns')) (info : Info) :
    Related R T (visit o (.container kind ns info)) (visit o' (.container kind ns' info)) := by
  cases kind with
  | document =>
    intro w v h
    rw [visit, visit]
    apply hR.step_andThen (hc w v h)
    intro w v h
    dsimp only
    by_cases ho : w.sentenceOpen = true
    · rw [if_pos ho, if_pos ((hR.sentenceOpen h).trans ho)]
      exact hR.close w v h
    · rw [if_neg ho, if_neg ((hR.sentenceOpen h).trans_ne ho)]
      exact hR.pure (fun _ _ => id) w v h
  | heading => exact hR.visitHeading hc
  | paragraph => exact hR.andThen hc (hR.pure fun _ _ => hR.requestParagraph)
  | list => simp [Container.isList] at hlist
  | listItem =>
    exact hR.andThen (hR.andThen (hR.write bullet) hc) (hR.pure fun _ _ => hR.requestBreak)
  | emphasis => exact hR.visitMarked hc _
  | strong => exact hR.visitMarked hc _
  | link => simp [Container.isLink] at hlink
  | strikethrough => exact hR.fail _
  | blockQuote => exact hR.drop _
  | tableRow => exact hR.drop _
  | tableCell => exact hR.drop _
  | footnoteDefinition => exact hR.drop _

theorem visit_list (hc : Related R T (Comment.visitItems o ns) (Comment.visitItems o' ns'))
    (ordered : Bool) (start : Int) (tight : Bool) (info : Info) :
    Related R T (visit o (.container (.list ordered start tight) ns info))
      (visit o' (.container (.list ordered start tight) ns' info)) :=
  hR.andThen hc (hR.pure fun _ _ => hR.requestBreak)

end Parallel

/-! ## Whole documents -/

/-- Trees that go side by side from the opening words on are rendered alike. -/
theorem Related.render_eq {n m : Node} (h : Related R T (visit o n) (visit o' m))
    (hroot : m.isDocument = n.isDocument) (hname : o.packageName = o'.packageName)
    (hstart : ∀ sentenceOpen, R (.start sentenceOpen) (.start sentenceOpen))
    (htext : ∀ ts us, T ts us → text ts = text us) : render o' m = render o n := by
  have hstep : (visitRoot o n).Related R T (visitRoot o' m) := by
    rw [visitRoot, visitRoot, hroot]
    exact h _ _ (hstart _)
  have hheader : header o' = header o := by
    unfold header
    rw [hname]
  have hfooter : footer o' = footer o := by
    unfold footer
    rw [hname]
  unfold render
  dsimp only
  rw [← hstep.failure, ← htext _ _ hstep.tokens, hheader, hfooter]

end PackageDoc.Comment
