import PackageDoc.Proofs.Comment.Alike
import PackageDoc.Proofs.Comment.Silence
import PackageDoc.Proofs.Comment.Unsupported

/-!
# Running text

A program for running text is fluent if it is blind and opens well, keeps a heading's claim, stays
inside or outside links, remembers images inside links only, and is known to be silent or not. The
programs for running text are joined from words and moves that are fluent, and a link is fluent
because whether it is a badge does not depend on the state it is met in.

    Fluent l p q f → Fluent l p' q' g → Fluent l (p || p') (q && q') (f and then g)
    a suppressed badge leaves the state as it found it                   (visitLink_of_pictured)
-/

namespace PackageDoc.Comment

/-- Where running text is written: inside a link, or outside with no image remembered. -/
structure Writer.At (linked : Bool) (w : Writer) : Prop where
  inLink : w.inLink = linked
  sawImage : linked = false → w.sawImage = false

/-- A program for running text inside links or outside, which has an image in it or not, and is
silent or not. -/
structure Fluent (linked pictured silent : Bool) (f : Writer → Step) : Prop extends Blind f where
  opens : Opens f
  completing : ∀ w, (f w).writer.completing = w.completing
  inLink : ∀ w, w.At linked → (f w).writer.inLink = linked
  sawImage : ∀ w, w.At linked → (f w).writer.sawImage = (w.sawImage || linked && pictured)
  tokens : ∀ w, w.At linked → w.Resting → ((f w).tokens = [] ↔ silent = true)

variable {l p p' q q' : Bool} {f g content : Writer → Step}

theorem Fluent.at (hf : Fluent l p q f) {w : Writer} (hw : w.At l) :
    (f w).writer.At l := by
  refine ⟨hf.inLink w hw, fun h => ?_⟩
  rw [hf.sawImage w hw, hw.sawImage h, h]
  rfl

theorem Fluent.andThen (hf : Fluent l p q f) (hg : Fluent l p' q' g) :
    Fluent l (p || p') (q && q') fun w => (f w).andThen g := by
  refine ⟨hf.toBlind.andThen hg.toBlind,
    hf.opens.andThen hg.opens hf.toBlind hg.toBlind hf.completing, ?_, ?_, ?_, ?_⟩
  · intro w
    rw [Step.andThen_of_ok (hf.ok w)]
    exact (hg.completing _).trans (hf.completing w)
  · intro w hw
    rw [Step.andThen_of_ok (hf.ok w)]
    exact hg.inLink _ (hf.at hw)
  · intro w hw
    rw [Step.andThen_of_ok (hf.ok w)]
    rw [hg.sawImage _ (hf.at hw), hf.sawImage w hw, Bool.or_assoc, Bool.and_or_distrib_left]
  · intro w hw hrest
    rw [Step.andThen_of_ok (hf.ok w), List.append_eq_nil_iff, Bool.and_eq_true,
      hf.tokens w hw hrest]
    refine and_congr_right fun hq => ?_
    -- `g` is met at rest only because `f` wrote nothing
    have hnil : (f w).tokens = [] := (hf.tokens w hw hrest).2 hq
    exact hg.tokens _ (hf.at hw) ((hf.runs w).resting hnil hrest)

/-! ## Moves and words -/

/-- A program that writes nothing and sets no flag but the one for images is fluent. -/
theorem fluent_of_silent (hf : Blind f) (silent : ∀ w, (f w).tokens = [])
    (completing : ∀ w, (f w).writer.completing = w.completing)
    (inLink : ∀ w, (f w).writer.inLink = w.inLink)
    (sawImage : ∀ w, (f w).writer.sawImage = (w.sawImage || w.inLink && p)) :
    Fluent l p true f := by
  refine ⟨hf, opens_of_silent hf silent ?_ ?_, completing, ?_, ?_, ?_⟩
  · intro w v h
    rw [inLink, inLink, h.inLink]
  · intro w v h
    rw [sawImage, sawImage, h.sawImage, h.inLink]
  · exact fun w hw => (inLink w).trans hw.inLink
  · intro w hw
    rw [sawImage, hw.inLink]
  · exact fun w _ _ => iff_of_true (silent w) rfl

theorem fluent_pure : Fluent l false true Step.pure :=
  fluent_of_silent blind_pure (fun _ => rfl) (fun _ => rfl) (fun _ => rfl) (by simp)

theorem fluent_drop (kind : String) : Fluent l false true (Step.drop kind) :=
  fluent_of_silent (blind_drop kind) (fun _ => rfl) (fun _ => rfl) (fun _ => rfl)
    (by simp [Step.drop])

theorem fluent_requestBreak : Fluent l false true fun w => .pure w.requestBreak :=
  fluent_of_silent blind_requestBreak (fun _ => rfl) (fun _ => rfl) (fun _ => rfl)
    (by simp [Writer.requestBreak])

theorem fluent_requestParagraph : Fluent l false true fun w => .pure w.requestParagraph :=
  fluent_of_silent blind_requestParagraph (fun _ => rfl) (fun _ => rfl) (fun _ => rfl)
    (by simp [Writer.requestParagraph, Writer.requestBreak])

theorem fluent_keepApart : Fluent l false true fun w => .pure w.keepApart :=
  fluent_of_silent blind_keepApart (fun _ => rfl) (fun _ => rfl) (fun _ => rfl)
    (by simp [Writer.keepApart])

/-- Writing a word is fluent if the word depends only on whether the line has begun. -/
theorem fluent_write {word : Writer → List Char}
    (hword : ∀ w v, w.atLineStart = v.atLineStart → word w = word v)
    (hq : ∀ w, w.Resting → (word w = [] ↔ q = true)) :
    Fluent l false q fun w => .wrote (write (word w) w) := by
  have hflags : ∀ w, (write (word w) w).2.completing = w.completing ∧
      (write (word w) w).2.inLink = w.inLink ∧ (write (word w) w).2.sawImage = w.sawImage := by
    intro w
    by_cases ht : word w = []
    · rw [ht, write_nil]
      exact ⟨rfl, rfl, rfl⟩
    · rw [write_snd ht]
      exact ⟨rfl, rfl, rfl⟩
  refine ⟨blind_write fun w v h => hword w v h.atLineStart, opens_write fun w v h => ?_,
    fun w => (hflags w).1, fun w hw => (hflags w).2.1.trans hw.inLink, ?_, ?_⟩
  · exact hword w v (h.resting_left.atLineStart.trans h.resting_right.atLineStart.symm)
  · intro w _
    rw [Bool.and_false, Bool.or_false]
    exact (hflags w).2.2
  · intro w _ hrest
    rw [Step.tokens_wrote, ← hq w hrest]
    refine ⟨fun h => ?_, fun h => by rw [h, write_nil]⟩
    by_contra ht
    exact write_fst_ne_nil ht w h

theorem fluent_word (t : List Char) : Fluent l false t.isEmpty fun w => .wrote (write t w) :=
  fluent_write (fun _ _ _ => rfl) fun _ _ => List.isEmpty_iff.symm

/-- A word that is kept apart from the one before it. -/
theorem fluent_apart (t : List Char) :
    Fluent l false t.isEmpty fun w => .wrote (write t w.keepApart) :=
  fluent_keepApart.andThen (fluent_word t)

/-! ## Leaves -/

/-- A line of text is written as nothing, at the beginning of a line, iff it is blank. -/
theorem lineWord_eq_nil {line : List Char} {w : Writer} (hw : w.Resting) :
    lineWord line w = [] ↔ ∀ c ∈ line, Text.isBlank c = true := by
  rw [lineWord, if_pos hw.atLineStart, Text.trimStart_eq_nil, unspaced]
  split
  · next hspace =>
    have hne : line ≠ [] := by
      rintro rfl
      simp at hspace
    rw [beq_iff_eq, List.getLast?_eq_getLast_of_ne_nil hne, Option.some.injEq] at hspace
    conv_rhs => rw [← List.dropLast_append_getLast hne, hspace]
    simp only [List.forall_mem_append, List.mem_singleton, forall_eq]
    exact (and_iff_left (by decide)).symm
  · rfl

theorem fluent_line (line : List Char) :
    Fluent l false (line.all Text.isBlank) fun w => .wrote (write (lineWord line w) w) := by
  refine fluent_write (fun w v h => ?_) fun w hw => ?_
  · rw [lineWord, lineWord, h]
  · rw [lineWord_eq_nil hw, List.all_eq_true]

theorem wrote_writeLines_singleton (line : List Char) (w : Writer) :
    Step.wrote (writeLines [line] w) = (Step.wrote (write (lineWord line w) w)).andThen fun v =>
      .pure (if line.getLast? == some ' ' then v.keepApart else v) := by
  rw [writeLines_singleton, Step.andThen_of_ok rfl]
  simp [Step.wrote, Step.pure]

theorem wrote_writeLines_cons_cons (line next : List Char) (rest : List (List Char)) (w : Writer) :
    Step.wrote (writeLines (line :: next :: rest) w) =
      (Step.wrote (write (lineWord line w) w)).andThen fun v =>
        (Step.pure v.requestBreak).andThen fun v => .wrote (writeLines (next :: rest) v) := by
  rw [writeLines_cons_cons, Step.andThen_of_ok rfl, Step.andThen_of_ok rfl]
  rfl

theorem fluent_writeLines {ls : List (List Char)} (hne : ls ≠ []) :
    Fluent l false (ls.all fun line => line.all Text.isBlank) fun w =>
      .wrote (writeLines ls w) := by
  induction ls with
  | nil => exact absurd rfl hne
  | cons line rest ih =>
    cases rest with
    | nil =>
      have hlast : Fluent l false true fun w =>
          .pure (if line.getLast? == some ' ' then w.keepApart else w) := by
        split
        · exact fluent_keepApart
        · exact fluent_pure
      rw [funext (wrote_writeLines_singleton line)]
      exact (fluent_line line).andThen hlast
    | cons next rest =>
      rw [funext (wrote_writeLines_cons_cons line next rest)]
      exact (fluent_line line).andThen (fluent_requestBreak.andThen (ih (by simp)))

theorem fluent_visitText (content : String) :
    Fluent l false (content.toList.all Text.isBlank) (visitLeaf (.text content)) := by
  have hlines := fluent_writeLines (l := l) (Text.splitAt_ne_nil '\n' content.toList)
  have hblank : ((Text.splitAt '\n' content.toList).all fun line => line.all Text.isBlank) =
      content.toList.all Text.isBlank := by
    rw [Bool.eq_iff_iff]
    simp only [List.all_eq_true]
    exact Text.all_isBlank_splitAt content.toList
  rw [hblank] at hlines
  exact hlines

/-- An image only sets the flag for images, and only inside a link. -/
theorem visitImage_eq {kind : Leaf} (h : kind.isImage = true) (w : Writer) :
    visitLeaf kind w = .pure { w with sawImage := w.sawImage || w.inLink } := by
  cases kind with
  | image =>
    obtain ⟨_, _, _, _, _, _, inLink, sawImage⟩ := w
    cases inLink <;> simp [visitLeaf]
  | _ => simp [Leaf.isImage] at h

theorem fluent_visitImage (url alt : String) (title : Option String) :
    Fluent l true true (visitLeaf (.image url alt title)) := by
  have himage : (Leaf.image url alt title).isImage = true := rfl
  rw [funext (visitImage_eq himage)]
  refine fluent_of_silent (blind_of_silent (fun _ => rfl) (fun _ => rfl) (fun _ => .flags) ?_)
    (fun _ => rfl) (fun _ => rfl) (fun _ => rfl) (by simp)
  intro w v h
  exact ⟨h.sentenceOpen, h.completing, h.isEmpty, h.lineStart, h.breaks, h.spacing, h.inLink,
    congrArg₂ (· || ·) h.sawImage h.inLink⟩

theorem fluent_visitLeaf {kind : Leaf} (h : kind.isInline = true) :
    Fluent l kind.isImage kind.silent (visitLeaf kind) := by
  cases kind with
  | text content => exact fluent_visitText content
  | code content => exact fluent_word content.toList
  | image => exact fluent_visitImage _ _ _
  | lineBreak soft =>
    cases soft with
    | true => exact fluent_requestBreak
    | false => exact fluent_requestParagraph
  | htmlInline => exact fluent_drop _
  | footnoteReference => exact fluent_drop _
  | codeBlock => simp [Leaf.isInline] at h
  | thematicBreak => simp [Leaf.isInline] at h
  | htmlBlock => simp [Leaf.isInline] at h
  | custom => simp [Leaf.isInline] at h

/-! ## Containers -/

theorem fluent_visitEach {o : Options} {ns : List Node}
    (h : ∀ n ∈ ns, Fluent l n.pictured (n.silent o) (visit o n)) :
    Fluent l (ns.any Node.pictured) (Node.silentAll o ns) (visitEach o id ns) := by
  induction ns with
  | nil => exact fluent_pure
  | cons n ns ih =>
    exact (h n List.mem_cons_self).andThen (ih fun m hm => h m (List.mem_cons_of_mem _ hm))

theorem fluent_visitMarked {marker : List Char} (hm : marker ≠ [])
    (hc : Fluent l p q content) : Fluent l p false (visitMarked marker content) := by
  have hword := fluent_word (l := l) marker
  have hmarker := fluent_apart (l := l) marker
  rw [List.isEmpty_eq_false_iff.2 hm] at hword hmarker
  have hprog := (hmarker.andThen hc).andThen hword
  rw [Bool.false_or, Bool.or_false] at hprog
  exact hprog

/-- An empty title is no title. -/
theorem visitLinkText_of_isEmpty {title : Option String} (h : title.all String.isEmpty = true)
    (content : Writer → Step) : visitLinkText title content = content := by
  funext w
  cases title with
  | none => rfl
  | some t =>
    have ht : t.isEmpty = true := h
    simp [visitLinkText, ht]

theorem visitLinkText_of_title {t : String} (h : t.isEmpty = false) (content : Writer → Step) :
    visitLinkText (some t) content = fun w =>
      (Step.wrote (write t.toList w)).andThen fun v => (Step.pure v.keepApart).andThen content := by
  funext w
  rw [visitLinkText, if_neg (by simp [h])]
  congr 1

theorem fluent_visitLinkText (hc : Fluent l p q content) (title : Option String) :
    Fluent l p (title.all String.isEmpty && q) (visitLinkText title content) := by
  cases ht : title.all String.isEmpty with
  | true =>
    rw [visitLinkText_of_isEmpty ht]
    exact hc
  | false =>
    obtain ⟨t, rfl⟩ : ∃ t, title = some t := by
      cases title with
      | none => simp at ht
      | some t => exact ⟨t, rfl⟩
    have ht : t.isEmpty = false := ht
    have hempty : t.toList.isEmpty = false := by
      rw [List.isEmpty_eq_false_iff, ne_eq, String.toList_eq_nil_iff, ← String.isEmpty_iff, ht]
      simp
    have hprog := (fluent_word (l := l) t.toList).andThen (fluent_keepApart.andThen hc)
    rw [visitLinkText_of_title ht]
    simpa [hempty] using hprog

/-! ## Links -/

/-- Writing a word neither looks at the flags of links nor changes them. -/
theorem write_flags (t : List Char) (w : Writer) (inLink sawImage : Bool) :
    write t { w with inLink, sawImage } =
      ((write t w).1, { (write t w).2 with inLink, sawImage }) := by
  unfold write
  split
  · rfl
  · dsimp only
    split
    · split <;> rfl
    · rfl

def Writer.enterLink (w : Writer) : Writer :=
  { w with inLink := true, sawImage := false }

def Writer.leaveLink (w : Writer) : Writer :=
  { w with inLink := false, sawImage := false }

/-- What a link writes at its end. -/
def visitAddress (url : String) (w : Writer) : Step :=
  if url.isEmpty then .pure w else .wrote (write (('(' :: url.toList) ++ [')']) w.keepApart)

theorem visitAddress_of_isEmpty {url : String} (h : url.isEmpty = true) :
    visitAddress url = Step.pure := by
  funext w
  rw [visitAddress, if_pos h]

theorem visitAddress_of_ne {url : String} (h : url.isEmpty = false) :
    visitAddress url = fun w => .wrote (write (('(' :: url.toList) ++ [')']) w.keepApart) := by
  funext w
  rw [visitAddress, if_neg (by simp [h])]

theorem fluent_visitAddress (url : String) : Fluent l false url.isEmpty (visitAddress url) := by
  cases hu : url.isEmpty with
  | true =>
    rw [visitAddress_of_isEmpty hu]
    exact fluent_pure
  | false =>
    rw [visitAddress_of_ne hu]
    exact fluent_apart (('(' :: url.toList) ++ [')'])

variable {o : Options}

theorem at_enterLink (w : Writer) : w.enterLink.At true :=
  ⟨rfl, fun h => by simp at h⟩

/-- Whether an image turns up in a link is known before it is written. -/
theorem linkBody_of_fluent (hc : Fluent true p q content) (title : Option String) (w : Writer) :
    (linkBody title content w).failure = none ∧ (linkBody title content w).writer.sawImage = p := by
  have htext := fluent_visitLinkText hc title
  refine ⟨(Step.failure_adjust _ _).trans (htext.ok _), ?_⟩
  exact (htext.sawImage _ (at_enterLink w)).trans (by simp [Writer.enterLink])

/-- A suppressed badge leaves the state as it found it. -/
theorem visitLink_of_pictured (hc : Fluent true p q content) (hb : (p && o.suppressBadges) = true)
    (url : String) (title : Option String) (w : Writer) :
    (visitLink o url title content w).tokens = [] ∧
      (visitLink o url title content w).writer = w.leaveLink := by
  have htext := fluent_visitLinkText hc title
  obtain ⟨hok, himage⟩ := linkBody_of_fluent hc title w
  rw [visitLink_of_badge hok (by rw [himage, hb])]
  refine ⟨rfl, ?_⟩
  have hkept : (linkBody title content w).writer.completing = w.completing :=
    htext.completing w.enterLink
  simp only [Writer.rewindTo, hkept]
  rfl

/-- A link that is not a suppressed badge writes what it shows and its address. -/
theorem visitLink_eq_shown {w : Writer} {url : String} {title : Option String}
    (hok : (visitLinkText title content w.enterLink).failure = none)
    (hb : ((linkBody title content w).writer.sawImage && o.suppressBadges) = false) :
    (visitLink o url title content w).tokens =
        ((visitLinkText title content w.enterLink).andThen (visitAddress url)).tokens ∧
      (visitLink o url title content w).writer = Writer.leaveLink
        ((visitLinkText title content w.enterLink).andThen (visitAddress url)).writer := by
  have hbody : (linkBody title content w).failure = none := hok
  rw [visitLink_of_shown hbody hb, Step.andThen_of_ok hok]
  by_cases hu : url.isEmpty = true
  · rw [if_pos hu, visitAddress, if_pos hu, Step.tokens_pure, List.append_nil]
    exact ⟨rfl, rfl⟩
  · rw [if_neg hu, visitAddress, if_neg hu, Step.andThen_of_ok hbody]
    -- the link is over when its address is written, and a word does not look at that flag
    have hflags := write_flags (('(' :: url.toList) ++ [')'])
      (visitLinkText title content w.enterLink).writer.keepApart false
      (visitLinkText title content w.enterLink).writer.sawImage
    have hleft : (linkBody title content w).writer.keepApart =
        { (visitLinkText title content w.enterLink).writer.keepApart with
          inLink := false
          sawImage := (visitLinkText title content w.enterLink).writer.sawImage } := rfl
    rw [hleft, hflags]
    exact ⟨rfl, rfl⟩

theorem visitLink_of_plain (hc : Fluent true p q content) (hb : (p && o.suppressBadges) = false)
    (url : String) (title : Option String) (w : Writer) :
    (visitLink o url title content w).tokens =
        ((visitLinkText title content w.enterLink).andThen (visitAddress url)).tokens ∧
      (visitLink o url title content w).writer = Writer.leaveLink
        ((visitLinkText title content w.enterLink).andThen (visitAddress url)).writer := by
  have himage := (linkBody_of_fluent hc title w).2
  exact visitLink_eq_shown ((fluent_visitLinkText hc title).ok _) (by rw [himage, hb])

theorem Writer.Like.leaveLink {w v : Writer} (h : w.Like v) : w.leaveLink.Like v.leaveLink :=
  h.flags false false

theorem Writer.Fresh.setFlags {w v : Writer} (h : w.Fresh v) (inLink sawImage : Bool) :
    ({ w with inLink, sawImage } : Writer).Fresh { v with inLink, sawImage } :=
  h.runs .flags .flags rfl rfl

theorem runs_visitLink (hc : Fluent true p q content) (o : Options) (url : String)
    (title : Option String) (w : Writer) :
    Runs (fun _ => True) w (visitLink o url title content w).tokens
      (visitLink o url title content w).writer :=
  runsFrom_visitLink trivial (fun _ _ => trivial) (fun v _ => hc.runs v) w
    (failure_visitLink hc.ok o url title w)

/-- A suppressed badge is a move that writes nothing. -/
theorem fluent_visitLink_of_pictured (hc : Fluent true p q content)
    (hb : (p && o.suppressBadges) = true) (url : String) (title : Option String) :
    Fluent false p' true (visitLink o url title content) := by
  have hbadge := visitLink_of_pictured hc hb url title
  have hruns := runs_visitLink hc o url title
  have hblind : Blind (visitLink o url title content) := by
    refine blind_of_silent (failure_visitLink hc.ok o url title) (fun w => (hbadge w).1) ?_ ?_
    · exact fun w => (hbadge w).1 ▸ hruns w
    · intro w v h
      rw [(hbadge w).2, (hbadge v).2]
      exact h.leaveLink
  refine ⟨hblind, opens_of_silent hblind (fun w => (hbadge w).1) ?_ ?_, ?_, ?_, ?_, ?_⟩
  · intro w v _
    rw [(hbadge w).2, (hbadge v).2]
    rfl
  · intro w v _
    rw [(hbadge w).2, (hbadge v).2]
    rfl
  · intro w
    rw [(hbadge w).2]
    rfl
  · intro w _
    rw [(hbadge w).2]
    rfl
  · intro w hw
    rw [(hbadge w).2, hw.sawImage rfl]
    rfl
  · exact fun w _ _ => iff_of_true (hbadge w).1 rfl

/-- What a link shows is written from a state like the one the link is met in, so the link is as
fluent as that. -/
theorem fluent_visitLink_of_plain (hc : Fluent true p q content)
    (hb : (p && o.suppressBadges) = false) (url : String) (title : Option String) :
    Fluent false p' ((title.all String.isEmpty && q) && url.isEmpty)
      (visitLink o url title content) := by
  have hshown := visitLink_of_plain hc hb url title
  have hprog := (fluent_visitLinkText hc title).andThen (fluent_visitAddress url)
  refine ⟨⟨failure_visitLink hc.ok o url title, runs_visitLink hc o url title, ?_⟩, ?_, ?_, ?_,
    ?_, ?_⟩
  · intro w v h
    have hlike := hprog.like _ _ (h.flags true false)
    refine ⟨?_, ?_⟩
    · rw [(hshown w).1, (hshown v).1]
      exact hlike.tokens
    · rw [(hshown w).2, (hshown v).2]
      exact hlike.writer.leaveLink
  · intro w v h
    cases hprog.opens _ _ (h.setFlags true false) with
    | silent hs ht hfresh =>
      refine .silent ((hshown w).1.trans hs) ((hshown v).1.trans ht) ?_
      rw [(hshown w).2, (hshown v).2]
      exact hfresh.setFlags false false
    | spoken hs ht hlike =>
      refine .spoken ((hshown w).1.trans hs) ((hshown v).1.trans ht) ?_
      rw [(hshown w).2, (hshown v).2]
      exact hlike.leaveLink
  · intro w
    rw [(hshown w).2]
    exact hprog.completing w.enterLink
  · intro w _
    rw [(hshown w).2]
    rfl
  · intro w hw
    rw [(hshown w).2, hw.sawImage rfl]
    rfl
  · intro w _ hrest
    rw [(hshown w).1]
    exact hprog.tokens w.enterLink (at_enterLink w) (hrest.flags _ _ _)

/-- Links are fluent, and it is known which of them are silent. -/
theorem fluent_visitLink (hc : Fluent true p q content) (o : Options) (url : String)
    (title : Option String) :
    Fluent false p' ((o.suppressBadges && p) || (title.all String.isEmpty && url.isEmpty && q))
      (visitLink o url title content) := by
  rw [Bool.and_comm o.suppressBadges]
  cases hb : p && o.suppressBadges with
  | true => exact fluent_visitLink_of_pictured hc hb url title
  | false =>
    rw [Bool.false_or, Bool.and_right_comm]
    exact fluent_visitLink_of_plain hc hb url title

end PackageDoc.Comment
