import PackageDoc.Proofs.Comment.Sound

/-!
# States that are written from alike

Two states are alike if no later move can tell them apart. What was written last matters only to
the next token on the same line, and a heading's claim to the opening sentence only while the
sentence is open. A program is blind if it writes the same tokens from states that are alike, and
leaves states that are alike.

A fresh pair are two states before the first token, with the sentence open in one and closed in the
other. A program opens well if the tokens it writes from them are the same but for the first one,
which has the period and a blank line before it unless it completes the sentence.

    w.Like v → (f w).Like (f v)                        for a blind program f
    w.Fresh v → (f w).Opens w.completing (f v)         for a program f that opens well
-/

namespace PackageDoc.Comment

/-! ## Alike -/

/-- Two states that no move can tell apart. -/
structure Writer.Like (w v : Writer) : Prop where
  sentenceOpen : w.sentenceOpen = v.sentenceOpen
  completing : w.sentenceOpen = true → w.completing = v.completing
  isEmpty : w.last.isEmpty = v.last.isEmpty
  lineStart : w.lineStart = v.lineStart
  breaks : w.breaks = v.breaks
  spacing : w.atLineStart = false → w.last = v.last ∧ w.softSpace = v.softSpace
  inLink : w.inLink = v.inLink
  sawImage : w.sawImage = v.sawImage

/-- Two steps that wrote the same and left states that are alike. -/
structure Step.Like (s t : Step) : Prop where
  tokens : s.tokens = t.tokens
  writer : s.writer.Like t.writer

variable {t : List Char} {w v : Writer}

namespace Writer.Like

theorem atLineStart (h : w.Like v) : w.atLineStart = v.atLineStart := by
  unfold Writer.atLineStart
  rw [h.breaks, h.lineStart]

theorem gapBefore (h : w.Like v) (t : List Char) : w.gapBefore t = v.gapBefore t := by
  unfold Writer.gapBefore
  rw [← h.breaks, ← h.lineStart]
  by_cases hb : 0 < w.breaks
  · rw [if_pos hb, if_pos hb]
  · by_cases hl : w.lineStart = true
    · rw [if_pos hl, if_pos hl]
    · obtain ⟨hlast, hsoft⟩ := h.spacing (by simp [Writer.atLineStart, hb, hl])
      rw [hlast, hsoft]

theorem requestBreak (h : w.Like v) : w.requestBreak.Like v.requestBreak := by
  refine ⟨h.sentenceOpen, h.completing, h.isEmpty, h.lineStart, ?_, ?_, h.inLink, h.sawImage⟩
  · simp only [Writer.requestBreak, h.isEmpty, h.breaks]
  · intro hline
    -- a request takes no break back, so `w` is within a line already
    have hle : w.breaks ≤ w.requestBreak.breaks := by
      unfold Writer.requestBreak
      dsimp only
      split <;> omega
    have hw : w.atLineStart = false := by
      simp only [Writer.atLineStart, Bool.or_eq_false_iff, decide_eq_false_iff_not] at hline ⊢
      exact ⟨by omega, hline.2⟩
    exact ⟨(h.spacing hw).1, rfl⟩

theorem requestParagraph (h : w.Like v) : w.requestParagraph.Like v.requestParagraph :=
  h.requestBreak.requestBreak

theorem keepApart (h : w.Like v) : w.keepApart.Like v.keepApart :=
  ⟨h.sentenceOpen, h.completing, h.isEmpty, h.lineStart, h.breaks,
    fun hline => ⟨(h.spacing hline).1, rfl⟩, h.inLink, h.sawImage⟩

/-- Flags may be set in both states. -/
theorem flags (h : w.Like v) (inLink sawImage : Bool) :
    ({ w with inLink, sawImage } : Writer).Like { v with inLink, sawImage } :=
  ⟨h.sentenceOpen, h.completing, h.isEmpty, h.lineStart, h.breaks, h.spacing, rfl, rfl⟩

theorem completing_set (h : w.Like v) (completing : Bool) :
    ({ w with completing } : Writer).Like { v with completing } :=
  ⟨h.sentenceOpen, fun _ => rfl, h.isEmpty, h.lineStart, h.breaks, h.spacing, h.inLink, h.sawImage⟩

/-- A break that is counted without a limit. -/
theorem addBreak (h : w.Like v) :
    ({ w with breaks := w.breaks + 1 } : Writer).Like { v with breaks := v.breaks + 1 } :=
  ⟨h.sentenceOpen, h.completing, h.isEmpty, h.lineStart, by simp [h.breaks],
    fun hline => by simp [Writer.atLineStart] at hline, h.inLink, h.sawImage⟩

end Writer.Like

/-- After a word only the flags can differ. -/
theorem like_write_snd (ht : t ≠ []) (hl : w.inLink = v.inLink) (hi : w.sawImage = v.sawImage) :
    (write t w).2.Like (write t v).2 := by
  rw [write_snd ht, write_snd ht]
  exact ⟨rfl, fun hc => by simp at hc, rfl, rfl, rfl, fun _ => ⟨rfl, rfl⟩, hl, hi⟩

theorem like_write (h : w.Like v) (t : List Char) :
    (Step.wrote (write t w)).Like (Step.wrote (write t v)) := by
  by_cases ht : t = []
  · rw [ht, write_nil, write_nil]
    exact ⟨rfl, h⟩
  · exact ⟨write_fst_congr h.sentenceOpen h.completing h.gapBefore t,
      like_write_snd ht h.inLink h.sawImage⟩

theorem like_writeCode (h : w.Like v) (ls : List (List Char)) :
    (Step.wrote (writeCode ls w)).Like (Step.wrote (writeCode ls v)) := by
  induction ls generalizing w v with
  | nil => exact ⟨rfl, h⟩
  | cons l rest ih =>
    by_cases hl : l = []
    · rw [hl, writeCode_nil_cons, writeCode_nil_cons]
      exact ih h.addBreak
    · have hword := like_write h (indent ++ l)
      have hrest := ih hword.writer.addBreak
      rw [writeCode_cons hl, writeCode_cons hl]
      exact ⟨congrArg₂ (· ++ ·) hword.tokens hrest.tokens, hrest.writer⟩

/-! ## Blind programs -/

/-- A program that never fails, makes moves only, and cannot tell states apart that are alike. -/
structure Blind (f : Writer → Step) : Prop where
  ok : ∀ w, (f w).failure = none
  runs : ∀ w, Runs (fun _ => True) w (f w).tokens (f w).writer
  like : ∀ w v, w.Like v → (f w).Like (f v)

variable {f g : Writer → Step}

theorem Blind.andThen (hf : Blind f) (hg : Blind g) : Blind fun w => (f w).andThen g := by
  constructor
  · intro w
    rw [Step.failure_andThen, hf.ok, hg.ok, Option.none_or]
  · intro w
    rw [Step.andThen_of_ok (hf.ok w)]
    exact (hf.runs w).trans (hg.runs _)
  · intro w v h
    rw [Step.andThen_of_ok (hf.ok w), Step.andThen_of_ok (hf.ok v)]
    have h₁ := hf.like w v h
    have h₂ := hg.like _ _ h₁.writer
    exact ⟨congrArg₂ (· ++ ·) h₁.tokens h₂.tokens, h₂.writer⟩

/-- A program that writes nothing is blind if the change it makes is. -/
theorem blind_of_silent (ok : ∀ w, (f w).failure = none) (silent : ∀ w, (f w).tokens = [])
    (runs : ∀ w, Runs (fun _ => True) w [] (f w).writer)
    (like : ∀ w v, w.Like v → (f w).writer.Like (f v).writer) : Blind f := by
  refine ⟨ok, fun w => ?_, fun w v h => ⟨?_, like w v h⟩⟩
  · rw [silent]
    exact runs w
  · rw [silent, silent]

theorem blind_pure : Blind Step.pure :=
  blind_of_silent (fun _ => rfl) (fun _ => rfl) (fun _ => .stay) fun _ _ h => h

theorem blind_drop (kind : String) : Blind (Step.drop kind) :=
  blind_of_silent (fun _ => rfl) (fun _ => rfl) (fun _ => .stay) fun _ _ h => h

theorem blind_requestBreak : Blind fun w => .pure w.requestBreak :=
  blind_of_silent (fun _ => rfl) (fun _ => rfl) (fun _ => .requestBreak)
    fun _ _ h => h.requestBreak

theorem blind_requestParagraph : Blind fun w => .pure w.requestParagraph :=
  blind_of_silent (fun _ => rfl) (fun _ => rfl) (fun _ => .requestParagraph)
    fun _ _ h => h.requestParagraph

theorem blind_keepApart : Blind fun w => .pure w.keepApart :=
  blind_of_silent (fun _ => rfl) (fun _ => rfl) (fun _ => .keepApart) fun _ _ h => h.keepApart

/-- Writing a word that states that are alike agree upon is blind. -/
theorem blind_write {word : Writer → List Char} (h : ∀ w v, w.Like v → word w = word v) :
    Blind fun w => .wrote (write (word w) w) := by
  refine ⟨fun _ => rfl, fun _ => .write trivial, fun w v hwv => ?_⟩
  rw [h w v hwv]
  exact like_write hwv _

/-! ## The first token -/

/-- Two states before the first token that differ in whether the sentence is open. -/
structure Writer.Fresh (w v : Writer) : Prop where
  sound_left : w.Sound
  sound_right : v.Sound
  last_left : w.last = []
  last_right : v.last = []
  sentence_left : w.sentenceOpen = true
  sentence_right : v.sentenceOpen = false
  inLink : w.inLink = v.inLink
  sawImage : w.sawImage = v.sawImage

/-- The first token of a comment as it is written while the sentence is open. -/
def opened (completing : Bool) (k : Token) : List Token :=
  if completing then [k] else [⟨.space, ['.']⟩, ⟨.breaks maxBreaks, k.text⟩]

/-- How two steps from a fresh pair compare: either wrote nothing, or they wrote the same but for
the first token. -/
inductive Step.Opens (completing : Bool) (s t : Step) : Prop
  | silent (hs : s.tokens = []) (ht : t.tokens = []) (h : s.writer.Fresh t.writer)
  | spoken {k r} (hs : s.tokens = opened completing k ++ r) (ht : t.tokens = k :: r)
      (h : s.writer.Like t.writer)

/-- A program that opens a comment well. -/
def Opens (f : Writer → Step) : Prop :=
  ∀ w v, w.Fresh v → (f w).Opens w.completing (f v)

theorem Writer.Fresh.resting_left (h : w.Fresh v) : w.Resting :=
  ⟨h.sound_left, fun hl => absurd h.last_left hl⟩

theorem Writer.Fresh.resting_right (h : w.Fresh v) : v.Resting :=
  ⟨h.sound_right, fun hl => absurd h.last_right hl⟩

/-- A fresh pair stays one through moves that write nothing and set the same flags. -/
theorem Writer.Fresh.runs {w' v' : Writer} (h : w.Fresh v) (hw : Runs (fun _ => True) w [] w')
    (hv : Runs (fun _ => True) v [] v') (hl : w'.inLink = v'.inLink)
    (hi : w'.sawImage = v'.sawImage) : w'.Fresh v' := by
  have hwl : w'.last = [] := hw.last_eq_nil.2 ⟨h.last_left, rfl⟩
  have hvl : v'.last = [] := hv.last_eq_nil.2 ⟨h.last_right, rfl⟩
  refine ⟨hw.sound h.sound_left, hv.sound h.sound_right, hwl, hvl, ?_, ?_, hl, hi⟩
  · rw [hw.sentenceOpen_eq hwl, h.sentence_left]
  · rw [hv.sentenceOpen_eq hvl, h.sentence_right]

theorem opens_write {word : Writer → List Char} (h : ∀ w v, w.Fresh v → word w = word v) :
    Opens fun w => .wrote (write (word w) w) := by
  intro w v hwv
  dsimp only
  rw [h w v hwv]
  generalize word v = t
  by_cases ht : t = []
  · rw [ht, write_nil, write_nil]
    exact .silent rfl rfl hwv
  · refine .spoken (k := ⟨.space, t⟩) (r := []) ?_ ?_ (like_write_snd ht hwv.inLink hwv.sawImage)
    · have hgap : ∀ t, ({ w with sentenceOpen := false } : Writer).gapBefore t = .space := by
        intro t
        rw [hwv.resting_left.closed.gapBefore]
        simp [Writer.restGap, hwv.last_left]
      rw [Step.tokens_wrote, List.append_nil]
      by_cases hc : w.completing = true
      · rw [write_of_completing ht hwv.sentence_left hc, put, hgap, hc]
        rfl
      · rw [Bool.not_eq_true] at hc
        rw [write_of_open ht hwv.sentence_left hc, hc, closeSentence_snd, closeSentence, put, hgap]
        rfl
    · rw [Step.tokens_wrote, write_of_closed ht hwv.sentence_right, put,
        hwv.resting_right.gapBefore]
      simp [Writer.restGap, hwv.last_right]

/-- A program that writes nothing opens well if it sets the same flags in fresh pairs. -/
theorem opens_of_silent (hf : Blind f) (silent : ∀ w, (f w).tokens = [])
    (inLink : ∀ w v, w.Fresh v → (f w).writer.inLink = (f v).writer.inLink)
    (sawImage : ∀ w v, w.Fresh v → (f w).writer.sawImage = (f v).writer.sawImage) : Opens f := by
  intro w v h
  have hw := hf.runs w
  have hv := hf.runs v
  rw [silent] at hw hv
  exact .silent (silent w) (silent v) (h.runs hw hv (inLink w v h) (sawImage w v h))

theorem Step.Opens.andThen {completing : Bool} {s t : Step} (h : s.Opens completing t)
    (hs : s.failure = none) (ht : t.failure = none)
    (hg : ∀ w v, w.Like v → (g w).Like (g v))
    (hsilent : s.tokens = [] → s.writer.Fresh t.writer →
      (g s.writer).Opens completing (g t.writer)) :
    (s.andThen g).Opens completing (t.andThen g) := by
  rw [Step.andThen_of_ok hs, Step.andThen_of_ok ht]
  cases h with
  | silent hsn htn h =>
    rw [hsn, htn]
    cases hsilent hsn h with
    | silent hs' ht' h' => exact .silent hs' ht' h'
    | spoken hs' ht' h' => exact .spoken hs' ht' h'
  | @spoken k r hsn htn h =>
    -- after the first token the states are alike, so only that token differs
    have hrest := hg _ _ h
    refine .spoken (k := k) (r := r ++ (g t.writer).tokens) ?_ ?_ hrest.writer
    · rw [hsn, hrest.tokens, List.append_assoc]
    · rw [htn, List.cons_append]

/-- Programs that open well can be joined, if the first one keeps a heading's claim. -/
theorem Opens.andThen (hf : Opens f) (hg : Opens g) (hfb : Blind f) (hgb : Blind g)
    (hc : ∀ w, (f w).writer.completing = w.completing) : Opens fun w => (f w).andThen g := by
  intro w v h
  refine (hf w v h).andThen (hfb.ok w) (hfb.ok v) hgb.like fun _ hfresh => ?_
  rw [← hc w]
  exact hg _ _ hfresh

/-- A program that always writes opens well, whatever comes after it does. -/
theorem Opens.andThen_of_writes (hf : Opens f) (hfb : Blind f) (hw : ∀ w, (f w).tokens ≠ [])
    (hg : ∀ w v, w.Like v → (g w).Like (g v)) : Opens fun w => (f w).andThen g := by
  intro w v h
  exact (hf w v h).andThen (hfb.ok w) (hfb.ok v) hg fun hs => absurd hs (hw w)

end PackageDoc.Comment
