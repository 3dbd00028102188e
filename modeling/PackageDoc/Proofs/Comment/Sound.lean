import PackageDoc.Proofs.Comment.Run

/-!
# What every run keeps

A state is sound if its fields fit together: the sentence is open only before the first token, a
comment marker stands alone only there, no break is requested before it, and never more than a
blank line. Every run leads from sound states to sound ones, and tells by its tokens whether
anything has been written.

    w.Sound → Runs own w ts v → v.Sound                                     (Runs.sound)
    v.last = [] ↔ w.last = [] ∧ ts = []                                     (Runs.last_eq_nil)
    after the opening words, or below a blank line, the gap before the
      first token of a run is known                                         (Runs.gap_of_head)
-/

namespace PackageDoc.Comment

/-- How the fields of a state fit together whenever no token is being written. -/
structure Writer.Sound (w : Writer) : Prop where
  sentence : w.sentenceOpen = true → w.last = []
  lineStart : w.lineStart = w.last.isEmpty
  breaks_eq_zero : w.last = [] → w.breaks = 0
  breaks_le : w.breaks ≤ maxBreaks

theorem sound_start (sentenceOpen : Bool) : (Writer.start sentenceOpen).Sound :=
  ⟨fun _ => rfl, rfl, fun _ => rfl, Nat.zero_le _⟩

namespace Writer.Sound

variable {w : Writer} {t : List Char}

/-- After the first token the sentence is closed. -/
theorem sentenceOpen_eq_false (hw : w.Sound) (h : w.last ≠ []) : w.sentenceOpen = false := by
  by_contra ho
  rw [Bool.not_eq_false] at ho
  exact h (hw.sentence ho)

theorem closed (hw : w.Sound) : ({ w with sentenceOpen := false } : Writer).Sound :=
  ⟨by simp, hw.lineStart, hw.breaks_eq_zero, hw.breaks_le⟩

theorem flags (hw : w.Sound) (completing inLink sawImage : Bool) :
    ({ w with completing, inLink, sawImage } : Writer).Sound :=
  ⟨hw.sentence, hw.lineStart, hw.breaks_eq_zero, hw.breaks_le⟩

theorem keepApart (hw : w.Sound) : w.keepApart.Sound :=
  ⟨hw.sentence, hw.lineStart, hw.breaks_eq_zero, hw.breaks_le⟩

theorem write (hw : w.Sound) : (write t w).2.Sound := by
  by_cases ht : t = []
  · rw [ht, write_nil]
    exact hw
  · rw [write_snd ht]
    exact ⟨by simp, by simp [ht], by simp [ht], Nat.zero_le _⟩

/-- A request is granted up to a blank line, once something has been written. -/
theorem breaks_requestBreak (hw : w.Sound) (h : w.last ≠ []) :
    w.requestBreak.breaks = min (w.breaks + 1) maxBreaks := by
  have hle := hw.breaks_le
  have hlast : (!w.last.isEmpty) = true := by simpa using h
  simp only [Writer.requestBreak, hlast, Bool.true_and, decide_eq_true_eq]
  split <;> omega

theorem requestBreak (hw : w.Sound) : w.requestBreak.Sound := by
  refine ⟨hw.sentence, hw.lineStart, fun h => ?_, ?_⟩
  · have h : w.last = [] := h
    simp [Writer.requestBreak, h, hw.breaks_eq_zero h]
  · by_cases h : w.last = []
    · simp [Writer.requestBreak, h, hw.breaks_eq_zero h]
    · rw [hw.breaks_requestBreak h]
      exact Nat.min_le_right _ _

theorem requestParagraph (hw : w.Sound) : w.requestParagraph.Sound :=
  hw.requestBreak.requestBreak

/-- A blank line is requested in full, once something has been written. -/
theorem breaks_requestParagraph (hw : w.Sound) (h : w.last ≠ []) :
    w.requestParagraph.breaks = maxBreaks := by
  have h₁ := hw.breaks_requestBreak h
  have h₂ := hw.requestBreak.breaks_requestBreak h
  rw [h₁] at h₂
  simp only [maxBreaks] at *
  exact h₂.trans (by omega)

theorem writeCode {ls : List (List Char)} (hf : Framed ls) (hw : w.Sound) :
    (writeCode ls w).2.Sound := by
  rcases hf.cases with rfl | ⟨_, _, last, -, hlast, -, hne⟩
  · exact hw
  · rw [writeCode_snd hlast hne]
    exact ⟨by simp, by simp [indent], by simp [indent], by simp [maxBreaks]⟩

end Writer.Sound

variable {own : List Char → Prop} {v w : Writer} {ts us : List Token}

/-- Runs keep states sound. -/
theorem Runs.sound (h : Runs own w ts v) (hw : w.Sound) : v.Sound := by
  induction h with
  | stay => exact hw
  | write => exact hw.write
  | code hf => exact hw.writeCode hf
  | close =>
    rw [closeSentence_snd]
    exact ⟨by simp, by simp, by simp, le_rfl⟩
  | requestBreak => exact hw.requestBreak
  | keepApart => exact hw.keepApart
  | flags => exact hw.flags _ _ _
  | trans _ _ ih₁ ih₂ => exact ih₂ (ih₁ hw)

/-- A token of a run has a word, and it is the period, or one of the words allowed. -/
theorem Runs.proper_of_mem (h : Runs own w ts v) {k : Token} (hk : k ∈ ts) :
    k.Proper ∧ (k.text = ['.'] ∨ own k.text) := by
  induction h with
  | stay => simp at hk
  | @write w t ht =>
    obtain ⟨hp, hk⟩ := proper_of_mem_write hk
    exact ⟨hp, hk.imp_right fun he : k.text = t => he ▸ ht⟩
  | @code w ls hf hls =>
    obtain ⟨hp, hk⟩ := proper_of_mem_writeCode hk
    refine ⟨hp, hk.imp_right ?_⟩
    rintro ⟨l, hl, he⟩
    exact he ▸ hls l hl
  | close =>
    obtain ⟨hp, hk⟩ := proper_of_mem_closeSentence hk
    exact ⟨hp, .inl hk⟩
  | requestBreak => simp at hk
  | keepApart => simp at hk
  | flags => simp at hk
  | trans _ _ ih₁ ih₂ =>
    rcases List.mem_append.1 hk with hk | hk
    · exact ih₁ hk
    · exact ih₂ hk

/-- Nothing has been written in the state that a run leaves iff nothing had been before and the run
wrote nothing. -/
theorem Runs.last_eq_nil (h : Runs own w ts v) : v.last = [] ↔ w.last = [] ∧ ts = [] := by
  induction h with
  | stay => simp
  | @write w t h =>
    by_cases ht : t = []
    · simp [ht]
    · simp [write_snd ht, ht, write_fst_ne_nil ht]
  | @code w ls hf h =>
    rcases hf.cases with rfl | ⟨l, rest, last, rfl, hlast, hl, hne⟩
    · simp [writeCode]
    · rw [writeCode_snd hlast hne, writeCode_cons hl]
      refine iff_of_false (indent_append_ne_nil last) fun h => ?_
      exact write_fst_ne_nil (indent_append_ne_nil l) w (List.append_eq_nil_iff.1 h.2).1
  | close =>
    rw [closeSentence_snd]
    simp [closeSentence, put]
  | requestBreak => simp [Writer.requestBreak]
  | keepApart => simp [Writer.keepApart]
  | flags => simp
  | trans _ _ ih₁ ih₂ => rw [ih₂, ih₁, List.append_eq_nil_iff, and_assoc]

/-- As long as nothing is written the sentence stays as it is. -/
theorem Runs.sentenceOpen_eq (h : Runs own w ts v) (hv : v.last = []) :
    v.sentenceOpen = w.sentenceOpen := by
  induction h with
  | stay => rfl
  | @write w t =>
    by_cases ht : t = []
    · simp [ht]
    · simp [write_snd ht, ht] at hv
  | @code w ls hf h =>
    obtain ⟨-, hnil⟩ := (Runs.code hf h).last_eq_nil.1 hv
    rcases hf.cases with rfl | ⟨l, rest, -, rfl, -, hl, -⟩
    · rfl
    · rw [writeCode_cons hl, List.append_eq_nil_iff] at hnil
      exact absurd hnil.1 (write_fst_ne_nil (indent_append_ne_nil l) w)
  | close => simp [closeSentence_snd] at hv
  | requestBreak => rfl
  | keepApart => rfl
  | flags => rfl
  | trans _ h₂ ih₁ ih₂ => exact (ih₂ hv).trans (ih₁ (h₂.last_eq_nil.1 hv).1)

/-! ## States of rest -/

/-- A state is at rest if the next token begins the comment or stands below a blank line. -/
structure Writer.Resting (w : Writer) : Prop extends w.Sound where
  breaks_eq : w.last ≠ [] → w.breaks = maxBreaks

/-- The gap before the next token of a state at rest. -/
def Writer.restGap (w : Writer) : Gap :=
  if w.last = [] then .space else .breaks maxBreaks

theorem resting_start (sentenceOpen : Bool) : (Writer.start sentenceOpen).Resting :=
  ⟨sound_start _, fun h => absurd rfl h⟩

theorem Writer.Sound.resting_requestParagraph (hw : w.Sound) : w.requestParagraph.Resting :=
  ⟨hw.requestParagraph, hw.breaks_requestParagraph⟩

namespace Writer.Resting

theorem closed (hw : w.Resting) : ({ w with sentenceOpen := false } : Writer).Resting :=
  ⟨hw.toSound.closed, hw.breaks_eq⟩

theorem flags (hw : w.Resting) (completing inLink sawImage : Bool) :
    ({ w with completing, inLink, sawImage } : Writer).Resting :=
  ⟨hw.toSound.flags _ _ _, hw.breaks_eq⟩

theorem keepApart (hw : w.Resting) : w.keepApart.Resting :=
  ⟨hw.toSound.keepApart, hw.breaks_eq⟩

theorem requestBreak (hw : w.Resting) : w.requestBreak.Resting := by
  refine ⟨hw.toSound.requestBreak, fun h => ?_⟩
  have hlast : w.last ≠ [] := h
  rw [hw.toSound.breaks_requestBreak hlast, hw.breaks_eq hlast]
  rfl

theorem requestParagraph (hw : w.Resting) : w.requestParagraph.Resting :=
  hw.toSound.resting_requestParagraph

theorem atLineStart (hw : w.Resting) : w.atLineStart = true := by
  unfold Writer.atLineStart
  by_cases h : w.last = []
  · simp [hw.lineStart, h]
  · simp [hw.breaks_eq h, maxBreaks]

theorem gapBefore (hw : w.Resting) (t : List Char) : w.gapBefore t = w.restGap := by
  unfold Writer.gapBefore Writer.restGap
  by_cases h : w.last = []
  · simp [hw.breaks_eq_zero h, hw.lineStart, h]
  · simp [hw.breaks_eq h, h, maxBreaks]

end Writer.Resting

/-- A run that writes nothing leads from rest to rest. -/
theorem Runs.resting (h : Runs own w ts v) (hts : ts = []) (hw : w.Resting) : v.Resting := by
  induction h with
  | stay => exact hw
  | @write w t =>
    by_cases ht : t = []
    · rw [ht, write_nil]
      exact hw
    · exact absurd hts (write_fst_ne_nil ht w)
  | @code w ls hf =>
    rcases hf.cases with rfl | ⟨l, rest, -, rfl, -, hl, -⟩
    · exact hw
    · rw [writeCode_cons hl, List.append_eq_nil_iff] at hts
      exact absurd hts.1 (write_fst_ne_nil (indent_append_ne_nil l) w)
  | close => simp [closeSentence, put] at hts
  | requestBreak => exact hw.requestBreak
  | keepApart => exact hw.keepApart
  | flags => exact hw.flags _ _ _
  | trans _ _ ih₁ ih₂ =>
    rw [List.append_eq_nil_iff] at hts
    exact ih₂ hts.2 (ih₁ hts.1 hw)

theorem gap_of_head_write {t : List Char} (hw : w.Resting) {k : Token}
    (hk : (Comment.write t w).1.head? = some k) : k.gap = w.restGap := by
  by_cases ht : t = []
  · simp [ht] at hk
  · rcases write_cases ht w with h | ⟨-, -, h⟩
    · rw [h] at hk
      obtain rfl : _ = k := by simpa [put] using hk
      exact hw.closed.gapBefore t
    · rw [h] at hk
      obtain rfl : _ = k := by simpa [closeSentence, put] using hk
      exact hw.closed.gapBefore _

/-- The first token after a state of rest has the gap of that state before it. -/
theorem Runs.gap_of_head (h : Runs own w ts v) (hw : w.Resting) {k : Token}
    (hk : ts.head? = some k) : k.gap = w.restGap := by
  induction h with
  | stay => simp at hk
  | write => exact gap_of_head_write hw hk
  | code hf =>
    rcases hf.cases with rfl | ⟨l, rest, -, rfl, -, hl, -⟩
    · simp [writeCode] at hk
    · rw [writeCode_cons hl, List.head?_append_of_ne_nil _ (write_fst_ne_nil
        (indent_append_ne_nil l) _)] at hk
      exact gap_of_head_write hw hk
  | @close w =>
    obtain rfl : _ = k := by simpa [closeSentence, put] using hk
    exact hw.closed.gapBefore _
  | requestBreak => simp at hk
  | keepApart => simp at hk
  | flags => simp at hk
  | @trans u v w ts us h₁ _ ih₁ ih₂ =>
    cases ts with
    | nil =>
      -- a first run that writes nothing keeps whether the comment has begun
      have hgap : v.restGap = u.restGap := by simp [Writer.restGap, h₁.last_eq_nil]
      exact (ih₂ (h₁.resting rfl hw) hk).trans hgap
    | cons t ts => exact ih₁ hw hk

/-! ## Documents -/

/-- At the end of a document the sentence is closed. -/
theorem closed_of_document {o : Options} {n : Node} (hn : n.isDocument = true)
    (h : (visitRoot o n).failure = none) : (visitRoot o n).writer.sentenceOpen = false := by
  cases n with
  | leaf => simp [Node.isDocument] at hn
  | table => simp [Node.isDocument] at hn
  | container kind ns info =>
    cases kind with
    | document =>
      simp only [visitRoot, visit, Step.failure_andThen, Option.or_eq_none_iff] at h ⊢
      rw [Step.andThen_of_ok h.1]
      dsimp only
      split
      · rfl
      · next hc => simpa using hc
    | _ => simp [Node.isDocument] at hn

/-- A document always writes something: if need be, the period. -/
theorem tokens_ne_nil_of_document {o : Options} {n : Node} (hn : n.isDocument = true)
    (h : (visitRoot o n).failure = none) : (visitRoot o n).tokens ≠ [] := by
  intro hnil
  have hrun := runs_visitRoot h
  have hlast : (visitRoot o n).writer.last = [] := hrun.last_eq_nil.2 ⟨rfl, hnil⟩
  have hopen := hrun.sentenceOpen_eq hlast
  rw [closed_of_document hn h, hn] at hopen
  simp [Writer.start] at hopen

end PackageDoc.Comment
