import PackageDoc.Proofs.Comment.Breaks
import PackageDoc.Proofs.Comment.Performance
import PackageDoc.Proofs.Comment.Reach

/-!
# Spaces between words

A request to keep the next token apart is kept until something is written or a break is requested,
so the token that comes next is parted from the text before it: it begins a comment line, or a
space stands between the two. And a space is put in a gap only where it is needed, because neither
side has one.

    after .keepApart, and moves that write nothing and request no break,
      whatever a move writes is parted from what has been written         (parted_of_keepApart)
    a token below a space, but the first one, has no space on either side      (Reaches.spaced)
    both, for running text in a state that can be reached                  (visitEach_spacing)
-/

namespace PackageDoc.Comment

variable {own : List Char → Prop} {P : List Token → Token → Prop} {o : Options} {v w : Writer}
  {before last : List Char} {k : Token} {ts us : List Token} {m : Move} {xs zs : List Move}
  {ns : List Node} {linked : Bool}

/-! ## Tokens after others -/

/-- Each token of a sequence is related to those before it. -/
def Throughout (P : List Token → Token → Prop) (ts : List Token) : Prop :=
  ∀ us k vs, ts = us ++ k :: vs → P us k

theorem throughout_nil : Throughout P [] := by
  intro us k vs h
  simp at h

theorem throughout_singleton (h : P [] k) : Throughout P [k] := by
  intro us l vs hsplit
  rcases List.append_eq_cons_iff.1 hsplit.symm with ⟨rfl, hl⟩ | ⟨_, rfl, hl⟩
  · obtain rfl : l = k := (List.cons.inj hl).1
    exact h
  · simp at hl

theorem throughout_append (h : Throughout P ts) (h' : Throughout (fun xs => P (ts ++ xs)) us) :
    Throughout P (ts ++ us) := by
  intro xs k ys hsplit
  rcases Text.append_eq_append_cons.1 hsplit with ⟨zs, hts, -⟩ | ⟨zs, rfl, hus⟩
  · exact h xs k zs hts
  · exact h' zs k ys hus

/-! ## Spaces that are asked for -/

/-- A token begins a comment line, or a space stands between it and the text before it: in its gap,
at the end of that text, or at the beginning of its word. -/
def Parted (before : List Char) (k : Token) : Prop :=
  0 < k.gap.count ∨ (before ++ k.gap.chars).getLast? = some ' ' ∨ k.text.head? = some ' '

theorem parted_gapBefore (hlast : before.getLast? = w.last.getLast?) (hsoft : w.softSpace = true)
    (t : List Char) : Parted before ⟨w.gapBefore t, t⟩ := by
  have hspace : Parted before ⟨.space, t⟩ :=
    .inr (.inl (List.getLast?_append_of_ne_nil _ (List.cons_ne_nil _ _)))
  unfold Writer.gapBefore
  rw [hsoft, Bool.true_and]
  split
  · next hbreaks => exact .inl hbreaks
  · split
    · exact hspace
    · split
      · exact hspace
      · next hno =>
        rw [Bool.and_eq_true, bne_iff_ne, bne_iff_ne, not_and_or, not_not, not_not] at hno
        rw [Parted, Gap.chars, List.append_nil, hlast]
        exact .inr hno

/-- What a word is written as is parted, if this has been asked for. -/
theorem parted_write (hlast : before.getLast? = w.last.getLast?) (hsoft : w.softSpace = true)
    (t : List Char) : Throughout (fun us => Parted (before ++ text us)) (write t w).1 := by
  have hfirst : ∀ t, Parted (before ++ text [])
      ⟨({ w with sentenceOpen := false } : Writer).gapBefore t, t⟩ := by
    intro t
    rw [text_nil, List.append_nil]
    exact parted_gapBefore (w := { w with sentenceOpen := false }) hlast hsoft t
  by_cases ht : t = []
  · rw [ht, write_nil]
    exact throughout_nil
  · rcases write_cases ht w with h | ⟨-, -, h⟩
    · rw [h]
      exact throughout_singleton (hfirst t)
    · -- the period is parted, and the word itself begins a paragraph
      rw [h]
      refine throughout_append (throughout_singleton (hfirst ['.'])) (throughout_singleton ?_)
      exact .inl (Nat.succ_pos 1)

theorem Move.parted_perform (hlast : before.getLast? = w.last.getLast?)
    (hsoft : w.softSpace = true) (m : Move) :
    Throughout (fun us => Parted (before ++ text us)) (m.perform w).1 := by
  cases m with
  | line => exact parted_write hlast hsoft _
  | word t => exact parted_write hlast hsoft t
  | requestBreak => exact throughout_nil
  | keepApart => exact throughout_nil

/-- Only a break that is requested, or something that is written, meets a request for a space. -/
theorem Move.softSpace_perform (hm : m ≠ .requestBreak) (hsilent : (m.perform w).1 = [])
    (hsoft : w.softSpace = true) : (m.perform w).2.softSpace = true := by
  have hword : ∀ t, (write t w).1 = [] → (write t w).2.softSpace = true := by
    intro t h
    have ht : t = [] := by
      by_contra ht
      exact write_fst_ne_nil ht w h
    rw [ht, write_nil, hsoft]
  cases m with
  | line => exact hword _ hsilent
  | word t => exact hword t hsilent
  | requestBreak => exact absurd rfl hm
  | keepApart => rfl

theorem softSpace_perform (hbreak : .requestBreak ∉ zs) (hsilent : (perform zs w).1 = [])
    (hsoft : w.softSpace = true) : (perform zs w).2.softSpace = true := by
  induction zs generalizing w with
  | nil => exact hsoft
  | cons m zs ih =>
    rw [perform, List.append_eq_nil_iff] at hsilent
    rw [List.mem_cons, not_or] at hbreak
    exact ih hbreak.2 hsilent.2 (Move.softSpace_perform (Ne.symm hbreak.1) hsilent.1 hsoft)

/-- After a request to keep the next token apart, and moves that request no break and write
nothing, whatever is written next is parted from what has been written. -/
theorem parted_of_keepApart (h : Reaches ts w) (hbreak : .requestBreak ∉ zs)
    (hsilent : (perform (xs ++ .keepApart :: zs) w).1 = (perform xs w).1) (m : Move) :
    Throughout (fun us => Parted (text (ts ++ (perform xs w).1 ++ us)))
      (m.perform (perform (xs ++ .keepApart :: zs) w).2).1 := by
  have hreaches := h.trans (runs_perform (xs ++ .keepApart :: zs) w)
  rw [hsilent] at hreaches
  have hsoft : (perform (xs ++ .keepApart :: zs) w).2.softSpace = true := by
    rw [perform_append, perform] at hsilent ⊢
    exact softSpace_perform hbreak (List.append_right_eq_self.1 hsilent) rfl
  intro us k vs hsplit
  rw [text_append]
  exact m.parted_perform hreaches.getLast?_text hsoft us k vs hsplit

/-! ## Spaces that are put in -/

/-- A token with a space before it is the first one, or there is no space on either side. -/
def SpaceNeeded (last : List Char) (us : List Token) (k : Token) : Prop :=
  k.gap = .space → lastWord last us = [] ∨
    (lastWord last us).getLast? ≠ some ' ' ∧ k.text.head? ≠ some ' '

/-- Runs that come one after the other put in spaces as one that starts where the first does. -/
theorem spaceNeeded_append (h : Throughout (SpaceNeeded last) ts)
    (h' : Throughout (SpaceNeeded (lastWord last ts)) us) :
    Throughout (SpaceNeeded last) (ts ++ us) := by
  refine throughout_append h fun xs k ys hsplit hgap => ?_
  rw [lastWord_append]
  exact h' xs k ys hsplit hgap

theorem spaceNeeded_put (hline : w.lineStart = w.last.isEmpty) (t : List Char) :
    Throughout (SpaceNeeded w.last) (put t w).1 := by
  refine throughout_singleton fun hgap => ?_
  change w.gapBefore t = .space at hgap
  change w.last = [] ∨ w.last.getLast? ≠ some ' ' ∧ t.head? ≠ some ' '
  unfold Writer.gapBefore at hgap
  split at hgap
  · simp at hgap
  · split at hgap
    · next hstart =>
      rw [hline, List.isEmpty_iff] at hstart
      exact .inl hstart
    · split at hgap
      · next hneeded =>
        rw [Bool.and_eq_true, Bool.and_eq_true, bne_iff_ne, bne_iff_ne] at hneeded
        exact .inr ⟨hneeded.1.2, hneeded.2⟩
      · simp at hgap

theorem spaceNeeded_closeSentence (hline : w.lineStart = w.last.isEmpty) :
    Throughout (SpaceNeeded w.last) (closeSentence w).1 :=
  spaceNeeded_put (w := { w with sentenceOpen := false }) hline ['.']

theorem spaceNeeded_write (hline : w.lineStart = w.last.isEmpty) (t : List Char) :
    Throughout (SpaceNeeded w.last) (write t w).1 := by
  by_cases ht : t = []
  · rw [ht, write_nil]
    exact throughout_nil
  · rcases write_cases ht w with h | ⟨-, -, h⟩
    · rw [h]
      exact spaceNeeded_put (w := { w with sentenceOpen := false }) hline t
    · rw [h]
      exact spaceNeeded_append (spaceNeeded_closeSentence hline)
        (spaceNeeded_put (w := (closeSentence w).2) rfl t)

theorem lineStart_write (hline : w.lineStart = w.last.isEmpty) (t : List Char) :
    (write t w).2.lineStart = (write t w).2.last.isEmpty := by
  by_cases ht : t = []
  · rw [ht, write_nil, hline]
  · rw [write_snd ht]
    exact (List.isEmpty_eq_false_iff.2 ht).symm

theorem spaceNeeded_writeCode (hline : w.lineStart = w.last.isEmpty) (ls : List (List Char)) :
    Throughout (SpaceNeeded w.last) (writeCode ls w).1 := by
  -- the breaks that lines of code add need not be sound, so only the beginning of the line is kept
  induction ls generalizing w with
  | nil => exact throughout_nil
  | cons l rest ih =>
    by_cases hl : l = []
    · rw [hl, writeCode_nil_cons]
      exact ih hline
    · rw [writeCode_cons hl]
      refine spaceNeeded_append (spaceNeeded_write hline _) ?_
      rw [← last_write]
      exact ih (lineStart_write hline _)

/-- Whatever a run writes, it puts in a space only where it is needed. -/
theorem Runs.spaceNeeded (h : Runs own w ts v) (hw : w.Sound) :
    Throughout (SpaceNeeded w.last) ts := by
  induction h with
  | stay => exact throughout_nil
  | write => exact spaceNeeded_write hw.lineStart _
  | code => exact spaceNeeded_writeCode hw.lineStart _
  | close => exact spaceNeeded_closeSentence hw.lineStart
  | requestBreak => exact throughout_nil
  | keepApart => exact throughout_nil
  | flags => exact throughout_nil
  | trans h₁ _ ih₁ ih₂ =>
    refine spaceNeeded_append (ih₁ hw) ?_
    rw [← h₁.last_eq]
    exact ih₂ (h₁.sound hw)

/-- What has been written so far has a space in a gap only at its beginning, or where neither the
text before the gap ends with a space nor the word after it begins with one. -/
theorem Reaches.spaced (h : Reaches ts w) :
    Throughout (fun us k => k.gap = .space →
      us = [] ∨ (text us).getLast? ≠ some ' ' ∧ k.text.head? ≠ some ' ') ts := by
  obtain ⟨sentenceOpen, hruns⟩ := h
  intro us k vs hsplit hgap
  have hproper : ∀ u ∈ us, u.Proper := by
    intro u hu
    have hmem : u ∈ ts := by
      rw [hsplit]
      exact List.mem_append_left _ hu
    exact (hruns.proper_of_mem hmem).1
  rcases hruns.spaceNeeded (sound_start sentenceOpen) us k vs hsplit hgap with hnil | hneeded
  · exact .inl ((lastWord_eq_nil hproper).1 hnil)
  · refine .inr ?_
    rw [Comment.getLast?_text hproper]
    exact hneeded

/-- **Words are neither glued nor doubly spaced.** Let running text be written in a state that can
be reached, after some tokens. It is written as its moves are performed. Whenever these ask for the
next token to be kept apart, after a text whose last line ends with a space, before a marker, after
a title or before an address, and nothing is written and no break requested from there to some
move, then the tokens of that move are parted from the text before them. And wherever a space
stands in a gap, but before the very first token, there is none on either side of it. -/
theorem visitEach_spacing (h : Reaches ts w) (hns : ∀ n ∈ ns, n.Fits (.inline linked))
    (hok : (visitEach o id ns w).failure = none) :
    let s := visitEach o id ns w
    s.tokens = (perform (movesAll o ns) w).1 ∧
    (∀ xs zs m rest, movesAll o ns = xs ++ .keepApart :: (zs ++ m :: rest) →
      .requestBreak ∉ zs → (perform (xs ++ .keepApart :: zs) w).1 = (perform xs w).1 →
      let next := (m.perform (perform (xs ++ .keepApart :: zs) w).2).1
      (∃ later, s.tokens = (perform xs w).1 ++ next ++ later) ∧
      Throughout (fun us => Parted (text (ts ++ (perform xs w).1 ++ us))) next) ∧
    Throughout (fun us k => k.gap = .space →
      us = [] ∨ (text us).getLast? ≠ some ' ' ∧ k.text.head? ≠ some ' ') (ts ++ s.tokens) := by
  have htokens := (performs_visitEach hns hok).tokens w
  refine ⟨htokens, fun xs zs m rest hmoves hbreak hsilent => ⟨?_, ?_⟩, ?_⟩
  · have hsplit : movesAll o ns = (xs ++ .keepApart :: zs) ++ m :: rest := by
      rw [hmoves, List.append_assoc, List.cons_append]
    rw [htokens, hsplit, perform_append, perform, hsilent, ← List.append_assoc]
    exact ⟨_, rfl⟩
  · exact parted_of_keepApart h hbreak hsilent m
  · rw [htokens]
    exact (h.trans (runs_perform _ w)).spaced

/-- A space before a badge that leaves no trace, a dropped node and a marker; a space at the end of
emphasized text; and a title before a text that begins with a space. -/
def spacedWords : List Node :=
  [.text "a ", .container (.link "b" none) [.leaf (.image "i" "" none) {}] {},
    .leaf (.htmlInline "<br>") {}, .container .emphasis [.text "b "] {},
    .container (.link "u" (some "t")) [.text " c"] {}]

theorem visitEach_spacing_spacedWords :
    let first := visit {} (.text "x ") (.start true)
    let s := visitEach {} id spacedWords first.writer
    Reaches first.tokens first.writer ∧ (∀ n ∈ spacedWords, n.Fits (.inline false)) ∧
      s.failure = none ∧
      text (first.tokens ++ s.tokens) = " .\n//\n// x a *b *t c (u)".toList ∧
      Parted " .\n//\n// x a".toList ⟨.space, ['*']⟩ ∧
      Throughout (fun us k => k.gap = .space →
        us = [] ∨ (text us).getLast? ≠ some ' ' ∧ k.text.head? ≠ some ' ')
        (first.tokens ++ s.tokens) := by
  have hreaches := (reaches_start true).visit (o := {}) (n := .text "x ") rfl
  have himage : ∀ n ∈ [Node.leaf (.image "i" "" none) {}], n.Fits (.inline true) := by
    intro n hn
    rw [List.mem_singleton.1 hn]
    exact .inlineLeaf rfl
  have hfits : ∀ n ∈ spacedWords, n.Fits (.inline false) := by
    simp only [spacedWords, List.forall_mem_cons]
    exact ⟨.inlineLeaf rfl, .link himage, .inlineLeaf rfl,
      .emphasis fun _ hn => Node.fits_of_mem_text "b " hn,
      .link fun _ hn => Node.fits_of_mem_text " c" hn, by simp⟩
  have hok : (visitEach {} id spacedWords (visit {} (.text "x ") (.start true)).writer).failure =
      none := rfl
  obtain ⟨-, hparted, hspaced⟩ := visitEach_spacing hreaches hfits hok
  have hmarker := (hparted [.line "a ".toList] [.keepApart] (.word ['*']) _ rfl (by decide) rfl).2
  refine ⟨hreaches, hfits, hok, rfl, hmarker [] _ [] rfl, hspaced⟩

end PackageDoc.Comment
