import Mathlib.Data.List.DropRight
import PackageDoc.Comment.Render
import PackageDoc.Proofs.Lines

/-!
# Writing words and lines

What the primitives of the writer add and the state they leave.

    (write t w).2 depends on t and on the flags of w alone, for t ≠ []            (write_snd)
    codeLines s begins and ends with a line that is not empty                     (framed_codeLines)
    codeLines s = [] iff s is blank                                               (codeLines_eq_nil)
    writing lines of code leaves one break requested                              (writeCode_snd)
-/

namespace PackageDoc.Comment

/-! ## Steps -/

namespace Step

variable (w : Writer) (r : List Token × Writer) (s : Step) (f : Writer → Writer)

@[simp] theorem tokens_pure : (Step.pure w).tokens = [] := rfl

@[simp] theorem writer_pure : (Step.pure w).writer = w := rfl

@[simp] theorem failure_pure : (Step.pure w).failure = none := rfl

@[simp] theorem tokens_wrote : (Step.wrote r).tokens = r.1 := rfl

@[simp] theorem writer_wrote : (Step.wrote r).writer = r.2 := rfl

@[simp] theorem failure_wrote : (Step.wrote r).failure = none := rfl

@[simp] theorem tokens_adjust : (s.adjust f).tokens = s.tokens := rfl

@[simp] theorem writer_adjust : (s.adjust f).writer = f s.writer := rfl

@[simp] theorem failure_adjust : (s.adjust f).failure = s.failure := rfl

theorem andThen_of_ok {s : Step} (h : s.failure = none) (g : Writer → Step) :
    s.andThen g =
      { tokens := s.tokens ++ (g s.writer).tokens
        writer := (g s.writer).writer
        notices := s.notices ++ (g s.writer).notices
        failure := (g s.writer).failure } := by
  simp [andThen, h]

/-- After a step that failed nothing more is done. -/
theorem andThen_of_failure {s : Step} {kind : String} (h : s.failure = some kind)
    (g : Writer → Step) : s.andThen g = s := by
  simp [andThen, h]

/-- Unless it failed, changing the state that a step leaves is a further step. -/
theorem andThen_pure_of_ok {s : Step} (h : s.failure = none) (f : Writer → Writer) :
    (s.andThen fun w => .pure (f w)) = s.adjust f := by
  simp [andThen, h, Step.pure, adjust]

@[simp] theorem pure_andThen (g : Writer → Step) : (Step.pure w).andThen g = g w :=
  andThen_of_ok rfl g

end Step

/-! ## Words -/

theorem text_cons (t : Token) (ts : List Token) :
    text (t :: ts) = t.gap.chars ++ (t.text ++ text ts) := by
  simp [text, Token.chars]

variable {t : List Char} {w : Writer}

theorem write_of_closed (ht : t ≠ []) (h : w.sentenceOpen = false) : write t w = put t w := by
  simp [write, ht, h]

/-- The words of the heading that completes the sentence close it themselves. -/
theorem write_of_completing (ht : t ≠ []) (h : w.sentenceOpen = true)
    (hc : w.completing = true) : write t w = put t { w with sentenceOpen := false } := by
  simp [write, ht, h, hc]

/-- Any other word that comes first has a period before it. -/
theorem write_of_open (ht : t ≠ []) (h : w.sentenceOpen = true) (hc : w.completing = false) :
    write t w =
      ((closeSentence w).1 ++ (put t (closeSentence w).2).1, (put t (closeSentence w).2).2) := by
  simp [write, ht, h, hc, closeSentence]

/-- Writing a word puts it down in a state with the sentence closed, perhaps after the period. -/
theorem write_cases (ht : t ≠ []) (w : Writer) :
    write t w = put t { w with sentenceOpen := false } ∨
      (w.sentenceOpen = true ∧ w.completing = false ∧
        write t w = ((closeSentence w).1 ++ (put t (closeSentence w).2).1,
          (put t (closeSentence w).2).2)) := by
  by_cases h : w.sentenceOpen = true
  · by_cases hc : w.completing = true
    · exact .inl (write_of_completing ht h hc)
    · rw [Bool.not_eq_true] at hc
      exact .inr ⟨h, hc, write_of_open ht h hc⟩
  · rw [Bool.not_eq_true] at h
    refine .inl ((write_of_closed ht h).trans ?_)
    rw [← h]

/-- The layout after a word has been written depends on the word alone. -/
theorem write_snd (ht : t ≠ []) (w : Writer) :
    (write t w).2 = { w with
      sentenceOpen := false, last := t, lineStart := false, breaks := 0, softSpace := false } := by
  rcases write_cases ht w with h | ⟨-, -, h⟩
  · rw [h]
    rfl
  · rw [h]
    rfl

theorem closeSentence_fst_congr {v : Writer} (hgap : w.gapBefore ['.'] = v.gapBefore ['.']) :
    (closeSentence w).1 = (closeSentence v).1 := by
  have hclosed : ({ w with sentenceOpen := false } : Writer).gapBefore ['.'] =
      ({ v with sentenceOpen := false } : Writer).gapBefore ['.'] := hgap
  rw [closeSentence, closeSentence, put, put, hclosed]

/-- What a word adds depends on the sentence and on the gaps before it alone. -/
theorem write_fst_congr {v : Writer} (ho : w.sentenceOpen = v.sentenceOpen)
    (hc : w.sentenceOpen = true → w.completing = v.completing)
    (hgap : ∀ t, w.gapBefore t = v.gapBefore t) (t : List Char) :
    (write t w).1 = (write t v).1 := by
  by_cases ht : t = []
  · rw [ht, write_nil, write_nil]
  · by_cases hw : w.sentenceOpen = true
    · have hv : v.sentenceOpen = true := ho ▸ hw
      by_cases hcw : w.completing = true
      · have hclosed : ({ w with sentenceOpen := false } : Writer).gapBefore t =
            ({ v with sentenceOpen := false } : Writer).gapBefore t := hgap t
        rw [write_of_completing ht hw hcw, write_of_completing ht hv (hc hw ▸ hcw), put, put,
          hclosed]
      · rw [Bool.not_eq_true] at hcw
        rw [write_of_open ht hw hcw, write_of_open ht hv (hc hw ▸ hcw),
          closeSentence_fst_congr (hgap ['.'])]
        rfl
    · rw [Bool.not_eq_true] at hw
      rw [write_of_closed ht hw, write_of_closed ht (ho ▸ hw), put, put, hgap]

theorem closeSentence_snd (w : Writer) :
    (closeSentence w).2 = { w with
      sentenceOpen := false, last := ['.'], lineStart := false, breaks := maxBreaks,
      softSpace := false } :=
  rfl

/-- What every token satisfies: it has a word, and a gap of breaks has at least one. -/
structure Token.Proper (t : Token) : Prop where
  text_ne_nil : t.text ≠ []
  gap_ne : t.gap ≠ .breaks 0

theorem Token.Proper.gap_cases {k : Token} (h : k.Proper) :
    k.gap = .none ∨ k.gap = .space ∨ ∃ j, k.gap = .breaks (j + 1) := by
  cases hg : k.gap with
  | none => exact .inl rfl
  | space => exact .inr (.inl rfl)
  | breaks count =>
    have hne : count ≠ 0 := by
      rintro rfl
      exact h.gap_ne hg
    exact .inr (.inr ⟨count - 1, by rw [Nat.sub_add_cancel (by omega)]⟩)

theorem gapBefore_ne (t : List Char) (w : Writer) : w.gapBefore t ≠ .breaks 0 := by
  unfold Writer.gapBefore
  split
  · next h => simpa using h.ne'
  · split
    · simp
    · split <;> simp

theorem proper_of_mem_put {k : Token} (ht : t ≠ []) (h : k ∈ (put t w).1) :
    k.Proper ∧ k.text = t := by
  rw [List.mem_singleton.1 h]
  exact ⟨⟨ht, gapBefore_ne _ _⟩, rfl⟩

theorem proper_of_mem_closeSentence {k : Token} (h : k ∈ (closeSentence w).1) :
    k.Proper ∧ k.text = ['.'] := by
  rw [List.mem_singleton.1 h]
  exact ⟨⟨by simp, gapBefore_ne _ _⟩, rfl⟩

theorem proper_of_mem_write {k : Token} (h : k ∈ (write t w).1) :
    k.Proper ∧ (k.text = ['.'] ∨ k.text = t) := by
  by_cases ht : t = []
  · simp [ht] at h
  · rcases write_cases ht w with hw | ⟨-, -, hw⟩
    · rw [hw] at h
      exact (proper_of_mem_put ht h).imp_right .inr
    · rw [hw, List.mem_append] at h
      rcases h with h | h
      · exact (proper_of_mem_closeSentence h).imp_right .inl
      · exact (proper_of_mem_put ht h).imp_right .inr

theorem write_fst_ne_nil (ht : t ≠ []) (w : Writer) : (write t w).1 ≠ [] := by
  rcases write_cases ht w with h | ⟨-, -, h⟩ <;> rw [h] <;> simp [put]

/-! ## Lines of text -/

/-- A line without the space it may end with. -/
def unspaced (line : List Char) : List Char :=
  if line.getLast? == some ' ' then line.dropLast else line

/-- What is written for a line of text in a state. -/
def lineWord (line : List Char) (w : Writer) : List Char :=
  if w.atLineStart then Text.trimStart (unspaced line) else unspaced line

theorem writeLines_singleton (line : List Char) (w : Writer) :
    writeLines [line] w =
      ((write (lineWord line w) w).1,
        if line.getLast? == some ' ' then (write (lineWord line w) w).2.keepApart
        else (write (lineWord line w) w).2) := by
  rw [writeLines]
  rfl

theorem writeLines_cons_cons (line next : List Char) (rest : List (List Char)) (w : Writer) :
    writeLines (line :: next :: rest) w =
      ((write (lineWord line w) w).1 ++
        (writeLines (next :: rest) (write (lineWord line w) w).2.requestBreak).1,
        (writeLines (next :: rest) (write (lineWord line w) w).2.requestBreak).2) := by
  rw [writeLines]
  rfl

theorem lineWord_infix_line (line : List Char) (w : Writer) : lineWord line w <:+: line := by
  have h : unspaced line <:+: line := by
    unfold unspaced
    split
    · exact line.dropLast_prefix.isInfix
    · exact List.infix_rfl
  unfold lineWord
  split
  · exact (List.dropWhile_suffix _).isInfix.trans h
  · exact h

/-! ## Lines of code -/

/-- Lines of which neither the first nor the last is empty. -/
def Framed (ls : List (List Char)) : Prop :=
  ls.head? ≠ some [] ∧ ls.getLast? ≠ some []

theorem Framed.cases {ls : List (List Char)} (hf : Framed ls) :
    ls = [] ∨ ∃ l rest last, ls = l :: rest ∧ ls.getLast? = some last ∧ l ≠ [] ∧ last ≠ [] := by
  cases ls with
  | nil => exact .inl rfl
  | cons l rest =>
    obtain ⟨last, hlast⟩ := Option.isSome_iff_exists.1 (show (l :: rest).getLast?.isSome by simp)
    refine .inr ⟨l, rest, last, rfl, hlast, ?_, ?_⟩
    · rintro rfl
      exact hf.1 rfl
    · rintro rfl
      exact hf.2 hlast

theorem codeLines_eq (s : List Char) :
    codeLines s =
      (((Text.bareLines s).map Text.trimEnd).dropWhile List.isEmpty).rdropWhile List.isEmpty :=
  rfl

theorem framed_codeLines (s : List Char) : Framed (codeLines s) := by
  rw [codeLines_eq]
  generalize (Text.bareLines s).map Text.trimEnd = ls
  constructor
  · intro h
    have hhead := List.head?_dropWhile_not List.isEmpty ls
    obtain ⟨r, hr⟩ := List.rdropWhile_prefix List.isEmpty (ls.dropWhile List.isEmpty)
    rw [← hr, List.head?_append, h] at hhead
    simp at hhead
  · intro h
    have hne : (ls.dropWhile List.isEmpty).rdropWhile List.isEmpty ≠ [] := by
      intro he
      simp [he] at h
    have hlast := List.rdropWhile_last_not List.isEmpty (ls.dropWhile List.isEmpty) hne
    rw [List.getLast?_eq_getLast_of_ne_nil hne, Option.some.injEq] at h
    simp [h] at hlast

/-- No line of code holds a line boundary. -/
theorem isBoundary_of_mem_codeLines {s line : List Char} (hl : line ∈ codeLines s) {c : Char}
    (hc : c ∈ line) : Text.isBoundary c = false := by
  rw [codeLines_eq] at hl
  have hmem := (List.dropWhile_suffix _).subset ((List.rdropWhile_prefix _ _).subset hl)
  obtain ⟨bare, hbare, rfl⟩ := List.mem_map.1 hmem
  obtain ⟨l, hline, rfl⟩ := List.mem_map.1 hbare
  refine Text.isBoundary_of_mem_lines hline ?_
  have hc : c ∈ (l.body.reverse.dropWhile Text.isBlank).reverse := hc
  rw [List.mem_reverse] at hc
  exact List.mem_reverse.1 ((List.dropWhile_suffix _).subset hc)

/-- A code block has no lines exactly when it is blank. -/
theorem codeLines_eq_nil {s : List Char} :
    codeLines s = [] ↔ ∀ c ∈ s, Text.isBlank c = true := by
  have hblank : (∀ l ∈ (Text.bareLines s).map Text.trimEnd, l.isEmpty = true) ↔
      ∀ c ∈ s, Text.isBlank c = true := by
    rw [← Text.all_isBlank_bareLines, List.forall_mem_map]
    simp only [List.isEmpty_iff, Text.trimEnd_eq_nil]
  rw [codeLines_eq, List.rdropWhile_eq_nil_iff, ← hblank]
  generalize (Text.bareLines s).map Text.trimEnd = ls
  constructor
  · intro h l hl
    rw [← List.takeWhile_append_dropWhile (p := List.isEmpty) (l := ls)] at hl
    rcases List.mem_append.1 hl with hl | hl
    · exact List.mem_takeWhile_imp hl
    · exact h l hl
  · exact fun h l hl => h l ((List.dropWhile_suffix _).subset hl)

theorem writeCode_nil_cons (rest : List (List Char)) (w : Writer) :
    writeCode ([] :: rest) w = writeCode rest { w with breaks := w.breaks + 1 } :=
  rfl

theorem writeCode_cons {l : List Char} (hl : l ≠ []) (rest : List (List Char)) (w : Writer) :
    writeCode (l :: rest) w =
      let v := (write (indent ++ l) w).2
      ((write (indent ++ l) w).1 ++ (writeCode rest { v with breaks := v.breaks + 1 }).1,
        (writeCode rest { v with breaks := v.breaks + 1 }).2) := by
  rw [writeCode]
  simp [hl]

theorem indent_append_ne_nil (l : List Char) : indent ++ l ≠ [] := by
  simp [indent]

/-- A last line of code that is not empty leaves one break requested, whatever came before it. -/
theorem writeCode_snd {ls : List (List Char)} {line : List Char} (h : ls.getLast? = some line)
    (hne : line ≠ []) (w : Writer) :
    (writeCode ls w).2 = { w with
      sentenceOpen := false, last := indent ++ line, lineStart := false, breaks := 1,
      softSpace := false } := by
  induction ls generalizing w with
  | nil => simp at h
  | cons l rest ih =>
    by_cases hr : rest = []
    · obtain rfl : l = line := by simpa [hr] using h
      rw [hr, writeCode_cons hne, write_snd (indent_append_ne_nil l)]
      rfl
    · have h' : rest.getLast? = some line := by rwa [List.getLast?_cons_of_ne_nil hr] at h
      by_cases hl : l = []
      · rw [hl, writeCode_nil_cons, ih h']
      · rw [writeCode_cons hl, ih h', write_snd (indent_append_ne_nil l)]

theorem proper_of_mem_writeCode {ls : List (List Char)} {w : Writer} {k : Token}
    (h : k ∈ (writeCode ls w).1) :
    k.Proper ∧ (k.text = ['.'] ∨ ∃ line ∈ ls, k.text = indent ++ line) := by
  induction ls generalizing w with
  | nil => simp [writeCode] at h
  | cons l rest ih =>
    have later : ∀ v, k ∈ (writeCode rest v).1 →
        k.Proper ∧ (k.text = ['.'] ∨ ∃ line ∈ l :: rest, k.text = indent ++ line) := by
      intro v hv
      obtain ⟨hp, ht⟩ := ih hv
      exact ⟨hp, ht.imp_right fun ⟨m, hm, ht⟩ => ⟨m, List.mem_cons_of_mem _ hm, ht⟩⟩
    by_cases hl : l = []
    · rw [hl, writeCode_nil_cons] at h
      exact hl ▸ later _ h
    · rw [writeCode_cons hl, List.mem_append] at h
      rcases h with h | h
      · obtain ⟨hp, ht⟩ := proper_of_mem_write h
        exact ⟨hp, ht.imp_right fun ht => ⟨l, List.mem_cons_self, ht⟩⟩
      · exact later _ h

end PackageDoc.Comment
