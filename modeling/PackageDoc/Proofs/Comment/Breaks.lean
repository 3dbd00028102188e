import PackageDoc.Proofs.Comment.Grammar

/-!
# Blank comment lines

Requests for breaks collapse: between two tokens there is at most one blank comment line. Only the
empty lines of a code block are kept, each as a bare marker of its own, between two lines of the
block that are not empty.

    k.gap.count ≤ maxBreaks, or k is a line of code and its gap is one break more
      than there are empty lines before it in its block                  (collapsed_visitRoot)
    a run of c bare lines is the gap of c + 1 breaks before one token        (exists_gap_of_run)
-/

namespace PackageDoc.Comment

variable {w v : Writer} {t x y : List Char} {n : Node} {ts us vs : List Token} {k : Token}
  {ls : List (List Char)} {c : Nat}

/-! ## Gaps of words -/

/-- The number of line breaks in a gap. -/
def Gap.count : Gap → Nat
  | .breaks count => count
  | _ => 0

theorem count_gapBefore_le (t : List Char) (w : Writer) : (w.gapBefore t).count ≤ w.breaks := by
  unfold Writer.gapBefore
  split
  · exact le_rfl
  · split
    · exact Nat.zero_le _
    · split <;> exact Nat.zero_le _

theorem count_le_of_mem_put (hw : w.breaks ≤ maxBreaks) (hk : k ∈ (put t w).1) :
    k.gap.count ≤ maxBreaks := by
  rw [List.mem_singleton.1 hk]
  exact (count_gapBefore_le t w).trans hw

theorem count_le_of_mem_closeSentence (hw : w.Sound) (hk : k ∈ (closeSentence w).1) :
    k.gap.count ≤ maxBreaks :=
  count_le_of_mem_put hw.closed.breaks_le hk

/-- A word written in a sound state stands below one blank line at most. -/
theorem count_le_of_mem_write (hw : w.Sound) (hk : k ∈ (write t w).1) :
    k.gap.count ≤ maxBreaks := by
  by_cases ht : t = []
  · simp [ht] at hk
  · rcases write_cases ht w with h | ⟨-, -, h⟩
    · rw [h] at hk
      exact count_le_of_mem_put hw.closed.breaks_le hk
    · rw [h, List.mem_append] at hk
      rcases hk with hk | hk
      · exact count_le_of_mem_closeSentence hw hk
      · apply count_le_of_mem_put _ hk
        rw [closeSentence_snd]

/-! ## Gaps of code -/

/-- Once the sentence is closed, a word on a line of its own is one token with all breaks. -/
theorem token_of_write {cs es : List Token} (ht : t ≠ []) (hw : w.sentenceOpen = false)
    (hb : 0 < w.breaks) (h : (write t w).1 = cs ++ k :: es) :
    cs = [] ∧ k = ⟨.breaks w.breaks, t⟩ := by
  have hgap : w.gapBefore t = .breaks w.breaks := by
    unfold Writer.gapBefore
    rw [if_pos hb]
  rw [write_of_closed ht hw, put, hgap] at h
  cases cs with
  | nil =>
    rw [List.nil_append, List.cons.injEq] at h
    exact ⟨rfl, h.1.symm⟩
  | cons => simp at h

/-- A token of lines of code belongs to the first line that is not empty, or it is a further line
and has one break more than there are empty lines between it and the line before it. -/
theorem gap_of_writeCode {cs ds : List Token} (h : (writeCode ls w).1 = cs ++ k :: ds) :
    (∃ c y b es, ls = List.replicate c [] ++ y :: b ∧ y ≠ [] ∧
        (write (indent ++ y) { w with breaks := w.breaks + c }).1 = cs ++ k :: es) ∨
      ∃ a x c y b, ls = a ++ x :: (List.replicate c [] ++ y :: b) ∧ x ≠ [] ∧ y ≠ [] ∧
        cs = (writeCode (a ++ [x]) w).1 ∧ k = ⟨.breaks (c + 1), indent ++ y⟩ := by
  induction ls generalizing w cs with
  | nil => simp [writeCode] at h
  | cons l rest ih =>
    by_cases hl : l = []
    · subst hl
      rw [writeCode_nil_cons] at h
      rcases ih h with ⟨c, y, b, es, rfl, hy, hfirst⟩ | ⟨a, x, c, y, b, rfl, hx, hy, hcs, hk⟩
      · refine .inl ⟨c + 1, y, b, es, rfl, hy, ?_⟩
        rw [← hfirst, Nat.add_assoc, Nat.add_comm 1 c]
      · exact .inr ⟨[] :: a, x, c, y, b, rfl, hx, hy, hcs, hk⟩
    · rw [writeCode_cons hl] at h
      rcases Text.append_eq_append_cons.1 h with ⟨es, hes, -⟩ | ⟨cs', hcs', hrest⟩
      · exact .inl ⟨0, l, rest, es, rfl, hl, hes⟩
      · -- the token comes after this line, which leaves one break
        rcases ih hrest with ⟨c, y, b, es, rfl, hy, hfirst⟩ | ⟨a, x, c, y, b, rfl, hx, hy, hcs, hk⟩
        · rw [write_snd (indent_append_ne_nil l)] at hfirst
          have hpos : 0 < 0 + 1 + c := by omega
          obtain ⟨rfl, rfl⟩ := token_of_write (indent_append_ne_nil y) rfl hpos hfirst
          refine .inr ⟨[], l, c, y, b, rfl, hl, hy, ?_, ?_⟩
          · rw [hcs', List.nil_append, writeCode_cons hl]
            rfl
          · simp only [Token.mk.injEq, and_true, Gap.breaks.injEq]
            omega
        · refine .inr ⟨l :: a, x, c, y, b, rfl, hx, hy, ?_, hk⟩
          rw [hcs', hcs, List.cons_append, writeCode_cons hl]

/-! ## Trees -/

/-- Where a line of code stands among the tokens of a tree, between those before it and those after
it: it is the line `y` of a code block, the last line before it that is not empty is `x`, and there
are `c` empty lines between them. -/
def InCode (n : Node) (x : List Char) (c : Nat) (y : List Char) (us vs : List Token) : Prop :=
  ∃ content language info w a b before after,
    Node.leaf (.codeBlock content language) info ∈ n.nodes ∧
    codeLines content.toList = a ++ x :: (List.replicate c [] ++ y :: b) ∧ x ≠ [] ∧ y ≠ [] ∧
    us ++ ⟨.breaks (c + 1), indent ++ y⟩ :: vs =
      before ++ ((writeCode (codeLines content.toList) w).1 ++ after) ∧
    us = before ++ (writeCode (a ++ [x]) w).1

/-- Tokens that have at most one blank line between them, but for lines of code. -/
def Collapsed (n : Node) (ts : List Token) : Prop :=
  ∀ us k vs, ts = us ++ k :: vs → maxBreaks < k.gap.count →
    ∃ x c y, k = ⟨.breaks (c + 1), indent ++ y⟩ ∧ InCode n x c y us vs

/-- A line of code stays one when there are more tokens around. -/
theorem InCode.around (h : InCode n x c y us vs) (before after : List Token) :
    InCode n x c y (before ++ us) (vs ++ after) := by
  obtain ⟨content, language, info, w, a, b, before', after', hm, hls, hx, hy, hts, hus⟩ := h
  refine ⟨content, language, info, w, a, b, before ++ before', after' ++ after, hm, hls, hx, hy,
    ?_, ?_⟩
  · have hall := congrArg (fun ts => before ++ (ts ++ after)) hts
    simpa using hall
  · rw [hus, List.append_assoc]

theorem collapsed_of_le (h : ∀ k ∈ ts, k.gap.count ≤ maxBreaks) : Collapsed n ts := by
  rintro us k vs rfl hk
  have := h k (by simp)
  omega

theorem Collapsed.append (hts : Collapsed n ts) (hus : Collapsed n us) :
    Collapsed n (ts ++ us) := by
  intro xs k ys h hk
  rcases Text.append_eq_append_cons.1 h with ⟨zs, rfl, rfl⟩ | ⟨zs, rfl, rfl⟩
  · obtain ⟨x, c, y, hy, hin⟩ := hts xs k zs rfl hk
    exact ⟨x, c, y, hy, hin.around [] us⟩
  · obtain ⟨x, c, y, hy, hin⟩ := hus zs k ys rfl hk
    have hin := hin.around ts []
    rw [List.append_nil] at hin
    exact ⟨x, c, y, hy, hin⟩

/-- The first line of a code block stands below one blank line at most. -/
theorem collapsed_writeCode (hls : CodeOf n ls) (hw : w.Sound) :
    Collapsed n (writeCode ls w).1 := by
  obtain ⟨m, hm, hcode⟩ := hls
  cases hcode with
  | @codeBlock content language info =>
    intro us k vs h hk
    rcases gap_of_writeCode h with
      ⟨c, y, b, es, hls, -, hfirst⟩ | ⟨a, x, c, y, b, hls, hx, hy, hus, rfl⟩
    · cases c with
      | zero =>
        have hle : k.gap.count ≤ maxBreaks := by
          apply count_le_of_mem_write (t := indent ++ y) hw
          show k ∈ (write (indent ++ y) { w with breaks := w.breaks + 0 }).1
          rw [hfirst]
          simp
        omega
      | succ c =>
        have hhead := (framed_codeLines content.toList).1
        rw [hls] at hhead
        exact absurd rfl hhead
    · refine ⟨x, c, y, rfl, content, language, info, w, a, b, [], [], hm, hls, hx, hy, ?_, ?_⟩
      · rw [List.nil_append, List.append_nil, h]
      · rw [List.nil_append, hus]

/-- Runs of a tree from sound states write collapsed tokens. -/
theorem closed_collapsed (n : Node) : Closed (WordOf n) (CodeOf n) fun w ts v =>
    Runs (WordOf n) w ts v ∧ (w.Sound → Collapsed n ts) := by
  have hR := closed_runs_of_node n
  have hnil : Collapsed n [] := collapsed_of_le (by simp)
  constructor
  · exact fun w => ⟨hR.stay w, fun _ => hnil⟩
  · exact fun w t h => ⟨hR.write w t h, fun hw =>
      collapsed_of_le fun _ => count_le_of_mem_write hw⟩
  · exact fun w ls h => ⟨hR.writeCode w ls h, collapsed_writeCode h⟩
  · exact fun w h => ⟨hR.close w h, fun hw =>
      collapsed_of_le fun _ => count_le_of_mem_closeSentence hw⟩
  · exact fun w => ⟨hR.requestBreak w, fun _ => hnil⟩
  · exact fun w => ⟨hR.keepApart w, fun _ => hnil⟩
  · exact fun w _ _ _ => ⟨hR.flags w _ _ _, fun _ => hnil⟩
  · rintro u v w ts us ⟨hts, hcts⟩ ⟨hus, hcus⟩
    exact ⟨hts.trans hus, fun hu => (hcts hu).append (hcus (hts.sound hu))⟩

theorem collapsed_visitRoot {o : Options} (h : (visitRoot o n).failure = none) :
    Collapsed n (visitRoot o n).tokens :=
  ((closed_collapsed n).visit o _ h).2 (sound_start _)

/-! ## Runs of one element -/

section
variable {α : Type} {a : α} {as bs xs ys : List α} {j : Nat}

theorem replicate_append_inj (has : as.head? ≠ some a) (hbs : bs.head? ≠ some a)
    (h : List.replicate j a ++ as = List.replicate c a ++ bs) : j = c ∧ as = bs := by
  induction j generalizing c with
  | zero =>
    cases c with
    | zero => exact ⟨rfl, h⟩
    | succ c =>
      have h : as = a :: (List.replicate c a ++ bs) := h
      rw [h] at has
      exact absurd rfl has
  | succ j ih =>
    cases c with
    | zero =>
      have h : a :: (List.replicate j a ++ as) = bs := h
      rw [← h] at hbs
      exact absurd rfl hbs
    | succ c =>
      rw [List.replicate_succ, List.replicate_succ, List.cons_append, List.cons_append,
        List.cons.injEq] at h
      obtain ⟨hj, hab⟩ := ih h.2
      exact ⟨by omega, hab⟩

/-- A full run of an element in a list that begins with a full run of it is that one, or comes
after it. -/
theorem run_cases (has : as.head? ≠ some a) (hxs : xs.getLast? ≠ some a)
    (hys : ys.head? ≠ some a)
    (h : List.replicate j a ++ as = xs ++ (List.replicate c a ++ ys)) :
    (xs = [] ∧ j = c ∧ as = ys) ∨
      ∃ zs, zs ≠ [] ∧ xs = List.replicate j a ++ zs ∧ as = zs ++ (List.replicate c a ++ ys) := by
  by_cases hnil : xs = []
  · subst hnil
    rw [List.nil_append] at h
    exact .inl ⟨rfl, replicate_append_inj has hys h⟩
  · right
    induction j generalizing xs with
    | zero => exact ⟨xs, hnil, rfl, h⟩
    | succ j ih =>
      obtain ⟨b, xs, rfl⟩ := List.exists_cons_of_ne_nil hnil
      rw [List.replicate_succ, List.cons_append, List.cons_append, List.cons.injEq] at h
      obtain ⟨rfl, h⟩ := h
      have hne : xs ≠ [] := by
        rintro rfl
        exact hxs rfl
      rw [List.getLast?_cons_of_ne_nil hne] at hxs
      obtain ⟨zs, hzs, rfl, hrest⟩ := ih hxs h hne
      exact ⟨zs, hzs, rfl, hrest⟩

end

/-! ## Lines -/

/-- A full run of bare markers among the lines of some tokens is the gap before one of them. -/
theorem exists_gap_of_run {rest pre post : List (List Char)} {l : List Char}
    (hts : ∀ t ∈ ts, t.Proper ∧ '\n' ∉ t.text) (hl : '\n' ∉ l) (hbare : ¬ l <+: marker)
    (hrest : marker ∉ rest) (hc : 1 ≤ c) (hpre : pre.getLast? ≠ some marker)
    (hpost : post.head? ≠ some marker)
    (h : Text.splitAt '\n' (l ++ text ts) ++ rest = pre ++ (List.replicate c marker ++ post)) :
    ∃ us k vs, ts = us ++ k :: vs ∧ k.gap = .breaks (c + 1) ∧
      pre = Text.splitAt '\n' (l ++ text us) ∧
      ∃ x, post.head? = some (marker ++ ' ' :: (k.text ++ x)) := by
  -- `l` is the line so far, which is more than a marker
  induction ts generalizing l pre with
  | nil =>
    have hmem : marker ∈ pre ++ (List.replicate c marker ++ post) := by
      apply List.mem_append_right
      apply List.mem_append_left
      exact List.mem_replicate.2 ⟨by omega, rfl⟩
    rw [← h, text_nil, List.append_nil, Text.splitAt_of_not_mem hl, List.singleton_append,
      List.mem_cons] at hmem
    rcases hmem with rfl | hmem
    · exact absurd (List.prefix_refl _) hbare
    · exact absurd hmem hrest
  | cons t ts ih =>
    obtain ⟨ht, hn⟩ := hts t List.mem_cons_self
    have hts : ∀ u ∈ ts, u.Proper ∧ '\n' ∉ u.text := fun u hu => hts u (List.mem_cons_of_mem _ hu)
    have hcases : '\n' ∉ t.gap.chars ∨ ∃ j, t.gap = .breaks (j + 1) := by
      rcases ht.gap_cases with hg | hg | hg
      · exact .inl (by rw [hg]; decide)
      · exact .inl (by rw [hg]; decide)
      · exact .inr hg
    rcases hcases with hgap | ⟨j, hgap⟩
    · -- the token goes on with the line
      have hline : ∀ us, l ++ text (t :: us) = l ++ t.chars ++ text us :=
        fun us => (List.append_assoc _ _ _).symm
      have hl' : '\n' ∉ l ++ t.chars := by
        simp only [Token.chars, List.mem_append, not_or]
        exact ⟨hl, hgap, hn⟩
      have hbare' : ¬ l ++ t.chars <+: marker :=
        fun hp => hbare ((List.prefix_append _ _).trans hp)
      rw [hline] at h
      obtain ⟨us, k, vs, rfl, hk, hpre, hx⟩ := ih hts hl' hbare' hpre h
      exact ⟨t :: us, k, vs, rfl, hk, by rw [hline, hpre], hx⟩
    · -- the token begins a line below `j` bare ones
      have hl' : '\n' ∉ marker ++ ' ' :: t.text := by
        simp [hn, marker]
      have hbare' : ¬ marker ++ ' ' :: t.text <+: marker := by
        intro hp
        have := hp.length_le
        simp [marker] at this
      obtain ⟨x, body, hS, -⟩ := lines_of_text hts hl'
      have hhead : Text.splitAt '\n' (marker ++ ' ' :: t.text ++ text ts) ++ rest =
          (marker ++ ' ' :: t.text ++ x) :: (body ++ rest) := by
        rw [hS]
        rfl
      have hmarked : ((marker ++ ' ' :: t.text ++ x) :: (body ++ rest)).head? ≠ some marker := by
        simp [marker]
      rw [splitAt_text_cons hl hgap, List.cons_append, List.append_assoc, hhead] at h
      cases pre with
      | nil =>
        obtain ⟨c, rfl⟩ := Nat.exists_eq_add_of_le' hc
        rw [List.nil_append, List.replicate_succ, List.cons_append, List.cons.injEq] at h
        exact absurd (h.1 ▸ List.prefix_refl _) hbare
      | cons p pre =>
        rw [List.cons_append, List.cons.injEq] at h
        obtain ⟨rfl, h⟩ := h
        have hpre' : pre.getLast? ≠ some marker := by
          intro hlast
          rw [List.getLast?_cons, hlast] at hpre
          exact hpre rfl
        rcases run_cases hmarked hpre' hpost h with ⟨rfl, rfl, rfl⟩ | ⟨zs, hzs, rfl, hrun⟩
        · refine ⟨[], t, ts, rfl, hgap, ?_, x, by simp⟩
          rw [text_nil, List.append_nil, Text.splitAt_of_not_mem hl]
        · rw [List.getLast?_append_of_ne_nil _ hzs] at hpre'
          rw [← hhead] at hrun
          obtain ⟨us, k, vs, rfl, hk, hzs, hx⟩ := ih hts hl' hbare' hpre' hrun
          exact ⟨t :: us, k, vs, rfl, hk, by rw [splitAt_text_cons hl hgap, hzs], hx⟩

/-! ## Whole documents -/

theorem exists_text_write (ht : t ≠ []) (w : Writer) : ∃ r, text (write t w).1 = r ++ t := by
  have hput : ∀ v, ∃ r, text (put t v).1 = r ++ t :=
    fun v => ⟨(v.gapBefore t).chars, by simp [put, text, Token.chars]⟩
  rcases write_cases ht w with h | ⟨-, -, h⟩
  · rw [h]
    exact hput _
  · obtain ⟨r, hr⟩ := hput (closeSentence w).2
    rw [h, text_append, hr]
    exact ⟨text (closeSentence w).1 ++ r, by rw [List.append_assoc]⟩

/-- What is written of lines of code ends with the last of them. -/
theorem exists_text_writeCode (hx : x ≠ []) (a : List (List Char)) (w : Writer) :
    ∃ r, text (writeCode (a ++ [x]) w).1 = r ++ (indent ++ x) := by
  induction a generalizing w with
  | nil =>
    obtain ⟨r, hr⟩ := exists_text_write (indent_append_ne_nil x) w
    refine ⟨r, ?_⟩
    rw [List.nil_append, writeCode_cons hx, ← hr]
    simp [writeCode]
  | cons l a ih =>
    rw [List.cons_append]
    by_cases hl : l = []
    · rw [hl, writeCode_nil_cons]
      exact ih _
    · rw [writeCode_cons hl]
      obtain ⟨r, hr⟩ := ih
        { (write (indent ++ l) w).2 with breaks := (write (indent ++ l) w).2.breaks + 1 }
      refine ⟨text (write (indent ++ l) w).1 ++ r, ?_⟩
      rw [text_append, hr, List.append_assoc]

/-- The comment line before the empty lines of a code block ends with the line of the block before
them. -/
theorem InCode.exists_last (h : InCode n x c y us vs) (o : Options) :
    ∃ l, (Text.splitAt '\n' (commentText o us)).getLast? = some (l ++ (indent ++ x)) := by
  obtain ⟨content, language, info, w, a, b, before, after, -, hls, hx, -, -, rfl⟩ := h
  have hfeed : '\n' ∉ indent ++ x := by
    intro hn
    rcases List.mem_append.1 hn with hn | hn
    · exact absurd hn (by decide)
    · have hmem : x ∈ codeLines content.toList := by
        rw [hls]
        simp
      exact absurd (isBoundary_of_mem_codeLines hmem hn) (by decide)
  obtain ⟨r, hr⟩ := exists_text_writeCode hx a w
  rw [commentText, text_append, hr, ← List.append_assoc, ← List.append_assoc]
  exact Text.getLast?_splitAt_append hfeed _

/-- **Blank lines collapse.** A token of a rendered tree stands below one blank line at most, but
for lines of code below empty lines of their block. So a full run of two or more bare lines in the
text stands in one code block, between two lines of it that are not empty, and has as many lines as
there are empty ones between these two. -/
theorem bare_runs_of_render {o : Options} {s : String}
    (hfree : ∀ m ∈ n.nodes, ∀ v ∈ m.verbatim, '\n' ∉ v.toList) (h : render o n = .ok s) :
    (∀ us k vs, (visitRoot o n).tokens = us ++ k :: vs → maxBreaks < k.gap.count →
      ∃ x c y, k = ⟨.breaks (c + 1), indent ++ y⟩ ∧ InCode n x c y us vs) ∧
    ('\n' ∉ o.packageName.toList →
      ∀ pre c post, Text.splitAt '\n' s.toList = pre ++ (List.replicate c marker ++ post) → 2 ≤ c →
        pre.getLast? ≠ some marker → post.head? ≠ some marker →
        ∃ x y us vs, (visitRoot o n).tokens = us ++ ⟨.breaks (c + 1), indent ++ y⟩ :: vs ∧
          InCode n x c y us vs ∧ pre = Text.splitAt '\n' (commentText o us) ∧
          (∃ l, pre.getLast? = some (l ++ (indent ++ x))) ∧
          ∃ l, post.head? = some (marker ++ ' ' :: (indent ++ y ++ l))) := by
  have hok := (render_eq_ok_iff.1 h).1
  have hcollapsed := collapsed_visitRoot hok
  refine ⟨hcollapsed, fun hp pre c post hlines hc hpre hpost => ?_⟩
  have hone : ∀ t ∈ (visitRoot o n).tokens, t.Proper ∧ '\n' ∉ t.text :=
    fun t ht => ⟨((runs_visitRoot hok).proper_of_mem ht).1, feed_not_mem_tokens hok hfree t ht⟩
  have hheader : ¬ (header o).toList <+: marker := by
    intro hle
    have := hle.length_le
    simp [toList_header, marker] at this
  have hclause : marker ∉ [("package " ++ o.packageName).toList, []] := by
    simp [marker]
  rw [splitAt_of_render hp h, commentText] at hlines
  obtain ⟨us, k, vs, hts, hk, rfl, l, hl⟩ := exists_gap_of_run hone (feed_not_mem_header hp) hheader
    hclause (by omega) hpre hpost hlines
  have hcount : maxBreaks < k.gap.count := by
    rw [hk]
    show 2 < c + 1
    omega
  obtain ⟨x, d, y, rfl, hin⟩ := hcollapsed us k vs hts hcount
  obtain rfl : d = c := by simpa using hk
  exact ⟨x, y, us, vs, hts, hin, rfl, hin.exists_last o, l, hl⟩

/-- A link, breaks and a badge above code with two empty lines in it. -/
def gappedDocument : Node :=
  .document [.paragraph [.container (.link "u" (some "t")) [.leaf (.code "x") {}] {},
      .leaf (.lineBreak false) {}, .leaf (.lineBreak true) {}],
    .paragraph [.container (.link "v" none) [.leaf (.image "i" "" none) {}] {}],
    .leaf (.codeBlock "\na\n\n \n b\n" none) {}]

def gappedComment : String :=
  "// Package main is the .\n//\n// t x (u)\n//\n//   a\n//\n//\n//    b\npackage main\n"

theorem bare_runs_of_render_gappedDocument :
    (∀ m ∈ gappedDocument.nodes, ∀ v ∈ m.verbatim, '\n' ∉ v.toList) ∧
      render {} gappedDocument = .ok gappedComment ∧
      ∃ x y us vs, InCode gappedDocument x 2 y us vs := by
  have hfree : ∀ m ∈ gappedDocument.nodes, ∀ v ∈ m.verbatim, '\n' ∉ v.toList := by
    decide
  have h : render {} gappedDocument = .ok gappedComment := rfl
  have hlines : Text.splitAt '\n' gappedComment.toList =
      (Text.splitAt '\n' gappedComment.toList).take 5 ++ (List.replicate 2 marker ++
        (Text.splitAt '\n' gappedComment.toList).drop 7) := by
    decide
  obtain ⟨x, y, us, vs, -, hin, -⟩ := (bare_runs_of_render hfree h).2 (by decide) _ 2 _ hlines
    (by decide) (by decide) (by decide)
  exact ⟨hfree, h, x, y, us, vs, hin⟩

end PackageDoc.Comment
