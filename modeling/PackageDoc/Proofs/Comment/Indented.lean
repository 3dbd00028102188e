import PackageDoc.Proofs.Comment.Breaks

/-!
# Indented comment lines

A comment line whose words begin with a blank would be taken for code. A line of text that comes
first on a comment line has lost its leading blanks, and the period, the bullet, asterisks and
addresses begin with none. Inline code and the titles of links are written just as they are.

    w.Sound → k ∈ (writeLines ls w).1 → ¬ k.Indented              (not_indented_of_mem_writeLines)
    a comment line is the opening words with what follows them, a bare marker, or a token below
      breaks with the tokens that go on with its line                                 (line_cases)
    an indented line is a line of a code block, or begins with inline code or the
      title of a link                                                (indented_lines_of_render)

A line of code stands on its comment line alone: a code block leaves the writer at rest.
-/

namespace PackageDoc.Comment

variable {u v w : Writer} {t line : List Char} {n : Node} {kind : Leaf} {ts us vs : List Token}
  {k : Token} {ls : List (List Char)}

/-! ## Indented tokens -/

/-- A word begins with a blank. -/
def BeginsBlank (t : List Char) : Prop :=
  ∃ c r, t = c :: r ∧ Text.isBlank c = true

theorem beginsBlank_iff : BeginsBlank t ↔ t.head?.any Text.isBlank = true := by
  cases t with
  | nil => simp [BeginsBlank]
  | cons c r => simp [BeginsBlank]

instance : Decidable (BeginsBlank t) :=
  decidable_of_iff _ beginsBlank_iff.symm

/-- A token begins a comment line, and begins with a blank itself. -/
structure Token.Indented (k : Token) : Prop where
  below : 0 < k.gap.count
  blank : BeginsBlank k.text

theorem not_beginsBlank_dot : ¬ BeginsBlank ['.'] := by
  decide

/-- Of the words of containers only titles can begin with a blank. -/
theorem Word.exists_title {c : Container} {ns : List Node} {info : Info}
    (h : Word (.container c ns info) t) (hb : BeginsBlank t) :
    ∃ url title, c = .link url (some title) ∧ t = title.toList := by
  rw [beginsBlank_iff] at hb
  cases h with
  | bullet => exact absurd hb (by decide)
  | emphasis => exact absurd hb (by decide)
  | strong => exact absurd hb (by decide)
  | title => exact ⟨_, _, rfl, rfl⟩
  | url => exact absurd hb (by simp; decide)

/-! ## Lines of text -/

/-- Below breaks stands a word that was written at the start of a line, or the period. -/
theorem atLineStart_of_mem_write (hw : w.Sound) (hk : k ∈ (write t w).1)
    (hgap : 0 < k.gap.count) : k.text = ['.'] ∨ (k.text = t ∧ w.atLineStart = true) := by
  by_cases ht : t = []
  · simp [ht] at hk
  · rcases write_cases ht w with h | ⟨hopen, -, h⟩
    · rw [h, put, List.mem_singleton] at hk
      subst hk
      have hle := count_gapBefore_le t { w with sentenceOpen := false }
      have hbreaks : 0 < w.breaks := lt_of_lt_of_le hgap hle
      exact .inr ⟨rfl, by simp [Writer.atLineStart, hbreaks]⟩
    · have hstart : w.atLineStart = true := by
        simp [Writer.atLineStart, hw.lineStart, hw.sentence hopen]
      rw [h, List.mem_append] at hk
      rcases hk with hk | hk
      · exact .inl (proper_of_mem_closeSentence hk).2
      · exact .inr ⟨(proper_of_mem_put ht hk).2, hstart⟩

theorem not_indented_of_mem_line (hw : w.Sound) (hk : k ∈ (write (lineWord line w) w).1) :
    ¬ k.Indented := by
  intro hi
  rcases atLineStart_of_mem_write hw hk hi.below with hdot | ⟨htext, hstart⟩
  · exact not_beginsBlank_dot (hdot ▸ hi.blank)
  · obtain ⟨c, r, hcr, hc⟩ := hi.blank
    rw [htext, lineWord, if_pos hstart] at hcr
    rw [Text.isBlank_head_trimStart hcr] at hc
    contradiction

/-- Lines of text are never indented. -/
theorem not_indented_of_mem_writeLines (hw : w.Sound) (hk : k ∈ (writeLines ls w).1) :
    ¬ k.Indented := by
  induction ls generalizing w with
  | nil => simp [writeLines] at hk
  | cons line rest ih =>
    cases rest with
    | nil =>
      rw [writeLines_singleton] at hk
      exact not_indented_of_mem_line hw hk
    | cons next rest =>
      rw [writeLines_cons_cons, List.mem_append] at hk
      rcases hk with hk | hk
      · exact not_indented_of_mem_line hw hk
      · exact ih hw.write.requestBreak hk

/-! ## Code -/

/-- A token that is not the last of a word is the period before it. -/
theorem text_eq_dot_of_write {k' : Token} {es : List Token}
    (h : (write t w).1 = us ++ k :: k' :: es) : k.text = ['.'] := by
  by_cases ht : t = []
  · simp [ht] at h
  · rcases write_cases ht w with hw | ⟨-, -, hw⟩
    · have hlength := congrArg List.length (hw ▸ h)
      simp only [put, List.length_append, List.length_cons, List.length_nil] at hlength
      omega
    · rw [hw] at h
      cases us with
      | nil =>
        have hk : k ∈ (closeSentence w).1 := by
          rw [closeSentence, put] at h ⊢
          rw [List.mem_singleton]
          exact (List.cons.inj h).1.symm
        exact (proper_of_mem_closeSentence hk).2
      | cons x us =>
        have hlength := congrArg List.length h
        simp only [closeSentence, put, List.length_append, List.length_cons,
          List.length_nil] at hlength
        omega

/-- The token after a line of code begins a line. -/
theorem count_pos_of_writeCode {k' : Token} {es : List Token} (hdot : k.text ≠ ['.'])
    (h : (writeCode ls w).1 = us ++ k :: k' :: es) : 0 < k'.gap.count := by
  have h' : (writeCode ls w).1 = (us ++ [k]) ++ k' :: es := by simpa using h
  rcases gap_of_writeCode h' with ⟨c, y, b, fs, -, -, hfirst⟩ | ⟨a, x, c, y, b, -, -, -, -, hk⟩
  · rw [List.append_assoc] at hfirst
    exact absurd (text_eq_dot_of_write hfirst) hdot
  · rw [hk]
    exact Nat.succ_pos c

/-- A code block that writes something leaves the writer at rest. -/
theorem resting_visitCodeBlock {content : String} {language : Option String} (hw : w.Sound)
    (h : (visitLeaf (.codeBlock content language) w).tokens ≠ []) :
    (visitLeaf (.codeBlock content language) w).writer.Resting ∧
      (visitLeaf (.codeBlock content language) w).writer.last ≠ [] := by
  rw [visitLeaf, Step.tokens_adjust, Step.tokens_wrote] at h
  rw [visitLeaf, Step.writer_adjust, Step.writer_wrote]
  have hf := framed_codeLines content.toList
  rcases hf.cases with hnil | ⟨_, _, last, -, hlast, -, hne⟩
  · rw [hnil] at h
    exact absurd rfl h
  · have hsound := (hw.requestParagraph.writeCode hf).requestBreak
    rw [writeCode_snd hlast hne] at hsound ⊢
    exact ⟨⟨hsound, fun _ => by simp [Writer.requestBreak, indent, maxBreaks]⟩,
      by simp [Writer.requestBreak, indent]⟩

/-! ## Places -/

/-- Where a token stands that a leaf of a tree wrote: among the tokens of that leaf, between those
before it and those after it. -/
def InLeaf (n : Node) (kind : Leaf) (us : List Token) (k : Token) (vs : List Token) : Prop :=
  ∃ info w before xs ys after, Node.leaf kind info ∈ n.nodes ∧
    (visitLeaf kind w).tokens = xs ++ k :: ys ∧ us = before ++ xs ∧ vs = ys ++ after

theorem inLeaf_of_mem {info : Info} (hm : .leaf kind info ∈ n.nodes)
    (h : (visitLeaf kind w).tokens = us ++ k :: vs) : InLeaf n kind us k vs :=
  ⟨info, w, [], us, vs, [], hm, h, rfl, (List.append_nil vs).symm⟩

/-- A token of a leaf stays one when there are more tokens around. -/
theorem InLeaf.around (h : InLeaf n kind us k vs) (before after : List Token) :
    InLeaf n kind (before ++ us) k (vs ++ after) := by
  obtain ⟨info, w, before', xs, ys, after', hm, hts, rfl, rfl⟩ := h
  exact ⟨info, w, before ++ before', xs, ys, after' ++ after, hm, hts, by simp, by simp⟩

/-- What an indented token is, with the tokens before and after it and the state after all: a line
of a code block, after which a line begins, or inline code, or the title of a link. -/
inductive Indents (n : Node) (us : List Token) (k : Token) (vs : List Token) (v : Writer) : Prop
  | codeBlock {content language line} (place : InLeaf n (.codeBlock content language) us k vs)
      (mem : line ∈ codeLines content.toList) (text : k.text = indent ++ line)
      (next : ∀ t, vs.head? = some t → 0 < t.gap.count)
      (rest : vs = [] → v.Resting ∧ v.last ≠ [])
  | code {content} (place : InLeaf n (.code content) us k vs) (text : k.text = content.toList)
  | title {url title ns info} (mem : .container (.link url (some title)) ns info ∈ n.nodes)
      (text : k.text = title.toList)

theorem Indents.before (h : Indents n us k vs v) (before : List Token) :
    Indents n (before ++ us) k vs v := by
  cases h with
  | codeBlock place mem text next rest =>
    have place := place.around before []
    rw [List.append_nil] at place
    exact .codeBlock place mem text next rest
  | code place text =>
    have place := place.around before []
    rw [List.append_nil] at place
    exact .code place text
  | title mem text => exact .title mem text

/-- What is written after a code block begins a line, however long nothing was written. -/
theorem Indents.after {own : List Char → Prop} (h : Indents n us k vs v) (hr : Runs own v ts w) :
    Indents n us k (vs ++ ts) w := by
  cases h with
  | code place text =>
    exact .code (place.around [] ts) text
  | title mem text => exact .title mem text
  | codeBlock place mem text next rest =>
    refine .codeBlock (place.around [] ts) mem text ?_ ?_
    · intro t ht
      cases vs with
      | nil =>
        obtain ⟨hrest, hlast⟩ := rest rfl
        rw [hr.gap_of_head hrest ht, Writer.restGap, if_neg hlast]
        exact Nat.succ_pos 1
      | cons x vs => exact next t ht
    · intro hnil
      rw [List.append_eq_nil_iff] at hnil
      obtain ⟨hrest, hlast⟩ := rest hnil.1
      exact ⟨hr.resting hnil.2 hrest, fun h => hlast (hr.last_eq_nil.1 h).1⟩

/-! ## Trees -/

/-- Every indented token is one of those that a tree may have. -/
def Margined (n : Node) (ts : List Token) (v : Writer) : Prop :=
  ∀ us k vs, ts = us ++ k :: vs → k.Indented → Indents n us k vs v

theorem margined_of_not_indented (h : ∀ k ∈ ts, ¬ k.Indented) : Margined n ts v := by
  rintro us k vs rfl hk
  exact absurd hk (h k (by simp))

theorem margined_nil : Margined n [] v :=
  margined_of_not_indented (by simp)

theorem Margined.append {own : List Char → Prop} (hts : Margined n ts v)
    (hus : Margined n us w) (hr : Runs own v us w) : Margined n (ts ++ us) w := by
  intro xs k ys h hk
  rcases Text.append_eq_append_cons.1 h with ⟨zs, rfl, rfl⟩ | ⟨zs, rfl, rfl⟩
  · exact (hts xs k zs rfl hk).after hr
  · exact (hus zs k ys rfl hk).before ts

theorem margined_visitLeaf {info : Info} (hm : .leaf kind info ∈ n.nodes) (hw : w.Sound)
    (hok : (visitLeaf kind w).failure = none) :
    Margined n (visitLeaf kind w).tokens (visitLeaf kind w).writer := by
  cases kind with
  | text content =>
    exact margined_of_not_indented fun k hk => not_indented_of_mem_writeLines hw hk
  | code content =>
    intro us k vs h hk
    have hmem : k ∈ (write content.toList w).1 := by
      rw [show (write content.toList w).1 = us ++ k :: vs from h]
      simp
    rcases (proper_of_mem_write hmem).2 with hdot | htext
    · exact absurd (hdot ▸ hk.blank) not_beginsBlank_dot
    · exact .code (inLeaf_of_mem hm h) htext
  | codeBlock content language =>
    intro us k vs h hk
    have hcode : (writeCode (codeLines content.toList) w.requestParagraph).1 = us ++ k :: vs := h
    have hmem : k ∈ (writeCode (codeLines content.toList) w.requestParagraph).1 := by
      rw [hcode]
      simp
    have hdot : k.text ≠ ['.'] := fun hdot => not_beginsBlank_dot (hdot ▸ hk.blank)
    obtain ⟨line, hline, htext⟩ := (proper_of_mem_writeCode hmem).2.resolve_left hdot
    refine .codeBlock (inLeaf_of_mem hm h) hline htext ?_ ?_
    · intro t ht
      obtain ⟨es, rfl⟩ := List.head?_eq_some_iff.1 ht
      exact count_pos_of_writeCode hdot hcode
    · exact fun _ => resting_visitCodeBlock hw (by rw [h]; simp)
  | lineBreak soft => cases soft <;> exact margined_nil
  | image => exact margined_nil
  | thematicBreak => exact margined_nil
  | htmlBlock => exact margined_nil
  | htmlInline => exact margined_nil
  | footnoteReference => exact margined_nil
  | custom => simp [visitLeaf, Step.fail] at hok

/-- The words of the containers of a tree. -/
def ContainerWord (n : Node) (t : List Char) : Prop :=
  ∃ c ns info, Node.container c ns info ∈ n.nodes ∧ Word (.container c ns info) t

theorem margined_write (ht : ContainerWord n t) : Margined n (write t w).1 v := by
  intro us k vs h hk
  have hmem : k ∈ (write t w).1 := by
    rw [h]
    simp
  rcases (proper_of_mem_write hmem).2 with hdot | htext
  · exact absurd (hdot ▸ hk.blank) not_beginsBlank_dot
  · obtain ⟨c, ns, info, hm, hword⟩ := ht
    obtain ⟨url, title, rfl, htitle⟩ := hword.exists_title (htext ▸ hk.blank)
    exact .title hm (htext.trans htitle)

theorem margined_closeSentence : Margined n (closeSentence w).1 v := by
  refine margined_of_not_indented fun k hk hi => not_beginsBlank_dot ?_
  rw [← (proper_of_mem_closeSentence hk).2]
  exact hi.blank

/-- Runs of a tree from sound states have their margins kept. -/
theorem joined_margined (n : Node) : Joined (ContainerWord n) fun w ts v =>
    Runs (WordOf n) w ts v ∧ (w.Sound → Margined n ts v) := by
  have hR := closed_runs_of_node n
  constructor
  · exact fun w => ⟨hR.stay w, fun _ => margined_nil⟩
  · intro w t ht
    have hword : WordOf n t := by
      obtain ⟨c, ns, info, hm, hword⟩ := ht
      exact ⟨_, hm, hword⟩
    exact ⟨hR.write w t hword, fun _ => margined_write ht⟩
  · exact fun w h => ⟨hR.close w h, fun _ => margined_closeSentence⟩
  · exact fun w => ⟨hR.requestBreak w, fun _ => margined_nil⟩
  · exact fun w => ⟨hR.keepApart w, fun _ => margined_nil⟩
  · exact fun w _ _ _ => ⟨hR.flags w _ _ _, fun _ => margined_nil⟩
  · rintro u v w ts us ⟨hts, hmts⟩ ⟨hus, hmus⟩
    exact ⟨hts.trans hus, fun hu => (hmts hu).append (hmus (hts.sound hu)) hus⟩

theorem margined_visitRoot {o : Options} (h : (visitRoot o n).failure = none) :
    Margined n (visitRoot o n).tokens (visitRoot o n).writer := by
  have hvisit := (joined_margined n).visit (n := n)
    (fun c ns info hm t ht => ⟨c, ns, info, hm, ht⟩)
    (fun kind info hm v hok =>
      ⟨(runsFrom_visitLeaf info hok).mono fun t ht => ⟨_, hm, ht⟩,
        fun hv => margined_visitLeaf hm hv hok⟩) o (Writer.start n.isDocument) h
  exact hvisit.2 (sound_start _)

/-! ## Lines -/

/-- Whether a token goes on with the line of the token before it. -/
def Token.goesOn (t : Token) : Bool :=
  t.gap.count == 0

/-- A line of some tokens goes on with the line so far, is a bare marker, or begins with a token
below breaks. -/
theorem line_cases (hts : ∀ t ∈ ts, t.Proper ∧ '\n' ∉ t.text) {l m : List Char} (hl : '\n' ∉ l)
    (hm : m ∈ Text.splitAt '\n' (l ++ text ts)) :
    m = l ++ text (ts.takeWhile Token.goesOn) ∨ m = marker ∨
      ∃ us k vs, ts = us ++ k :: vs ∧ 0 < k.gap.count ∧
        m = marker ++ ' ' :: (k.text ++ text (vs.takeWhile Token.goesOn)) := by
  -- `l` is the line so far; a gap of breaks ends it and begins another
  induction ts generalizing l with
  | nil =>
    rw [text_nil, List.append_nil, Text.splitAt_of_not_mem hl, List.mem_singleton] at hm
    exact .inl (by simp [hm])
  | cons t ts ih =>
    obtain ⟨ht, hn⟩ := hts t List.mem_cons_self
    have hts : ∀ u ∈ ts, u.Proper ∧ '\n' ∉ u.text := fun u hu => hts u (List.mem_cons_of_mem _ hu)
    by_cases hgo : t.goesOn = true
    · have hgap : '\n' ∉ t.gap.chars := by
        rcases ht.gap_cases with hg | hg | ⟨j, hg⟩
        · rw [hg]
          decide
        · rw [hg]
          decide
        · simp [Token.goesOn, hg, Gap.count] at hgo
      have hline : l ++ text (t :: ts) = l ++ t.chars ++ text ts := (List.append_assoc _ _ _).symm
      have hl' : '\n' ∉ l ++ t.chars := by
        simp only [Token.chars, List.mem_append, not_or]
        exact ⟨hl, hgap, hn⟩
      rw [hline] at hm
      rcases ih hts hl' hm with rfl | rfl | ⟨us, k, vs, rfl, hk, rfl⟩
      · left
        rw [List.takeWhile_cons_of_pos hgo, List.append_assoc]
        rfl
      · exact .inr (.inl rfl)
      · exact .inr (.inr ⟨t :: us, k, vs, rfl, hk, rfl⟩)
    · obtain ⟨j, hgap⟩ : ∃ j, t.gap = .breaks (j + 1) := by
        rcases ht.gap_cases with hg | hg | hg
        · simp [Token.goesOn, hg, Gap.count] at hgo
        · simp [Token.goesOn, hg, Gap.count] at hgo
        · exact hg
      have hl' : '\n' ∉ marker ++ ' ' :: t.text := by
        simp [hn, marker]
      have hpos : 0 < t.gap.count := by
        rw [hgap]
        exact Nat.succ_pos j
      rw [splitAt_text_cons hl hgap, List.mem_cons, List.mem_append] at hm
      rcases hm with rfl | hm | hm
      · left
        rw [List.takeWhile_cons_of_neg hgo, text_nil, List.append_nil]
      · exact .inr (.inl (List.eq_of_mem_replicate hm))
      · rcases ih hts hl' hm with rfl | rfl | ⟨us, k, vs, rfl, hk, rfl⟩
        · exact .inr (.inr ⟨[], t, ts, rfl, hpos, by simp⟩)
        · exact .inr (.inl rfl)
        · exact .inr (.inr ⟨t :: us, k, vs, rfl, hk, rfl⟩)

/-! ## Whole documents -/

/-- A line of code is alone on its line: what is written next begins another. -/
theorem takeWhile_goesOn_eq_nil (h : ∀ t, vs.head? = some t → 0 < t.gap.count) :
    vs.takeWhile Token.goesOn = [] := by
  cases vs with
  | nil => rfl
  | cons t vs =>
    have hpos := h t rfl
    apply List.takeWhile_cons_of_neg
    simp only [Token.goesOn, beq_iff_eq]
    omega

/-- A comment line that is indented: a blank follows the marker and its space. -/
def IsIndented (l : List Char) : Prop :=
  ∃ c r, l = marker ++ ' ' :: c :: r ∧ Text.isBlank c = true

/-- An indented line of a rendered text is the line that an indented token begins. -/
theorem exists_token_of_isIndented {o : Options} {s : String} (hp : '\n' ∉ o.packageName.toList)
    (hfree : ∀ m ∈ n.nodes, ∀ v ∈ m.verbatim, '\n' ∉ v.toList) (h : render o n = .ok s)
    {l : List Char} (hl : l ∈ Text.splitAt '\n' s.toList) (hi : IsIndented l) :
    ∃ us k vs, (visitRoot o n).tokens = us ++ k :: vs ∧ k.Indented ∧
      l = marker ++ ' ' :: (k.text ++ text (vs.takeWhile Token.goesOn)) := by
  have hok := (render_eq_ok_iff.1 h).1
  have hone : ∀ t ∈ (visitRoot o n).tokens, t.Proper ∧ '\n' ∉ t.text :=
    fun t ht => ⟨((runs_visitRoot hok).proper_of_mem ht).1, feed_not_mem_tokens hok hfree t ht⟩
  obtain ⟨c, r, hcr, hc⟩ := hi
  rw [splitAt_of_render hp h, commentText, List.mem_append] at hl
  rcases hl with hl | hl
  · rcases line_cases hone (feed_not_mem_header hp) hl with rfl | rfl | ⟨us, k, vs, hts, hk, rfl⟩
    · -- the opening words begin with a letter
      rw [toList_header, List.append_assoc] at hcr
      have hhead := List.append_cancel_left hcr
      obtain ⟨rfl, -⟩ := List.cons.inj (List.cons.inj hhead).2
      exact absurd hc (by decide)
    · simp [marker] at hcr
    · have hproper := (hone k (by rw [hts]; simp)).1
      obtain ⟨b, x, hbx⟩ := List.exists_cons_of_ne_nil hproper.text_ne_nil
      have hhead := (List.cons.inj (List.append_cancel_left hcr)).2
      rw [hbx, List.cons_append] at hhead
      obtain ⟨rfl, -⟩ := List.cons.inj hhead
      exact ⟨us, k, vs, hts, ⟨hk, b, x, hbx, hc⟩, rfl⟩
  · -- neither the clause nor the empty line after it begins with a marker
    rcases List.mem_pair.1 hl with rfl | rfl <;> simp [marker] at hcr

/-- **Indented comment lines.** An indented line of a rendered text begins with a token of the tree:
it is a line of a code block and nothing else, or it begins with inline code, or with the title of
a link. So if neither inline code nor a title begins with a blank, only code is indented. -/
theorem indented_lines_of_render {o : Options} {s : String} (hp : '\n' ∉ o.packageName.toList)
    (hfree : ∀ m ∈ n.nodes, ∀ v ∈ m.verbatim, '\n' ∉ v.toList) (h : render o n = .ok s) :
    (∀ l ∈ Text.splitAt '\n' s.toList, IsIndented l →
      ∃ us k vs, (visitRoot o n).tokens = us ++ k :: vs ∧ k.Indented ∧
        ((∃ content language line, InLeaf n (.codeBlock content language) us k vs ∧
            line ∈ codeLines content.toList ∧ l = marker ++ ' ' :: (indent ++ line)) ∨
          (∃ content r, InLeaf n (.code content) us k vs ∧ k.text = content.toList ∧
            l = marker ++ ' ' :: (content.toList ++ r)) ∨
          ∃ url title ns info r, Node.container (.link url (some title)) ns info ∈ n.nodes ∧
            k.text = title.toList ∧ l = marker ++ ' ' :: (title.toList ++ r))) ∧
    ((∀ content info, Node.leaf (.code content) info ∈ n.nodes → ¬ BeginsBlank content.toList) →
      (∀ url title ns info, Node.container (.link url (some title)) ns info ∈ n.nodes →
        ¬ BeginsBlank title.toList) →
      ∀ l ∈ Text.splitAt '\n' s.toList, IsIndented l →
        ∃ content language info line, Node.leaf (.codeBlock content language) info ∈ n.nodes ∧
          line ∈ codeLines content.toList ∧ l = marker ++ ' ' :: (indent ++ line)) := by
  have hok := (render_eq_ok_iff.1 h).1
  have horigin : ∀ l ∈ Text.splitAt '\n' s.toList, IsIndented l →
      ∃ us k vs, (visitRoot o n).tokens = us ++ k :: vs ∧ k.Indented ∧
        l = marker ++ ' ' :: (k.text ++ text (vs.takeWhile Token.goesOn)) ∧
        Indents n us k vs (visitRoot o n).writer := by
    intro l hl hi
    obtain ⟨us, k, vs, hts, hk, hline⟩ := exists_token_of_isIndented hp hfree h hl hi
    exact ⟨us, k, vs, hts, hk, hline, margined_visitRoot hok us k vs hts hk⟩
  constructor
  · intro l hl hi
    obtain ⟨us, k, vs, hts, hk, hline, hindents⟩ := horigin l hl hi
    refine ⟨us, k, vs, hts, hk, ?_⟩
    cases hindents with
    | @codeBlock content language line place mem htext next rest =>
      refine .inl ⟨content, language, line, place, mem, ?_⟩
      rw [hline, takeWhile_goesOn_eq_nil next, htext, text_nil, List.append_nil]
    | @code content place htext => exact .inr (.inl ⟨content, _, place, htext, htext ▸ hline⟩)
    | @title url title ns info mem htext =>
      exact .inr (.inr ⟨url, title, ns, info, _, mem, htext, htext ▸ hline⟩)
  · intro hcode htitle l hl hi
    obtain ⟨us, k, vs, hts, hk, hline, hindents⟩ := horigin l hl hi
    cases hindents with
    | @codeBlock content language line place mem htext next rest =>
      obtain ⟨info, -, -, -, -, -, hm, -⟩ := place
      refine ⟨content, language, info, line, hm, mem, ?_⟩
      rw [hline, takeWhile_goesOn_eq_nil next, htext, text_nil, List.append_nil]
    | @code content place htext =>
      obtain ⟨info, -, -, -, -, -, hm, -⟩ := place
      exact absurd (htext ▸ hk.blank) (hcode content info hm)
    | @title url title ns info mem htext =>
      exact absurd (htext ▸ hk.blank) (htitle url title ns info mem)

/-- Text with leading blanks on every line, a link and a code block whose lines are indented. -/
def shiftedDocument : Node :=
  .document [.paragraph [.text "  a\n \tb ", .container (.link "u" (some "t")) [.text " c"] {}],
    .leaf (.codeBlock "x\n  y" none) {}]

def shiftedComment : String :=
  "// Package main is the .\n//\n// a\n// b t c (u)\n//\n//   x\n//     y\npackage main\n"

theorem indented_lines_of_render_shiftedDocument :
    '\n' ∉ ({} : Options).packageName.toList ∧
    (∀ m ∈ shiftedDocument.nodes, ∀ v ∈ m.verbatim, '\n' ∉ v.toList) ∧
    render {} shiftedDocument = .ok shiftedComment ∧
    ∃ content language info line,
      Node.leaf (.codeBlock content language) info ∈ shiftedDocument.nodes ∧
        line ∈ codeLines content.toList ∧
        "//     y".toList = marker ++ ' ' :: (indent ++ line) := by
  have hp : '\n' ∉ ({} : Options).packageName.toList := by
    decide
  have hfree : ∀ m ∈ shiftedDocument.nodes, ∀ v ∈ m.verbatim, '\n' ∉ v.toList := by
    decide
  have h : render {} shiftedDocument = .ok shiftedComment := rfl
  have hline : "//     y".toList ∈ Text.splitAt '\n' shiftedComment.toList := by
    decide
  have hi : IsIndented "//     y".toList := ⟨' ', "   y".toList, rfl, by decide⟩
  have hblank : ∀ m ∈ shiftedDocument.nodes, ∀ v ∈ m.verbatim, ¬ BeginsBlank v.toList := by
    decide
  refine ⟨hp, hfree, h, (indented_lines_of_render hp hfree h).2 ?_ ?_ _ hline hi⟩
  · exact fun content info hm => hblank _ hm content (by simp [Node.verbatim])
  · exact fun url title ns info hm => hblank _ hm title (by simp [Node.verbatim])

/-- Inline code that begins with a blank. -/
def blankCode : Node :=
  .document [.paragraph [.leaf (.code " x") {}]]

/-- Inline code that comes first in a paragraph is written with the blank it begins with. -/
theorem exists_indented_without_code :
    ¬ ∀ (o : Options) (n : Node) (s : String), n.isDocument = true →
      PackageName.validate o.packageName = .ok o.packageName →
      (∀ m ∈ n.nodes, ∀ v ∈ m.verbatim, '\n' ∉ v.toList) → render o n = .ok s →
      ∀ l ∈ Text.splitAt '\n' s.toList, IsIndented l →
        ∃ content language info line, Node.leaf (.codeBlock content language) info ∈ n.nodes ∧
          line ∈ codeLines content.toList ∧ l = marker ++ ' ' :: (indent ++ line) := by
  intro h
  have hrender : render {} blankCode =
      .ok "// Package main is the .\n//\n//  x\npackage main\n" := rfl
  have hi : IsIndented "//  x".toList := ⟨' ', ['x'], rfl, by decide⟩
  obtain ⟨content, language, info, line, hm, -⟩ :=
    h {} blankCode _ rfl rfl (by decide) hrender "//  x".toList (by decide) hi
  have hnodes : blankCode.nodes =
      [blankCode, .paragraph [.leaf (.code " x") {}], .leaf (.code " x") {}] := rfl
  rw [hnodes] at hm
  simp [blankCode, Node.document, Node.paragraph] at hm

end PackageDoc.Comment
