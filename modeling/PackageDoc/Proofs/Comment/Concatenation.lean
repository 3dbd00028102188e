import PackageDoc.Proofs.Comment.Blocks

/-!
# Blocks one after another

Once a comment has begun, all states between blocks are alike: the next token stands below a blank
line. So what some blocks add to a comment does not depend on what stands before them.

    body (as ++ bs) = body as ++ following bs, if as write something           (render_append)
    following (bs ++ cs) = following bs ++ following cs                        (following_append)
    following bs is empty if bs are silent, or begins with one blank line      (following_cases)
-/

namespace PackageDoc.Comment

variable {o : Options} {ns as bs cs : List Node} {w : Writer}

/-! ## Lists of blocks -/

/-- Blocks that stand where they belong and have a rule each. -/
structure Blocks (ns : List Node) : Prop where
  fits : ∀ n ∈ ns, n.Fits .block
  supported : ∀ n ∈ ns, n.unsupported? = none

theorem Blocks.append (ha : Blocks as) (hb : Blocks bs) : Blocks (as ++ bs) :=
  ⟨List.forall_mem_append.2 ⟨ha.fits, hb.fits⟩,
    List.forall_mem_append.2 ⟨ha.supported, hb.supported⟩⟩

theorem Blocks.of_append (h : Blocks (as ++ bs)) : Blocks as ∧ Blocks bs := by
  obtain ⟨hfa, hfb⟩ := List.forall_mem_append.1 h.fits
  obtain ⟨hsa, hsb⟩ := List.forall_mem_append.1 h.supported
  exact ⟨⟨hfa, hsa⟩, ⟨hfb, hsb⟩⟩

theorem Blocks.block (h : Blocks ns) : Block (Node.silentAll o ns) (visitEach o id ns) :=
  block_visitEach fun n hn => (behaves_of_fits (h.fits n hn) (h.supported n hn)).1

/-- The state below a blank line after the period. -/
def Writer.settled : Writer :=
  (closeSentence (.start true)).2

theorem resting_settled : Writer.settled.Resting := by
  rw [Writer.settled, closeSentence_snd]
  exact ⟨⟨by simp, by simp, by simp, le_rfl⟩, fun _ => rfl⟩

theorem outside_settled : Writer.settled.Outside :=
  ⟨rfl, rfl, rfl⟩

/-- Once something has been written, all states of rest outside headings and links are alike. -/
theorem like_settled (hw : w.Resting) (ho : w.Outside) (hlast : w.last ≠ []) :
    w.Like .settled := by
  have hopen := hw.toSound.sentenceOpen_eq_false hlast
  have hempty : w.last.isEmpty = false := List.isEmpty_eq_false_iff.2 hlast
  refine ⟨hopen, fun h => ?_, hempty, hw.lineStart.trans hempty, hw.breaks_eq hlast, fun h => ?_,
    ho.inLink, ho.sawImage⟩
  · rw [hopen] at h
    contradiction
  · rw [hw.atLineStart] at h
    contradiction

/-- Blocks write the same whatever stands before them. -/
theorem tokens_of_begun (h : Blocks ns) (hw : w.Resting) (ho : w.Outside) (hlast : w.last ≠ []) :
    (visitEach o id ns w).tokens = (visitEach o id ns .settled).tokens :=
  (h.block.like _ _ (like_settled hw ho hlast)).tokens

/-- What blocks add to a comment that has begun. -/
def following (o : Options) (ns : List Node) : String :=
  String.ofList (text (visitEach o id ns .settled).tokens)

theorem text_of_begun (h : Blocks ns) (hw : w.Resting) (ho : w.Outside) (hlast : w.last ≠ []) :
    String.ofList (text (visitEach o id ns w).tokens) = following o ns := by
  rw [following, tokens_of_begun h hw ho hlast]

/-- What lists of blocks add is joined as the lists are. -/
theorem following_append (hb : Blocks bs) (hc : Blocks cs) :
    following o (bs ++ cs) = following o bs ++ following o cs := by
  have hblock : Block (Node.silentAll o bs) (visitEach o id bs) := hb.block
  have hlast : (visitEach o id bs .settled).writer.last ≠ [] := by
    intro h
    have hnil := ((hblock.runs _).last_eq_nil.1 h).1
    simp [Writer.settled, closeSentence_snd] at hnil
  rw [following, visitEach_append, Step.andThen_of_ok (hblock.ok _), text_append,
    String.ofList_append, text_of_begun hc (hblock.resting _ resting_settled)
      (hblock.outside _ outside_settled) hlast]
  rfl

/-- Whether blocks write something at the beginning of a comment. -/
def Writes (o : Options) (ns : List Node) : Prop :=
  (visitEach o id ns (.start true)).tokens ≠ []

theorem writes_iff (h : Blocks ns) : Writes o ns ↔ Node.silentAll o ns = false := by
  rw [Writes, ne_eq, h.block.tokens _ (outside_start true) (resting_start true), Bool.not_eq_true]

/-- Blocks that write anything begin with one blank comment line. -/
theorem following_cases (h : Blocks ns) :
    (¬ Writes o ns ∧ following o ns = "") ∨
      (Writes o ns ∧ ∃ x, x ≠ "" ∧ following o ns = "\n//\n// " ++ x) := by
  have hblock : Block (Node.silentAll o ns) (visitEach o id ns) := h.block
  have htokens := hblock.tokens _ outside_settled resting_settled
  cases hts : (visitEach o id ns .settled).tokens with
  | nil =>
    refine .inl ⟨by rw [writes_iff h, htokens.1 hts]; simp, ?_⟩
    rw [following, hts]
    rfl
  | cons k r =>
    have hhead : (visitEach o id ns .settled).tokens.head? = some k := by rw [hts]; rfl
    have hgap : k.gap = .breaks maxBreaks :=
      (hblock.runs _).gap_of_head resting_settled hhead
    obtain ⟨c, l, hcl⟩ := List.exists_cons_of_ne_nil
      ((hblock.runs _).proper_of_mem (List.mem_of_mem_head? hhead)).1.text_ne_nil
    refine .inr ⟨?_, String.ofList (k.text ++ text r), ?_, ?_⟩
    · rw [writes_iff h, Bool.eq_false_iff, ne_eq, ← htokens, hts]
      simp
    · simp [hcl]
    · rw [following, hts, text_cons, hgap, String.ofList_append]
      rfl

/-! ## Documents -/

/-- Each child of a document that renders has a rule. -/
theorem blocks_of_render {info : Info} {s : String} (hf : ∀ n ∈ ns, n.Fits .block)
    (h : render o (.container .document ns info) = .ok s) : Blocks ns := by
  have hok := (render_eq_ok_iff.1 h).1
  rw [visitRoot, failure_visit] at hok
  exact ⟨hf, Node.unsupported?_of_mem hok rfl⟩

theorem render_document (h : Blocks ns) (info : Info) :
    render o (.container .document ns info) = .ok (header o ++
      String.ofList (text (visitRoot o (.container .document ns info)).tokens) ++ footer o) := by
  refine render_eq_ok_iff.2 ⟨?_, rfl⟩
  rw [visitRoot, failure_visit]
  exact unsupportedAmong?_eq_none.2 h.supported

/-- A document writes what its blocks write, if they write anything. -/
theorem tokens_document (h : Blocks ns) (hw : Writes o ns) (info : Info) :
    (visitRoot o (.container .document ns info)).tokens =
      (visitEach o id ns (.start true)).tokens := by
  have hblock : Block (Node.silentAll o ns) (visitEach o id ns) := h.block
  have hrun := hblock.runs (.start true)
  have hlast : (visitEach o id ns (.start true)).writer.last ≠ [] :=
    fun hnil => hw (hrun.last_eq_nil.1 hnil).2
  have hclosed := (hrun.sound (sound_start true)).sentenceOpen_eq_false hlast
  rw [visitRoot]
  simp only [visit, Node.isDocument, Step.andThen_of_ok (hblock.ok _), hclosed, Step.tokens_pure,
    Bool.false_eq_true, if_false, List.append_nil]

theorem Writes.append (hw : Writes o as) (ha : Blocks as) (bs : List Node) :
    Writes o (as ++ bs) := by
  rw [Writes, visitEach_append, Step.andThen_of_ok (ha.block.ok _)]
  exact List.append_ne_nil_of_left_ne_nil hw _

/-- What stands before some blocks does not matter to what they add. -/
theorem tokens_append (ha : Blocks as) (hb : Blocks bs) (hw : Writes o as) :
    text (visitEach o id (as ++ bs) (.start true)).tokens =
      text (visitEach o id as (.start true)).tokens ++ (following o bs).toList := by
  have hblock : Block (Node.silentAll o as) (visitEach o id as) := ha.block
  have hlast : (visitEach o id as (.start true)).writer.last ≠ [] :=
    fun hnil => hw ((hblock.runs _).last_eq_nil.1 hnil).2
  rw [visitEach_append, Step.andThen_of_ok (hblock.ok _), text_append,
    ← text_of_begun hb (hblock.resting _ (resting_start true))
      (hblock.outside _ (outside_start true)) hlast, String.toList_ofList]

/-- **What blocks add to a comment.** Let some blocks write something. Then whatever they are,
further blocks add the same text to their comment: nothing if they write nothing, and otherwise one
blank comment line and what comes below it. What two lists of blocks add is the one after the
other. -/
theorem render_append {info info' info'' : Info} {a b : String} (hfa : ∀ n ∈ as, n.Fits .block)
    (hfb : ∀ n ∈ bs, n.Fits .block) (hw : Writes o as)
    (ha : render o (.container .document as info) = .ok (header o ++ a ++ footer o))
    (hb : render o (.container .document bs info') = .ok b) :
    render o (.container .document (as ++ bs) info'') =
        .ok (header o ++ a ++ following o bs ++ footer o) ∧
      ((¬ Writes o bs ∧ following o bs = "") ∨
        (Writes o bs ∧ ∃ x, x ≠ "" ∧ following o bs = "\n//\n// " ++ x)) ∧
      ∀ bs₁ bs₂, bs = bs₁ ++ bs₂ → following o bs = following o bs₁ ++ following o bs₂ := by
  have hA := blocks_of_render hfa ha
  have hB := blocks_of_render hfb hb
  refine ⟨?_, following_cases hB, ?_⟩
  · have hbody : a = String.ofList (text (visitEach o id as (.start true)).tokens) := by
      have hsame := (render_eq_ok_iff.1 ha).2
      rw [tokens_document hA hw, String.append_left_inj, String.append_right_inj] at hsame
      exact hsame
    rw [render_document (hA.append hB), tokens_document (hA.append hB) (hw.append hA bs),
      tokens_append hA hB hw, String.ofList_append, String.ofList_toList, ← hbody,
      ← String.append_assoc]
  · rintro bs₁ bs₂ rfl
    exact following_append hB.of_append.1 hB.of_append.2

/-- A paragraph and, below it, a heading. -/
theorem render_append_heading :
    render {} (.document ([.paragraph [.text "a"]] ++ [.heading default [.text "b"]])) = .ok
        (header {} ++ " .\n//\n// a" ++ following {} [.heading default [.text "b"]] ++ footer {}) ∧
      Writes {} [.heading default [.text "b"]] := by
  have hparagraph : ∀ n ∈ [Node.paragraph [.text "a"]], n.Fits .block := by
    intro n hn
    rw [List.mem_singleton.1 hn]
    exact .paragraph fun _ => Node.fits_of_mem_text "a"
  have hheading : ∀ n ∈ [Node.heading default [.text "b"]], n.Fits .block := by
    intro n hn
    rw [List.mem_singleton.1 hn]
    exact .heading fun _ => Node.fits_of_mem_text "b"
  have hfirst : Writes {} [.paragraph [.text "a"]] := by
    rw [Writes]
    decide
  have hwrites : Writes {} [.heading default [.text "b"]] := by
    rw [Writes]
    decide
  have hrender : render {} (.document [.paragraph [.text "a"]]) =
      .ok (header {} ++ " .\n//\n// a" ++ footer {}) := rfl
  have hrest : render {} (.document [.heading default [.text "b"]]) =
      .ok (header {} ++ " b" ++ footer {}) := rfl
  exact ⟨(render_append hparagraph hheading hfirst hrender hrest).1, hwrites⟩

end PackageDoc.Comment
