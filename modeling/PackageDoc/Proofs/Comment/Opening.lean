import PackageDoc.Proofs.Comment.Concatenation

/-!
# The opening sentence

Silent blocks leave the opening sentence open. The first block that is not silent completes it: a
heading does so with its own words, before any other block a period and a blank line are written.
If there is none, the period is all that is written.

    children all silent                          // Package p is the .
    first other child a heading                  // Package p is the x
    first other child of another kind            // Package p is the .
                                                 //
                                                 // x

In both of the last cases `x` is what the child is written as when it continues the sentence on its
own, and the text of the children after it follows.
-/

namespace PackageDoc.Comment

variable {o : Options} {ns : List Node} {w v : Writer} {k : Token} {r : List Token}

theorem fresh_start : (Writer.start true).Fresh (.start false) :=
  ⟨sound_start _, sound_start _, rfl, rfl, rfl, rfl, rfl, rfl⟩

/-- After silent blocks the comment is as it was at its beginning. -/
theorem fresh_of_silent (h : Blocks ns) (hs : ¬ Writes o ns) :
    (visitEach o id ns (.start true)).writer.Fresh (.start false) := by
  have hblock : Block (Node.silentAll o ns) (visitEach o id ns) := h.block
  have hrun := hblock.runs (.start true)
  have hout := hblock.outside _ (outside_start true)
  rw [Writes, not_not] at hs
  rw [hs] at hrun
  exact fresh_start.runs hrun .stay hout.inLink hout.sawImage

/-- A document of silent blocks closes the sentence itself. -/
theorem tokens_document_of_silent (h : Blocks ns) (hs : ¬ Writes o ns) (info : Info) :
    (visitRoot o (.container .document ns info)).tokens = [⟨.space, ['.']⟩] := by
  have hblock : Block (Node.silentAll o ns) (visitEach o id ns) := h.block
  have hfresh := fresh_of_silent h hs
  have hgap := hfresh.resting_left.closed.gapBefore ['.']
  rw [Writes, not_not] at hs
  rw [visitRoot]
  simp only [visit, Node.isDocument, Step.andThen_of_ok (hblock.ok _), hfresh.sentence_left, hs,
    if_true, Step.tokens_wrote, List.nil_append]
  rw [closeSentence, put, hgap]
  simp [Writer.restGap, hfresh.last_left]

theorem tokens_visitHeading {p q : Bool} {content : Writer → Step} (hc : Fluent false p q content)
    (h : w.Fresh v) (hv : (visitHeading content v).tokens = k :: r) :
    (visitHeading content w).tokens = k :: r := by
  have hfresh : ({ w with completing := true } : Writer).Fresh v.requestParagraph :=
    h.runs .flags .requestParagraph h.inLink h.sawImage
  rw [(visitHeading_of_closed hc h.sentence_right).1] at hv
  rw [(visitHeading_of_open hc h.sentence_left).1]
  cases hc.opens _ _ hfresh with
  | silent _ ht => simp [ht] at hv
  | spoken hs ht =>
    rw [ht] at hv
    rw [hs, ← hv]
    rfl

theorem visit_of_isHeading {c : Node} (hf : c.Fits .block) (hok : c.unsupported? = none)
    (hh : c.isHeading = true) : ∃ p q, Fluent false p q (visitEach o id c.children) ∧
      visit o c = visitHeading (visitEach o id c.children) := by
  cases hf with
  | heading hns =>
    have hc := fluent_visitEach (o := o) fun n hn =>
      behaves_of_fits (hns n hn) (Node.unsupported?_of_mem hok rfl n hn)
    exact ⟨_, _, hc, rfl⟩
  | @dropped kind ns info hd =>
    cases kind with
    | heading => simp [Container.isDropped] at hd
    | _ => simp [Node.isHeading] at hh
  | _ => simp [Node.isHeading] at hh

/-- A block writes the same from a fresh pair of states, but for the period and the blank line that
come before any other block than a heading. -/
theorem tokens_visit_fresh {c : Node} (hf : c.Fits .block) (hok : c.unsupported? = none)
    (h : w.Fresh v) (hw : w.completing = false) (hv : (visit o c v).tokens = k :: r) :
    (visit o c w).tokens = opened c.isHeading k ++ r := by
  by_cases hh : c.isHeading = true
  · obtain ⟨p, q, hc, hvisit⟩ := visit_of_isHeading (o := o) hf hok hh
    rw [hvisit] at hv ⊢
    rw [hh]
    exact tokens_visitHeading hc h hv
  · rw [Bool.not_eq_true] at hh
    have hopens := (behaves_of_fits (o := o) hf hok).2 hh _ _ h
    rw [hw] at hopens
    rw [hh]
    cases hopens with
    | silent _ ht => simp [ht] at hv
    | spoken hs ht =>
      rw [ht, List.cons.injEq] at hv
      obtain ⟨rfl, rfl⟩ := hv
      exact hs

theorem text_opened (k : Token) (r : List Token) :
    String.ofList (text (opened false k ++ r)) =
      " .\n//\n// " ++ String.ofList (k.text ++ text r) := by
  rw [opened, if_neg (by simp), List.cons_append, List.singleton_append, text_cons, text_cons,
    ← String.ofList_append]
  rfl

/-- A block that is not silent writes something on its own, one space after the opening words. -/
theorem exists_tokens_of_not_silent {c : Node} (hf : c.Fits .block) (hok : c.unsupported? = none)
    (hs : c.silent o = false) : ∃ k r, (visit o c (.start false)).tokens = k :: r ∧
      k.text ≠ [] ∧ String.ofList (text (k :: r)) = " " ++ String.ofList (k.text ++ text r) := by
  have hblock : Block (c.silent o) (visit o c) := (behaves_of_fits hf hok).1
  have hne : (visit o c (.start false)).tokens ≠ [] := by
    rw [ne_eq, hblock.tokens _ (outside_start false) (resting_start false), hs]
    simp
  obtain ⟨k, r, hv⟩ := List.exists_cons_of_ne_nil hne
  have hhead : (visit o c (.start false)).tokens.head? = some k := by
    rw [hv]
    rfl
  have hgap : k.gap = .space := (hblock.runs _).gap_of_head (resting_start false) hhead
  have hproper := ((hblock.runs _).proper_of_mem (List.mem_of_mem_head? hhead)).1
  refine ⟨k, r, hv, hproper.text_ne_nil, ?_⟩
  rw [text_cons, hgap, String.ofList_append]
  rfl

/-- What is written for a document whose first child that is not silent is `c`. -/
theorem tokens_document_of_first {pre rest : List Node} {c : Node} (h : Blocks (pre ++ c :: rest))
    (hpre : ¬ Writes o pre) (hv : (visit o c (.start false)).tokens = k :: r) (info : Info) :
    text (visitRoot o (.container .document (pre ++ c :: rest) info)).tokens =
      text (opened c.isHeading k ++ r) ++ (following o rest).toList := by
  obtain ⟨hB, hC⟩ := h.of_append
  have hblock : Block (Node.silentAll o pre) (visitEach o id pre) := hB.block
  have hfirst : Block (c.silent o) (visit o c) :=
    (behaves_of_fits (hC.fits c List.mem_cons_self) (hC.supported c List.mem_cons_self)).1
  have hrest : Blocks rest := (show Blocks ([c] ++ rest) from hC).of_append.2
  have hfresh := fresh_of_silent hB hpre
  have hout := hblock.outside _ (outside_start true)
  rw [Writes, not_not] at hpre
  generalize hw : (visitEach o id pre (.start true)).writer = w at hfresh hout
  have hc := tokens_visit_fresh (hC.fits c List.mem_cons_self) (hC.supported c List.mem_cons_self)
    hfresh hout.completing hv
  have hne : (visit o c w).tokens ≠ [] := by
    rw [hc]
    cases c.isHeading <;> simp [opened]
  have hlast : (visit o c w).writer.last ≠ [] :=
    fun hnil => hne ((hfirst.runs w).last_eq_nil.1 hnil).2
  -- nothing is written before `c`, and after it the comment has begun
  have htokens : (visitEach o id (pre ++ c :: rest) (.start true)).tokens =
      (visit o c w).tokens ++ (visitEach o id rest (visit o c w).writer).tokens := by
    rw [visitEach_append, Step.andThen_of_ok (hblock.ok _), hpre, hw, visitEach_cons, id_eq,
      Step.andThen_of_ok (hfirst.ok w)]
    rfl
  have hwrites : Writes o (pre ++ c :: rest) := by
    rw [Writes, htokens]
    exact List.append_ne_nil_of_left_ne_nil hne _
  rw [tokens_document h hwrites, htokens, text_append, hc,
    ← text_of_begun hrest (hfirst.resting w hfresh.resting_left) (hfirst.outside w hout) hlast,
    String.toList_ofList]

/-- **The opening sentence.** A document of silent children is the period. In any other one the
first child that is not silent completes the sentence. It is written as it is on its own, a heading
directly after the opening words and anything else below the period and a blank line, and what the
children after it add comes next. -/
theorem render_opening {info : Info} {s : String} (hf : ∀ n ∈ ns, n.Fits .block)
    (h : render o (.container .document ns info) = .ok s) :
    ((∀ n ∈ ns, n.silent o = true) → s = header o ++ " ." ++ footer o) ∧
    ∀ pre c rest, ns = pre ++ c :: rest → (∀ n ∈ pre, n.silent o = true) → c.silent o = false →
      ∃ x, x ≠ "" ∧ render o c = .ok (header o ++ " " ++ x ++ footer o) ∧
        (c.isHeading = true →
          String.ofList (text (visitEach o id c.children (.start false)).tokens) = " " ++ x ∧
          s = header o ++ " " ++ x ++ following o rest ++ footer o) ∧
        (c.isHeading = false →
          s = header o ++ " .\n//\n// " ++ x ++ following o rest ++ footer o) := by
  have hB := blocks_of_render hf h
  obtain ⟨-, rfl⟩ := render_eq_ok_iff.1 h
  constructor
  · intro hs
    have hw : ¬ Writes o ns := by
      rw [writes_iff hB, Node.silentAll_iff.2 hs]
      simp
    rw [tokens_document_of_silent hB hw]
    rfl
  · rintro pre c rest rfl hpre hsilent
    have hC := hB.of_append.2
    have hfits := hC.fits c List.mem_cons_self
    have hok := hC.supported c List.mem_cons_self
    have hw : ¬ Writes o pre := by
      rw [writes_iff hB.of_append.1, Node.silentAll_iff.2 hpre]
      simp
    obtain ⟨k, r, hv, hne, htext⟩ := exists_tokens_of_not_silent hfits hok hsilent
    refine ⟨String.ofList (k.text ++ text r), ?_, ?_, fun hh => ⟨?_, ?_⟩, fun hh => ?_⟩
    · obtain ⟨ch, l, hl⟩ := List.exists_cons_of_ne_nil hne
      simp [hl]
    · refine render_eq_ok_iff.2 ⟨?_, ?_⟩
      · rw [visitRoot, failure_visit, hok]
      · rw [visitRoot, hfits.isDocument_eq_false, hv, htext, ← String.append_assoc]
    · obtain ⟨p, q, hc, hvisit⟩ := visit_of_isHeading (o := o) hfits hok hh
      rw [hvisit, (visitHeading_of_closed hc rfl).1] at hv
      rw [← htext, ← hv]
      rfl
    · rw [tokens_document_of_first hB hw hv, String.ofList_append, String.ofList_toList, hh,
        opened, if_pos rfl, List.singleton_append, htext, ← String.append_assoc,
        ← String.append_assoc]
    · rw [tokens_document_of_first hB hw hv, String.ofList_append, String.ofList_toList, hh,
        text_opened, ← String.append_assoc, ← String.append_assoc]

/-- A paragraph with nothing but a badge. -/
def badge : Node :=
  .paragraph [.container (.link "u" none) [.leaf (.image "i" "" none) {}] {}]

/-- A badge, a heading and a paragraph. -/
def badgeBlocks : List Node :=
  [badge, .heading default [.text "a"], .paragraph [.text "b"]]

/-- A heading below a badge completes the sentence. -/
theorem render_opening_badge :
    ∃ x, x ≠ "" ∧ render {} (.document badgeBlocks) =
      .ok (header {} ++ " " ++ x ++ following {} [.paragraph [.text "b"]] ++ footer {}) := by
  have hbadge : badge.Fits .block := by
    refine .paragraph fun n hn => ?_
    rw [List.mem_singleton.1 hn]
    refine .link fun m hm => ?_
    rw [List.mem_singleton.1 hm]
    exact .inlineLeaf rfl
  have hf : ∀ n ∈ badgeBlocks, n.Fits .block := by
    intro n hn
    simp only [badgeBlocks, List.mem_cons, List.not_mem_nil, or_false] at hn
    rcases hn with rfl | rfl | rfl
    · exact hbadge
    · exact .heading fun _ => Node.fits_of_mem_text "a"
    · exact .paragraph fun _ => Node.fits_of_mem_text "b"
  have hrender : render {} (.document badgeBlocks) =
      .ok "// Package main is the a\n//\n// b\npackage main\n" := rfl
  have hsilent : badge.silent {} = true := rfl
  obtain ⟨x, hx, -, hheading, -⟩ := (render_opening hf hrender).2 [badge]
    (.heading default [.text "a"]) [.paragraph [.text "b"]] rfl (by simp [hsilent]) rfl
  rw [hrender, (hheading rfl).2]
  exact ⟨x, hx, rfl⟩

end PackageDoc.Comment
