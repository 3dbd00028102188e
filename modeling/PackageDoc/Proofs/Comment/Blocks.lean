import PackageDoc.Proofs.Comment.Inline

/-!
# Blocks

A block is blind, leaves no flag set, and leads from rest to rest: whatever its kind, at its end
the next token stands below a blank line. Every node that stands where it belongs behaves as its
place asks: blocks as blocks, items as items, running text fluently. All blocks but headings open a
comment well; a heading completes the opening sentence itself.

    n.Fits place → n.unsupported? = none → Behaves o place n                     (behaves_of_fits)
-/

namespace PackageDoc.Comment

/-! ## Programs for blocks -/

/-- The flags as they are outside headings and links. -/
structure Writer.Outside (w : Writer) : Prop where
  completing : w.completing = false
  inLink : w.inLink = false
  sawImage : w.sawImage = false

theorem Writer.Outside.at {w : Writer} (h : w.Outside) : w.At false :=
  ⟨h.inLink, fun _ => h.sawImage⟩

theorem outside_start (sentenceOpen : Bool) : (Writer.start sentenceOpen).Outside :=
  ⟨rfl, rfl, rfl⟩

/-- A blind program that leaves no flag set. -/
structure Steady (f : Writer → Step) : Prop extends Blind f where
  outside : ∀ w, w.Outside → (f w).writer.Outside

/-- A program that leads from rest to rest and is silent or not. -/
structure Block (silent : Bool) (f : Writer → Step) : Prop extends Steady f where
  resting : ∀ w, w.Resting → (f w).writer.Resting
  tokens : ∀ w, w.Outside → w.Resting → ((f w).tokens = [] ↔ silent = true)

/-- A program that always writes and ends its line. -/
structure Item (f : Writer → Step) : Prop extends Steady f where
  opens : Opens f
  tokens : ∀ w, (f w).tokens ≠ []
  breaks : ∀ w, w.Sound → 1 ≤ (f w).writer.breaks

variable {o : Options} {p q q' : Bool} {f g content : Writer → Step}

theorem Steady.andThen (hf : Steady f) (hg : Steady g) : Steady fun w => (f w).andThen g := by
  refine ⟨hf.toBlind.andThen hg.toBlind, fun w hw => ?_⟩
  rw [Step.andThen_of_ok (hf.ok w)]
  exact hg.outside _ (hf.outside w hw)

theorem Fluent.steady (hf : Fluent false p q f) : Steady f := by
  refine ⟨hf.toBlind, fun w hw => ?_⟩
  have hat := hf.at hw.at
  exact ⟨(hf.completing w).trans hw.completing, hat.inLink, hat.sawImage rfl⟩

theorem Fluent.block (hf : Fluent false p q f)
    (resting : ∀ w, w.Resting → (f w).writer.Resting) : Block q f :=
  ⟨hf.steady, resting, fun w hw => hf.tokens w hw.at⟩

theorem Block.andThen (hf : Block q f) (hg : Block q' g) :
    Block (q && q') fun w => (f w).andThen g := by
  refine ⟨hf.toSteady.andThen hg.toSteady, fun w hw => ?_, fun w hw hrest => ?_⟩
  · rw [Step.andThen_of_ok (hf.ok w)]
    exact hg.resting _ (hf.resting w hw)
  · rw [Step.andThen_of_ok (hf.ok w), List.append_eq_nil_iff, Bool.and_eq_true,
      hf.tokens w hw hrest, hg.tokens _ (hf.outside w hw) (hf.resting w hrest)]

theorem block_visitEach {ns : List Node} (h : ∀ n ∈ ns, Block (n.silent o) (visit o n)) :
    Block (Node.silentAll o ns) (visitEach o id ns) := by
  induction ns with
  | nil => exact fluent_pure.block fun w hw => hw
  | cons n ns ih =>
    exact (h n List.mem_cons_self).andThen (ih fun m hm => h m (List.mem_cons_of_mem _ hm))

/-! ## Kinds of blocks -/

theorem block_drop (kind : String) : Block true (Step.drop kind) :=
  (fluent_drop kind).block fun _ hw => hw

theorem fluent_paragraph (hc : Fluent false p q content) :
    Fluent false p q fun w => (content w).andThen fun v => .pure v.requestParagraph := by
  have hprog := hc.andThen fluent_requestParagraph
  rw [Bool.or_false, Bool.and_true] at hprog
  exact hprog

theorem block_paragraph (hc : Fluent false p q content) :
    Block q fun w => (content w).andThen fun v => .pure v.requestParagraph := by
  refine (fluent_paragraph hc).block fun w hw => ?_
  rw [Step.andThen_of_ok (hc.ok w)]
  exact ((hc.runs w).sound hw.toSound).resting_requestParagraph

theorem visitHeading_of_open {w : Writer} (hc : Fluent false p q content)
    (h : w.sentenceOpen = true) :
    (visitHeading content w).tokens = (content { w with completing := true }).tokens ∧
      (visitHeading content w).writer =
        { (content { w with completing := true }).writer with
          completing := false }.requestParagraph := by
  unfold visitHeading
  rw [if_pos h, Step.andThen_of_ok ((Step.failure_adjust _ _).trans (hc.ok _))]
  exact ⟨List.append_nil _, rfl⟩

theorem visitHeading_of_closed {w : Writer} (hc : Fluent false p q content)
    (h : w.sentenceOpen = false) :
    (visitHeading content w).tokens = (content w.requestParagraph).tokens ∧
      (visitHeading content w).writer = (content w.requestParagraph).writer.requestParagraph := by
  unfold visitHeading
  rw [h, if_neg (by simp), Step.andThen_of_ok (hc.ok _)]
  exact ⟨List.append_nil _, rfl⟩

theorem blind_visitHeading (hc : Fluent false p q content) : Blind (visitHeading content) := by
  have hok := failure_visitHeading hc.ok
  refine ⟨hok, fun w => runsFrom_visitHeading (fun v _ => hc.runs v) w (hok w), ?_⟩
  intro w v h
  by_cases ho : w.sentenceOpen = true
  · have hlike := hc.like _ _ (h.completing_set true)
    obtain ⟨hwt, hww⟩ := visitHeading_of_open hc ho
    obtain ⟨hvt, hvw⟩ := visitHeading_of_open hc (h.sentenceOpen ▸ ho)
    refine ⟨hwt.trans (hlike.tokens.trans hvt.symm), ?_⟩
    rw [hww, hvw]
    exact (hlike.writer.completing_set false).requestParagraph
  · rw [Bool.not_eq_true] at ho
    have hlike := hc.like _ _ h.requestParagraph
    obtain ⟨hwt, hww⟩ := visitHeading_of_closed hc ho
    obtain ⟨hvt, hvw⟩ := visitHeading_of_closed hc (h.sentenceOpen ▸ ho)
    refine ⟨hwt.trans (hlike.tokens.trans hvt.symm), ?_⟩
    rw [hww, hvw]
    exact hlike.writer.requestParagraph

/-- A heading that completes the sentence takes its claim back at its end. -/
theorem block_visitHeading (hc : Fluent false p q content) : Block q (visitHeading content) := by
  refine ⟨⟨blind_visitHeading hc, ?_⟩, ?_, ?_⟩
  · intro w hw
    by_cases ho : w.sentenceOpen = true
    · have hat := hc.at (w := { w with completing := true }) ⟨hw.inLink, fun _ => hw.sawImage⟩
      rw [(visitHeading_of_open hc ho).2]
      exact ⟨rfl, hat.inLink, hat.sawImage rfl⟩
    · rw [Bool.not_eq_true] at ho
      have hat := hc.at (w := w.requestParagraph) ⟨hw.inLink, fun _ => hw.sawImage⟩
      rw [(visitHeading_of_closed hc ho).2]
      exact ⟨(hc.completing _).trans hw.completing, hat.inLink, hat.sawImage rfl⟩
  · intro w hw
    by_cases ho : w.sentenceOpen = true
    · rw [(visitHeading_of_open hc ho).2]
      exact (((hc.runs _).sound (hw.flags true _ _).toSound).flags _ _ _).resting_requestParagraph
    · rw [Bool.not_eq_true] at ho
      rw [(visitHeading_of_closed hc ho).2]
      exact ((hc.runs _).sound hw.requestParagraph.toSound).resting_requestParagraph
  · intro w hw hrest
    by_cases ho : w.sentenceOpen = true
    · rw [(visitHeading_of_open hc ho).1]
      exact hc.tokens _ ⟨hw.inLink, fun _ => hw.sawImage⟩ (hrest.flags _ _ _)
    · rw [Bool.not_eq_true] at ho
      rw [(visitHeading_of_closed hc ho).1]
      exact hc.tokens _ ⟨hw.inLink, fun _ => hw.sawImage⟩ hrest.requestParagraph

/-- A code block without lines is a pair of requests. -/
theorem fluent_visitCodeBlock {content : String} (h : codeLines content.toList = [])
    (language : Option String) :
    Fluent false false true (visitLeaf (.codeBlock content language)) := by
  have hsame : visitLeaf (.codeBlock content language) = fun w =>
      (Step.pure w.requestParagraph).andThen fun v => .pure v.requestBreak := by
    funext w
    rw [visitLeaf, h, Step.pure_andThen]
    rfl
  rw [hsame]
  exact fluent_requestParagraph.andThen fluent_requestBreak

/-- What comes after the first line of a code block. -/
def visitCodeRest (rest : List (List Char)) (w : Writer) : Step :=
  (Step.wrote (writeCode rest { w with breaks := w.breaks + 1 })).adjust Writer.requestBreak

theorem visitCodeBlock_of_cons {content : String} {line : List Char} {rest : List (List Char)}
    (h : codeLines content.toList = line :: rest) (hline : line ≠ []) (language : Option String)
    (w : Writer) : visitLeaf (.codeBlock content language) w =
      (Step.wrote (write (indent ++ line) w.requestParagraph)).andThen (visitCodeRest rest) := by
  rw [visitLeaf, h, writeCode_cons hline, Step.andThen_of_ok rfl]
  rfl

theorem opens_visitCodeBlock (content : String) (language : Option String) :
    Opens (visitLeaf (.codeBlock content language)) := by
  rcases (framed_codeLines content.toList).cases with h | ⟨line, rest, -, h, -, hline, -⟩
  · exact (fluent_visitCodeBlock h language).opens
  · have hfirst : Fluent false false false fun w =>
        .wrote (write (indent ++ line) w.requestParagraph) :=
      fluent_requestParagraph.andThen (fluent_word (indent ++ line))
    rw [funext (visitCodeBlock_of_cons h hline language)]
    refine hfirst.opens.andThen_of_writes hfirst.toBlind ?_ ?_
    · exact fun w => write_fst_ne_nil (indent_append_ne_nil line) _
    · intro w v hwv
      have hlike := like_writeCode hwv.addBreak rest
      exact ⟨hlike.tokens, hlike.writer.requestBreak⟩

theorem block_visitCodeBlock (content : String) (language : Option String) :
    Block (content.toList.all Text.isBlank) (visitLeaf (.codeBlock content language)) := by
  have hblank : codeLines content.toList = [] ↔ content.toList.all Text.isBlank = true := by
    rw [codeLines_eq_nil, List.all_eq_true]
  rcases (framed_codeLines content.toList).cases with h | ⟨line, rest, last, h, hlast, hline, hne⟩
  · rw [hblank.1 h]
    refine (fluent_visitCodeBlock h language).block fun w hw => ?_
    rw [visitLeaf, h]
    exact hw.requestParagraph.requestBreak
  · have hruns : ∀ w, Runs (fun _ => True) w (visitLeaf (.codeBlock content language) w).tokens
        (visitLeaf (.codeBlock content language) w).writer :=
      fun w => (runsFrom_visitLeaf {} rfl).mono fun _ _ => trivial
    have hwriter : ∀ w, (visitLeaf (.codeBlock content language) w).writer =
        ({ w with
          sentenceOpen := false, last := indent ++ last, lineStart := false, breaks := 1,
          softSpace := false } : Writer).requestBreak := by
      intro w
      rw [visitLeaf, Step.writer_adjust, Step.writer_wrote, writeCode_snd hlast hne]
      rfl
    refine ⟨⟨⟨fun _ => rfl, hruns, ?_⟩, ?_⟩, ?_, ?_⟩
    · intro w v hwv
      have hlike := like_writeCode hwv.requestParagraph (codeLines content.toList)
      exact ⟨hlike.tokens, hlike.writer.requestBreak⟩
    · intro w hw
      rw [hwriter]
      exact ⟨hw.completing, hw.inLink, hw.sawImage⟩
    · intro w hw
      refine ⟨(hruns w).sound hw.toSound, fun _ => ?_⟩
      rw [hwriter]
      simp [Writer.requestBreak, indent, maxBreaks]
    · intro w _ _
      refine iff_of_false ?_ fun hb => by simp [hblank.2 hb] at h
      rw [visitCodeBlock_of_cons h hline, Step.andThen_of_ok rfl]
      intro hnil
      exact write_fst_ne_nil (indent_append_ne_nil line) _ (List.append_eq_nil_iff.1 hnil).1

/-! ## Lists -/

theorem tokens_andThen_ne_nil (hf : Blind f) (hw : ∀ w, (f w).tokens ≠ []) (w : Writer) :
    ((f w).andThen g).tokens ≠ [] := by
  rw [Step.andThen_of_ok (hf.ok w)]
  exact List.append_ne_nil_of_left_ne_nil (hw w) _

/-- After a token a request leaves a break. -/
theorem one_le_breaks_requestBreak (hf : Blind f) (hw : ∀ w, (f w).tokens ≠ []) {w : Writer}
    (hs : w.Sound) : 1 ≤ (f w).writer.requestBreak.breaks := by
  have hlast : (f w).writer.last ≠ [] := fun h => hw w ((hf.runs w).last_eq_nil.1 h).2
  rw [((hf.runs w).sound hs).breaks_requestBreak hlast]
  exact le_min (Nat.le_add_left 1 _) (by decide)

theorem item_visit {ns : List Node} (h : ∀ n ∈ ns, Block (n.silent o) (visit o n)) (info : Info) :
    Item (visit o (.container .listItem ns info)) := by
  have hbullet : Fluent false false false fun w => .wrote (write bullet w) := fluent_word bullet
  have hwrites : ∀ w, (Step.wrote (write bullet w)).tokens ≠ [] :=
    fun w => write_fst_ne_nil (by simp [bullet]) w
  have hbody := hbullet.steady.andThen (block_visitEach h).toSteady
  have hopens := hbullet.opens.andThen_of_writes hbullet.toBlind hwrites (block_visitEach h).like
  have hbodyWrites := tokens_andThen_ne_nil (g := visitEach o id ns) hbullet.toBlind hwrites
  have hbreak : Steady fun w => .pure w.requestBreak :=
    (fluent_requestBreak (l := false)).steady
  refine ⟨hbody.andThen hbreak, ?_, ?_, fun w hw => ?_⟩
  · exact hopens.andThen_of_writes hbody.toBlind hbodyWrites hbreak.like
  · exact tokens_andThen_ne_nil hbody.toBlind hbodyWrites
  · rw [visit, Step.andThen_of_ok (hbody.ok w)]
    exact one_le_breaks_requestBreak hbody.toBlind hbodyWrites hw

theorem steady_visitEach_requestBreak {ns : List Node} (h : ∀ n ∈ ns, Item (visit o n)) :
    Steady (visitEach o Writer.requestBreak ns) := by
  induction ns with
  | nil => exact (fluent_pure (l := false)).steady
  | cons n ns ih =>
    have hitem : Steady fun w => visit o n w.requestBreak :=
      (fluent_requestBreak (l := false)).steady.andThen (h n List.mem_cons_self).toSteady
    exact hitem.andThen (ih fun m hm => h m (List.mem_cons_of_mem _ hm))

/-- Further items leave a break if the items before them do. -/
theorem one_le_breaks_visitEach {ns : List Node} (h : ∀ n ∈ ns, Item (visit o n)) {w : Writer}
    (hs : w.Sound) (hw : 1 ≤ w.breaks) :
    1 ≤ (visitEach o Writer.requestBreak ns w).writer.breaks := by
  induction ns generalizing w with
  | nil => exact hw
  | cons n ns ih =>
    have hitem := h n List.mem_cons_self
    rw [visitEach_cons, Step.andThen_of_ok (hitem.ok _)]
    refine ih (fun m hm => h m (List.mem_cons_of_mem _ hm)) ?_ ?_
    · exact (hitem.runs _).sound hs.requestBreak
    · exact hitem.breaks _ hs.requestBreak

/-- A list without items is a request; any other one ends with the break after its last item and
one of its own. -/
theorem block_visitList {ns : List Node} (h : ∀ n ∈ ns, Item (visit o n)) (ordered : Bool)
    (start : Int) (tight : Bool) (info : Info) :
    Block ns.isEmpty (visit o (.container (.list ordered start tight) ns info)) ∧
      Opens (visit o (.container (.list ordered start tight) ns info)) := by
  have hbreak : Fluent false false true fun w => .pure w.requestBreak := fluent_requestBreak
  cases ns with
  | nil => exact ⟨hbreak.block fun w hw => hw.requestBreak, hbreak.opens⟩
  | cons n ns =>
    have hitem := h n List.mem_cons_self
    have hrest := steady_visitEach_requestBreak fun m hm => h m (List.mem_cons_of_mem _ hm)
    have hitems := hitem.toSteady.andThen hrest
    have hwrites := tokens_andThen_ne_nil (g := visitEach o Writer.requestBreak ns)
      hitem.toBlind hitem.tokens
    have hlist := hitems.andThen hbreak.steady
    refine ⟨⟨hlist, fun w hw => ?_, fun w _ _ => ?_⟩, ?_⟩
    · refine ⟨(hlist.runs w).sound hw.toSound, fun _ => ?_⟩
      -- the last item leaves a break, and the list asks for one more
      have hsound := (hitems.runs w).sound hw.toSound
      have hlast : ((visit o n w).andThen (visitEach o Writer.requestBreak ns)).writer.last ≠ [] :=
        fun hnil => hwrites w ((hitems.runs w).last_eq_nil.1 hnil).2
      have hone : 1 ≤
          ((visit o n w).andThen (visitEach o Writer.requestBreak ns)).writer.breaks := by
        rw [Step.andThen_of_ok (hitem.ok w)]
        exact one_le_breaks_visitEach (fun m hm => h m (List.mem_cons_of_mem _ hm))
          ((hitem.runs w).sound hw.toSound) (hitem.breaks w hw.toSound)
      rw [visit, visitItems, Step.andThen_of_ok (hitems.ok w), Step.writer_pure,
        hsound.breaks_requestBreak hlast, maxBreaks]
      omega
    · exact iff_of_false (tokens_andThen_ne_nil hitems.toBlind hwrites w) (by simp)
    · exact (hitem.opens.andThen_of_writes hitem.toBlind hitem.tokens hrest.like).andThen_of_writes
        hitems.toBlind hwrites hbreak.like

/-! ## Nodes -/

/-- What is asked of a node at a place. -/
def Behaves (o : Options) : Position → Node → Prop
  | .block, n => Block (n.silent o) (visit o n) ∧ (n.isHeading = false → Opens (visit o n))
  | .item, n => Item (visit o n)
  | .inline linked, n => Fluent linked n.pictured (n.silent o) (visit o n)

/-- Every node that stands where it belongs behaves as its place asks. -/
theorem behaves_of_fits {place : Position} {n : Node} (h : n.Fits place)
    (hok : n.unsupported? = none) : Behaves o place n := by
  have hdrop : ∀ kind, Block true (Step.drop kind) ∧ Opens (Step.drop kind) :=
    fun kind => ⟨block_drop kind, (fluent_drop (l := false) kind).opens⟩
  induction h with
  | @blockLeaf kind info h =>
    cases kind with
    | codeBlock content language =>
      exact ⟨block_visitCodeBlock content language, fun _ => opens_visitCodeBlock content language⟩
    | thematicBreak => exact ⟨(hdrop _).1, fun _ => (hdrop _).2⟩
    | htmlBlock => exact ⟨(hdrop _).1, fun _ => (hdrop _).2⟩
    | _ => simp [Leaf.isBlock] at h
  | @inlineLeaf linked kind info h =>
    show Fluent linked (Node.leaf kind info).pictured kind.silent (visitLeaf kind)
    rw [Node.pictured_leaf]
    exact fluent_visitLeaf h
  | heading h ih =>
    have hc := fluent_visitEach fun n hn => ih n hn (Node.unsupported?_of_mem hok rfl n hn)
    exact ⟨block_visitHeading hc, fun hh => by simp [Node.isHeading] at hh⟩
  | paragraph h ih =>
    have hc := fluent_visitEach fun n hn => ih n hn (Node.unsupported?_of_mem hok rfl n hn)
    exact ⟨block_paragraph hc, fun _ => (fluent_paragraph hc).opens⟩
  | list h ih =>
    have hlist := block_visitList fun n hn => ih n hn (Node.unsupported?_of_mem hok rfl n hn)
    exact ⟨(hlist _ _ _ _).1, fun _ => (hlist _ _ _ _).2⟩
  | listItem h ih =>
    exact item_visit (fun n hn => (ih n hn (Node.unsupported?_of_mem hok rfl n hn)).1) _
  | @dropped kind ns info h =>
    rw [Behaves, Node.silent_of_isDropped h, visit_of_isDropped h]
    exact ⟨(hdrop _).1, fun _ => (hdrop _).2⟩
  | table => exact ⟨(hdrop _).1, fun _ => (hdrop _).2⟩
  | @emphasis linked ns info h ih =>
    have hc := fluent_visitEach fun n hn => ih n hn (Node.unsupported?_of_mem hok rfl n hn)
    show Fluent linked (Node.container .emphasis ns info).pictured false _
    rw [Node.pictured_container]
    exact fluent_visitMarked (by simp) hc
  | @strong linked ns info h ih =>
    have hc := fluent_visitEach fun n hn => ih n hn (Node.unsupported?_of_mem hok rfl n hn)
    show Fluent linked (Node.container .strong ns info).pictured false _
    rw [Node.pictured_container]
    exact fluent_visitMarked (by simp) hc
  | strikethrough => simp [Node.unsupported?, Container.isDropped] at hok
  | link h ih =>
    have hc := fluent_visitEach fun n hn => ih n hn (Node.unsupported?_of_mem hok rfl n hn)
    exact fluent_visitLink hc o _ _

end PackageDoc.Comment
