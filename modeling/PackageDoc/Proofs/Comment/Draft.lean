import PackageDoc.Proofs.Comment.Sound

/-!
# Visits one after another

A draft is what has been written of a comment and the state of the writer. Nodes can be visited one
after another, going on after visits that failed. A failed visit has made moves like any other, and
leaves no flag of headings or links set; only the tokens of a link in which it stopped are gone.

    w.LeadsTo (visit o n w).writer, whether the visit failed or not              (leads_visit)
    w.LeadsTo v → w.Intact → v.Intact                                       (LeadsTo.intact)
    every draft is intact, and each visit adds to what is written       (intact_of_visits)
-/

namespace PackageDoc.Comment

/-! ## Where moves lead -/

/-- Moves lead from one state to another, and leave no flag of headings or links set that was not
set before. -/
structure Writer.LeadsTo (w v : Writer) : Prop where
  runs : ∃ ts, Runs (fun _ => True) w ts v
  completing : v.completing = true → w.completing = true
  inLink : v.inLink = true → w.inLink = true

variable {o : Options} {t : List Char} {u v w : Writer} {s : Step} {g content : Writer → Step}

namespace Writer.LeadsTo

theorem refl (w : Writer) : w.LeadsTo w :=
  ⟨⟨[], .stay⟩, id, id⟩

theorem trans (h : u.LeadsTo v) (h' : v.LeadsTo w) : u.LeadsTo w := by
  obtain ⟨ts, hts⟩ := h.runs
  obtain ⟨us, hus⟩ := h'.runs
  exact ⟨⟨ts ++ us, hts.trans hus⟩, h.completing ∘ h'.completing, h.inLink ∘ h'.inLink⟩

theorem requestBreak (w : Writer) : w.LeadsTo w.requestBreak :=
  ⟨⟨[], .requestBreak⟩, id, id⟩

theorem requestParagraph (w : Writer) : w.LeadsTo w.requestParagraph :=
  (requestBreak w).trans (requestBreak _)

theorem keepApart (w : Writer) : w.LeadsTo w.keepApart :=
  ⟨⟨[], .keepApart⟩, id, id⟩

/-- Flags may be taken back, and the one for images set. -/
theorem flags (w : Writer) {completing inLink : Bool} (hc : completing = true → w.completing = true)
    (hl : inLink = true → w.inLink = true) (sawImage : Bool) :
    w.LeadsTo { w with completing, inLink, sawImage } :=
  ⟨⟨[], .flags⟩, hc, hl⟩

theorem write (t : List Char) (w : Writer) : w.LeadsTo (write t w).2 := by
  have hruns : Runs (fun _ => True) w (Comment.write t w).1 (Comment.write t w).2 := .write trivial
  by_cases ht : t = []
  · rw [ht, write_nil]
    exact refl w
  · rw [write_snd ht] at hruns ⊢
    exact ⟨⟨_, hruns⟩, id, id⟩

theorem closeSentence (h : w.sentenceOpen = true) : w.LeadsTo (closeSentence w).2 :=
  ⟨⟨_, .close h⟩, id, id⟩

theorem writeCode {ls : List (List Char)} (hf : Framed ls) (w : Writer) :
    w.LeadsTo (writeCode ls w).2 := by
  have hruns : Runs (fun _ => True) w (Comment.writeCode ls w).1 (Comment.writeCode ls w).2 :=
    .code hf fun _ _ => trivial
  rcases hf.cases with rfl | ⟨-, -, last, -, hlast, -, hne⟩
  · exact refl w
  · rw [writeCode_snd hlast hne] at hruns ⊢
    exact ⟨⟨_, hruns⟩, id, id⟩

theorem writeLines (ls : List (List Char)) (w : Writer) : w.LeadsTo (writeLines ls w).2 := by
  induction ls generalizing w with
  | nil => exact refl w
  | cons line rest ih =>
    have hline : w.LeadsTo (Comment.write (lineWord line w) w).2 := write _ w
    cases rest with
    | nil =>
      rw [writeLines_singleton]
      split
      · exact hline.trans (keepApart _)
      · exact hline
    | cons next rest =>
      rw [writeLines_cons_cons]
      exact (hline.trans (requestBreak _)).trans (ih _)

/-- A step that failed is where it stopped, and the next one goes on from any other. -/
theorem andThen (h : w.LeadsTo s.writer) (hg : ∀ v : Writer, v.LeadsTo (g v).writer) :
    w.LeadsTo (s.andThen g).writer := by
  cases hf : s.failure with
  | some kind =>
    rw [Step.andThen_of_failure hf]
    exact h
  | none =>
    rw [Step.andThen_of_ok hf]
    exact h.trans (hg _)

end Writer.LeadsTo

open Writer (LeadsTo)

/-! ## Visits -/

/-- A program that, whether it fails or not, does nothing but make moves. -/
def Leads (f : Writer → Step) : Prop :=
  ∀ w : Writer, w.LeadsTo (f w).writer

theorem leads_visitLeaf (kind : Leaf) : Leads (visitLeaf kind) := by
  intro w
  cases kind with
  | text => exact .writeLines _ w
  | code => exact .write _ w
  | codeBlock content =>
    have hcode := LeadsTo.writeCode (framed_codeLines content.toList) w.requestParagraph
    rw [visitLeaf, Step.writer_adjust, Step.writer_wrote]
    exact ((LeadsTo.requestParagraph w).trans hcode).trans (.requestBreak _)
  | lineBreak soft =>
    cases soft with
    | true => exact .requestBreak w
    | false => exact .requestParagraph w
  | image =>
    show w.LeadsTo (if w.inLink then { w with sawImage := true } else w)
    split
    · exact .flags w id id true
    · exact .refl w
  | thematicBreak => exact .refl w
  | htmlBlock => exact .refl w
  | htmlInline => exact .refl w
  | footnoteReference => exact .refl w
  | custom => exact .refl w

theorem leads_visitMarked (hc : Leads content) (marker : List Char) :
    Leads (visitMarked marker content) := by
  intro w
  have hopen : w.LeadsTo (write marker w.keepApart).2 := (LeadsTo.keepApart w).trans (.write _ _)
  exact (LeadsTo.andThen hopen hc).andThen fun v => .write marker v

/-- The flag of a heading is taken back even if the heading cannot be written to its end. -/
theorem leads_visitHeading (hc : Leads content) : Leads (visitHeading content) := by
  intro w
  unfold visitHeading
  refine LeadsTo.andThen ?_ fun v => .requestParagraph v
  split
  · have hwords := hc { w with completing := true }
    obtain ⟨ts, hruns⟩ := hwords.runs
    refine ⟨⟨[] ++ ts ++ [], (Runs.flags.trans hruns).trans .flags⟩, ?_, hwords.inLink⟩
    exact fun h => by contradiction
  · exact (LeadsTo.requestParagraph w).trans (hc _)

theorem leads_visitLinkText (hc : Leads content) (title : Option String) :
    Leads (visitLinkText title content) := by
  intro w
  unfold visitLinkText
  split
  · exact hc w
  · split
    · exact hc w
    · exact LeadsTo.andThen (.write _ w) fun v => (LeadsTo.keepApart v).trans (hc _)

/-- So is the flag of a link. -/
theorem leads_linkBody (hc : Leads content) (title : Option String) :
    Leads (linkBody title content) := by
  intro w
  have htext := leads_visitLinkText hc title { w with inLink := true, sawImage := false }
  obtain ⟨ts, hruns⟩ := htext.runs
  refine ⟨⟨[] ++ ts ++ [], (Runs.flags.trans hruns).trans .flags⟩, htext.completing, ?_⟩
  exact fun h => by contradiction

theorem leads_visitLink (hc : Leads content) (o : Options) (url : String)
    (title : Option String) : Leads (visitLink o url title content) := by
  intro w
  have hbody := leads_linkBody hc title w
  cases hf : (linkBody title content w).failure with
  | some kind =>
    rw [visitLink_of_failure hf]
    exact hbody
  | none =>
    cases hb : (linkBody title content w).writer.sawImage && o.suppressBadges with
    | true =>
      rw [visitLink_of_badge hf hb]
      exact .flags w hbody.completing hbody.inLink false
    | false =>
      rw [visitLink_of_shown hf hb, Step.writer_adjust]
      refine LeadsTo.trans ?_ (.flags _ id id false)
      split
      · exact hbody
      · exact hbody.andThen fun v => (LeadsTo.keepApart v).trans (.write _ _)

theorem leads_visitEach {ns : List Node} {before : Writer → Writer}
    (hb : ∀ v : Writer, v.LeadsTo (before v)) (h : ∀ n ∈ ns, Leads (visit o n)) :
    Leads (visitEach o before ns) := by
  induction ns with
  | nil => exact .refl
  | cons n ns ih =>
    intro w
    rw [visitEach_cons]
    exact ((hb w).trans (h n List.mem_cons_self _)).andThen
      (ih fun m hm => h m (List.mem_cons_of_mem _ hm))

theorem leads_visitItems {ns : List Node} (h : ∀ n ∈ ns, Leads (visit o n)) :
    Leads (visitItems o ns) := by
  intro w
  cases ns with
  | nil => exact .refl w
  | cons n ns =>
    exact (h n List.mem_cons_self w).andThen
      (leads_visitEach .requestBreak fun m hm => h m (List.mem_cons_of_mem _ hm))

/-- Moves lead to the state that a visit leaves, whether it failed or not. -/
theorem leads_visit (o : Options) (n : Node) : Leads (visit o n) := by
  induction n with
  | leaf kind => exact leads_visitLeaf kind
  | table => exact .refl
  | container kind ns info ih =>
    have hall : Leads (visitEach o id ns) := leads_visitEach .refl ih
    intro w
    cases kind with
    | document =>
      refine (hall w).andThen fun v => ?_
      split
      · next h => exact .closeSentence h
      · exact .refl v
    | heading => exact leads_visitHeading hall w
    | paragraph => exact (hall w).andThen fun v => .requestParagraph v
    | list => exact (leads_visitItems ih w).andThen fun v => .requestBreak v
    | listItem =>
      have hbullet : w.LeadsTo (Step.wrote (write bullet w)).writer := .write bullet w
      exact (hbullet.andThen hall).andThen fun v => .requestBreak v
    | emphasis => exact leads_visitMarked hall _ w
    | strong => exact leads_visitMarked hall _ w
    | link url title => exact leads_visitLink hall o url title w
    | strikethrough => exact .refl w
    | blockQuote => exact .refl w
    | tableRow => exact .refl w
    | tableCell => exact .refl w
    | footnoteDefinition => exact .refl w

/-! ## What every visit keeps -/

/-- The state of a writer that is not in the middle of a visit. What was written last tells whether
anything was: the opening sentence is open, and the next word completes its line, exactly as long
as nothing was. -/
structure Writer.Intact (w : Writer) : Prop where
  breaks_le : w.breaks ≤ 2
  lineStart_iff : w.lineStart = true ↔ w.last.length = 0
  closed_iff : w.sentenceOpen = false ↔ 0 < w.last.length
  breaks_eq_zero : w.last.length = 0 → w.breaks = 0
  inLink : w.inLink = false
  completing : w.completing = false

theorem intact_start : (Writer.start true).Intact := by
  constructor <;> simp [Writer.start]

theorem Writer.Intact.sentenceOpen (h : w.Intact) (hlast : w.last = []) :
    w.sentenceOpen = true := by
  by_contra hclosed
  rw [Bool.not_eq_true, h.closed_iff, hlast] at hclosed
  simp at hclosed

theorem Writer.Intact.sound (h : w.Intact) : w.Sound := by
  have hlength : w.last.length = 0 ↔ w.last = [] := List.length_eq_zero_iff
  refine ⟨fun hopen => ?_, ?_, fun hlast => h.breaks_eq_zero (hlength.2 hlast), h.breaks_le⟩
  · by_contra hlast
    have hclosed := h.closed_iff.2 (List.length_pos_iff.2 hlast)
    rw [hopen] at hclosed
    contradiction
  · rw [Bool.eq_iff_iff, h.lineStart_iff, hlength, List.isEmpty_iff]

/-- Where moves lead from an intact state is intact. -/
theorem Writer.LeadsTo.intact (h : w.LeadsTo v) (hw : w.Intact) : v.Intact := by
  obtain ⟨ts, hruns⟩ := h.runs
  have hv : v.Sound := hruns.sound hw.sound
  have hlength : v.last.length = 0 ↔ v.last = [] := List.length_eq_zero_iff
  refine ⟨hv.breaks_le, ?_, ?_, fun hlast => hv.breaks_eq_zero (hlength.1 hlast), ?_, ?_⟩
  · rw [hv.lineStart, hlength, List.isEmpty_iff]
  · rw [List.length_pos_iff]
    constructor
    · intro hclosed hlast
      have hopen := hruns.sentenceOpen_eq hlast
      rw [hclosed, hw.sentenceOpen (hruns.last_eq_nil.1 hlast).1] at hopen
      contradiction
    · exact hv.sentenceOpen_eq_false
  · by_contra hset
    rw [Bool.not_eq_false] at hset
    have hbefore := h.inLink hset
    rw [hw.inLink] at hbefore
    contradiction
  · by_contra hset
    rw [Bool.not_eq_false] at hset
    have hbefore := h.completing hset
    rw [hw.completing] at hbefore
    contradiction

/-! ## Drafts -/

/-- What has been written of a comment, and where the writer stands. -/
structure Draft where
  written : List Char
  writer : Writer

/-- The opening words, with the sentence open. -/
def Draft.start (o : Options) : Draft :=
  ⟨(header o).toList, .start true⟩

/-- The draft after the visit of a node. If the visit failed, that is how it left things. -/
def Draft.visit (o : Options) (d : Draft) (n : Node) : Draft :=
  ⟨d.written ++ text (Comment.visit o n d.writer).tokens, (Comment.visit o n d.writer).writer⟩

/-- The draft after nodes have been visited one after another. -/
def Draft.visits (o : Options) (d : Draft) (ns : List Node) : Draft :=
  ns.foldl (Draft.visit o) d

theorem Draft.written_prefix_visit (o : Options) (d : Draft) (n : Node) :
    d.written <+: (d.visit o n).written :=
  List.prefix_append _ _

theorem Draft.visits_concat (o : Options) (d : Draft) (ns : List Node) (n : Node) :
    d.visits o (ns ++ [n]) = (d.visits o ns).visit o n := by
  simp [visits]

theorem Draft.intact_visits {d : Draft} (h : d.writer.Intact) (ns : List Node) :
    (d.visits o ns).writer.Intact := by
  induction ns generalizing d with
  | nil => exact h
  | cons n ns ih => exact ih ((leads_visit o n d.writer).intact h)

/-- **Every draft is intact.** Let nodes be visited one after another from the opening words on,
whatever they are and whether the visits fail or not. After each visit the state of the writer is
intact, and what was written before the visit stands at the beginning of what is written after
it. -/
theorem intact_of_visits (o : Options) (ns : List Node) (n : Node) :
    ((Draft.start o).visits o (ns ++ [n])).writer.Intact ∧
      ((Draft.start o).visits o ns).written <+:
        ((Draft.start o).visits o (ns ++ [n])).written := by
  constructor
  · exact Draft.intact_visits intact_start (ns ++ [n])
  · rw [Draft.visits_concat]
    exact Draft.written_prefix_visit o _ n

end PackageDoc.Comment
