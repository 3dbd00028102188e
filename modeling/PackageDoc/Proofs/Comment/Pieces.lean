import Mathlib.Data.List.Forall2
import Mathlib.Logic.Relation
import PackageDoc.Proofs.Comment.Parallel

/-!
# Text in pieces

A run of text reaches the writer in pieces, and where it has been cut does not matter. A line feed
in a text is a soft line break between two texts, and two texts are written like the one they make
up, unless the first ends in a space.

    Text (x ++ "\n" ++ y)  does what  Text x, LineBreak, Text y  do       (visit_text_newline)
    Text x, Text y  are near  Text (x ++ y)                                 (near_visit_texts)
    a tree is written as the same text from states near each other                (near_visit)
    trees cut into different pieces are rendered alike                       (render_of_recut)

Two ways of writing the same text can leave different words as the last one. The states are near
each other if no move can tell these words apart: both or neither are empty, and both or neither
end in a space.
-/

namespace PackageDoc

/-- A tree and the same tree with one text in it cut in two, not after a space. The text may stand
in any container but a list, where every node begins a line of its own. -/
inductive Node.Cut : Node → Node → Prop
  | text {kind info i j k x y} (as bs : List Node) (hlist : kind.isList = false)
      (hx : x.toList.getLast? ≠ some ' ') :
      Cut (.container kind (as ++ [.leaf (.text (x ++ y)) i] ++ bs) info)
        (.container kind (as ++ [.leaf (.text x) j, .leaf (.text y) k] ++ bs) info)
  | child {kind info n m} (as bs : List Node) (h : Cut n m) :
      Cut (.container kind (as ++ [n] ++ bs) info) (.container kind (as ++ [m] ++ bs) info)
  | head {body alignments info n m} (h : Cut n m) :
      Cut (.table (some n) body alignments info) (.table (some m) body alignments info)
  | row {head alignments info n m} (as bs : List Node) (h : Cut n m) :
      Cut (.table head (as ++ [n] ++ bs) alignments info)
        (.table head (as ++ [m] ++ bs) alignments info)

/-- Trees that differ only in where their runs of text are cut. -/
def Node.Recut : Node → Node → Prop :=
  Relation.EqvGen Cut

namespace Comment

/-! ## States that are near each other -/

/-- Two states that differ at most in the word written last, of which both or neither are empty and
both or neither end in a space. -/
structure Writer.Near (w v : Writer) : Prop where
  eq : v = { w with last := v.last }
  empty : v.last = [] ↔ w.last = []
  spaced : v.last.getLast? = some ' ' ↔ w.last.getLast? = some ' '

/-- Tokens that make up the same text. -/
def SameText (ts us : List Token) : Prop :=
  text ts = text us

/-- Two steps that write the same text, fail alike and leave states near each other. -/
def Step.Near (s t : Step) : Prop :=
  s.Related Writer.Near SameText t

variable {o : Options} {p q x y : List Char} {rest ls ms : List (List Char)} {u v w : Writer}
  {r s t : Step} {g g' : Writer → Step} {n m : Node} {ns ns' : List Node}

namespace Writer.Near

theorem refl (w : Writer) : w.Near w :=
  ⟨rfl, .rfl, .rfl⟩

theorem trans (h : u.Near v) (h' : v.Near w) : u.Near w := by
  refine ⟨?_, h'.empty.trans h.empty, h'.spaced.trans h.spaced⟩
  obtain ⟨l, rfl⟩ : ∃ l, v = { u with last := l } := ⟨_, h.eq⟩
  exact h'.eq

theorem symm (h : w.Near v) : v.Near w := by
  refine ⟨?_, h.empty.symm, h.spaced.symm⟩
  obtain ⟨l, rfl⟩ : ∃ l, v = { w with last := l } := ⟨_, h.eq⟩
  rfl

/-- A change of the state that has nothing to do with the word written last. -/
theorem map {f : Writer → Writer} (h : w.Near v)
    (hf : ∀ w l, f { w with last := l } = { f w with last := l }) (hl : ∀ w, (f w).last = w.last) :
    (f w).Near (f v) := by
  have hv : f v = { f w with last := v.last } := by
    rw [← hf, ← h.eq]
  refine ⟨?_, ?_, ?_⟩
  · rw [hl, ← hv]
  · rw [hl, hl]
    exact h.empty
  · rw [hl, hl]
    exact h.spaced

theorem sentenceOpen (h : w.Near v) : v.sentenceOpen = w.sentenceOpen := by
  rw [h.eq]

theorem completing (h : w.Near v) : v.completing = w.completing := by
  rw [h.eq]

theorem sawImage (h : w.Near v) : v.sawImage = w.sawImage := by
  rw [h.eq]

theorem atLineStart (h : w.Near v) : v.atLineStart = w.atLineStart := by
  rw [h.eq]
  rfl

theorem requestBreak (h : w.Near v) : w.requestBreak.Near v.requestBreak := by
  refine ⟨?_, h.empty, h.spaced⟩
  have hempty : v.last.isEmpty = w.last.isEmpty := by
    rw [Bool.eq_iff_iff, List.isEmpty_iff, List.isEmpty_iff]
    exact h.empty
  obtain ⟨l, rfl⟩ : ∃ l, v = { w with last := l } := ⟨_, h.eq⟩
  simp only [Writer.requestBreak, hempty]

theorem keepApart (h : w.Near v) : w.keepApart.Near v.keepApart :=
  h.map (fun _ _ => rfl) fun _ => rfl

theorem addBreak (h : w.Near v) :
    ({ w with breaks := w.breaks + 1 } : Writer).Near { v with breaks := v.breaks + 1 } :=
  h.map (f := fun w => { w with breaks := w.breaks + 1 }) (fun _ _ => rfl) fun _ => rfl

theorem gapBefore (h : w.Near v) (t : List Char) : v.gapBefore t = w.gapBefore t := by
  have hspaced : (v.last.getLast? != some ' ') = (w.last.getLast? != some ' ') := by
    rw [Bool.eq_iff_iff, bne_iff_ne, bne_iff_ne]
    exact not_congr h.spaced
  obtain ⟨l, rfl⟩ : ∃ l, v = { w with last := l } := ⟨_, h.eq⟩
  simp only [Writer.gapBefore, hspaced]

end Writer.Near

theorem near_write (t : List Char) :
    Related Writer.Near SameText (fun w => .wrote (write t w)) fun w => .wrote (write t w) := by
  intro w v h
  refine ⟨?_, rfl, ?_⟩
  · have hfst := write_fst_congr h.sentenceOpen (fun _ => h.completing) h.gapBefore t
    exact congrArg text hfst.symm
  · by_cases ht : t = []
    · dsimp only
      rw [ht, write_nil, write_nil]
      exact h
    · -- after the same word nothing is left to tell the states apart
      have hsnd : (write t v).2 = (write t w).2 := by
        rw [write_snd ht, write_snd ht, h.eq]
      rw [Step.writer_wrote, Step.writer_wrote, hsnd]
      exact .refl _

theorem near_closeSentence :
    Related Writer.Near SameText (fun w => .wrote (closeSentence w))
      fun w => .wrote (closeSentence w) := by
  intro w v h
  refine ⟨?_, rfl, ?_⟩
  · exact congrArg text (closeSentence_fst_congr (h.gapBefore ['.']).symm)
  · have hsnd : (closeSentence v).2 = (closeSentence w).2 := by
      rw [closeSentence_snd, closeSentence_snd, h.eq]
    rw [Step.writer_wrote, Step.writer_wrote, hsnd]
    exact .refl _

/-- States near each other stay so in every move made in both, which writes the same text. -/
theorem parallel_near : Parallel Writer.Near SameText where
  nil := rfl
  append := by
    intro ts ts' us us' h h'
    rw [SameText, text_append, text_append, h, h']
  sentenceOpen := Writer.Near.sentenceOpen
  atLineStart := Writer.Near.atLineStart
  write := near_write
  close := near_closeSentence
  requestBreak := Writer.Near.requestBreak
  keepApart := Writer.Near.keepApart
  addBreak := Writer.Near.addBreak
  completing := fun completing h =>
    h.map (f := fun w => { w with completing }) (fun _ _ => rfl) fun _ => rfl

theorem crossing_near (o : Options) : Crossing Writer.Near Writer.Near Writer.Near o o where
  enter := fun h => h.map (f := Writer.enterLink) (fun _ _ => rfl) fun _ => rfl
  leave := fun h =>
    h.map (f := fun w => { w with inLink := false }) (fun _ _ => rfl) fun _ => rfl
  shown := fun h => by rw [h.sawImage]
  stop := id
  forget := fun h =>
    h.map (f := fun w => { w with sawImage := false }) (fun _ _ => rfl) fun _ => rfl
  rewind := by
    intro w v x y h hxy
    obtain ⟨l, rfl⟩ : ∃ l, y = { x with last := l } := ⟨_, hxy.eq⟩
    exact h.map (f := fun w => { w.rewindTo x with sawImage := false }) (fun _ _ => rfl)
      fun _ => rfl

namespace Step.Near

theorem refl (s : Step) : s.Near s :=
  ⟨rfl, rfl, .refl _⟩

theorem trans (h : r.Near s) (h' : s.Near t) : r.Near t :=
  ⟨h.tokens.trans h'.tokens, h.failure.trans h'.failure, h.writer.trans h'.writer⟩

theorem symm (h : r.Near s) : s.Near r :=
  ⟨h.tokens.symm, h.failure.symm, h.writer.symm⟩

/-- What comes after a step is near if it is near from the state that the step leaves. -/
theorem after (s : Step) (h : (g s.writer).Near (g' s.writer)) :
    (s.andThen g).Near (s.andThen g') := by
  cases hf : s.failure with
  | some kind =>
    rw [Step.andThen_of_failure hf, Step.andThen_of_failure hf]
    exact refl s
  | none =>
    rw [Step.andThen_of_ok hf, Step.andThen_of_ok hf]
    exact ⟨parallel_near.append (refl s).tokens h.tokens, h.failure, h.writer⟩

end Step.Near

/-! ## Lines in pieces -/

/-- Lines after other lines begin with a line break. -/
theorem wrote_writeLines_append (hls : ls ≠ []) (hms : ms ≠ []) (w : Writer) :
    Step.wrote (writeLines (ls ++ ms) w) =
      (Step.wrote (writeLines ls w)).andThen fun v => .wrote (writeLines ms v.requestBreak) := by
  induction ls generalizing w with
  | nil => exact absurd rfl hls
  | cons line rest ih =>
    cases rest with
    | nil =>
      obtain ⟨next, rest, rfl⟩ := List.exists_cons_of_ne_nil hms
      rw [List.singleton_append, wrote_writeLines_cons_cons, wrote_writeLines_singleton,
        Step.andThen_assoc]
      congr 1
      funext v
      rw [Step.pure_andThen, Step.pure_andThen]
      -- a break does away with the space that keeps words apart
      split <;> rfl
    | cons next rest =>
      rw [List.cons_append, List.cons_append, wrote_writeLines_cons_cons,
        wrote_writeLines_cons_cons, Step.andThen_assoc]
      congr 1
      funext v
      rw [Step.pure_andThen, Step.andThen_assoc, Step.pure_andThen]
      exact ih (by simp) _

theorem unspaced_append (hx : x.getLast? ≠ some ' ') (q : List Char) :
    unspaced (x ++ q) = x ++ unspaced q := by
  by_cases hq : q = []
  · simp [hq, unspaced, hx]
  · unfold unspaced
    rw [List.getLast?_append_of_ne_nil _ hq]
    split
    · rw [List.dropLast_append_of_ne_nil hq]
    · rfl

/-- What is written for a line that begins with a piece: what is written for the piece, and then
the rest as it is within a line. -/
theorem lineWord_append (hx : x.getLast? ≠ some ' ') (q : List Char) (w : Writer) :
    lineWord (x ++ q) w =
      if lineWord x w = [] then lineWord q w else lineWord x w ++ unspaced q := by
  have hself : unspaced x = x := by
    simp [unspaced, hx]
  unfold lineWord
  rw [unspaced_append hx, hself]
  split
  · rw [Text.trimStart, List.dropWhile_append]
    simp only [List.isEmpty_iff]
    rfl
  · split
    · next h => rw [h, List.nil_append]
    · rfl

theorem gapBefore_append (hp : p ≠ []) (q : List Char) (w : Writer) :
    w.gapBefore (p ++ q) = w.gapBefore p := by
  unfold Writer.gapBefore
  rw [List.head?_append_of_ne_nil _ hp]

/-- A longer word is written with the gap of its beginning. -/
theorem text_write_append (hp : p ≠ []) (q : List Char) (w : Writer) :
    text (write (p ++ q) w).1 = text (write p w).1 ++ q := by
  have hpq : p ++ q ≠ [] := List.append_ne_nil_of_left_ne_nil hp q
  have hput : ∀ w, text (put (p ++ q) w).1 = text (put p w).1 ++ q := by
    intro w
    rw [put, put, gapBefore_append hp, text_cons, text_cons]
    simp
  by_cases ho : w.sentenceOpen = true
  · by_cases hc : w.completing = true
    · rw [write_of_completing hpq ho hc, write_of_completing hp ho hc]
      exact hput _
    · rw [Bool.not_eq_true] at hc
      rw [write_of_open hpq ho hc, write_of_open hp ho hc, text_append, text_append, hput,
        List.append_assoc]
  · rw [Bool.not_eq_true] at ho
    rw [write_of_closed hpq ho, write_of_closed hp ho]
    exact hput _

/-- A word in two pieces: the second follows the first without a gap. -/
theorem near_write_append (hp : p ≠ []) (q : List Char) (w : Writer) :
    ((Step.wrote (write p w)).andThen fun v => .wrote (write q v)).Near
      (.wrote (write (p ++ q) w)) := by
  by_cases hq : q = []
  · have hstay : (fun v => Step.wrote (write q v)) = Step.pure := by
      funext v
      rw [hq, write_nil]
      rfl
    rw [hstay, Step.andThen_pure, hq, List.append_nil]
    exact .refl _
  · have hpq : p ++ q ≠ [] := List.append_ne_nil_of_left_ne_nil hp q
    have hnext : (write q (write p w).2).1 = [⟨.none, q⟩] := by
      rw [write_snd hp, write_of_closed hq rfl]
      rfl
    rw [Step.andThen_of_ok rfl]
    refine ⟨?_, rfl, ?_⟩
    · change text ((write p w).1 ++ (write q (write p w).2).1) = text (write (p ++ q) w).1
      rw [hnext, text_append, text_write_append hp, text_cons]
      simp [Gap.chars]
    · change (write q (write p w).2).2.Near (write (p ++ q) w).2
      rw [write_snd hq, write_snd hp, write_snd hpq]
      exact ⟨rfl, by simp [hp, hq], by rw [List.getLast?_append_of_ne_nil _ hq]⟩

/-- A line in two pieces. -/
theorem near_write_lineWord_append (hx : x.getLast? ≠ some ' ') (q : List Char) (w : Writer) :
    ((Step.wrote (write (lineWord x w) w)).andThen fun v => .wrote (write (lineWord q v) v)).Near
      (.wrote (write (lineWord (x ++ q) w) w)) := by
  rw [lineWord_append hx]
  by_cases hp : lineWord x w = []
  · -- nothing has been written, so the second piece meets the same state
    rw [if_pos hp, hp, write_nil, Step.andThen_of_ok rfl]
    exact .refl _
  · have hwithin : lineWord q (write (lineWord x w) w).2 = unspaced q := by
      rw [write_snd hp]
      rfl
    have hsame : ((Step.wrote (write (lineWord x w) w)).andThen fun v =>
        .wrote (write (lineWord q v) v)) =
        (Step.wrote (write (lineWord x w) w)).andThen fun v => .wrote (write (unspaced q) v) := by
      rw [Step.andThen_of_ok rfl, Step.andThen_of_ok rfl, Step.writer_wrote, hwithin]
    rw [if_neg hp, hsame]
    exact near_write_append hp (unspaced q) w

/-- A piece of a line before lines. -/
theorem near_writeLines_cons (hx : x.getLast? ≠ some ' ') (q : List Char)
    (rest : List (List Char)) (w : Writer) :
    ((Step.wrote (writeLines [x] w)).andThen fun v => .wrote (writeLines (q :: rest) v)).Near
      (.wrote (writeLines ((x ++ q) :: rest) w)) := by
  have hfirst : Step.wrote (writeLines [x] w) = .wrote (write (lineWord x w) w) := by
    have hspace : (x.getLast? == some ' ') = false := by simpa using hx
    rw [wrote_writeLines_singleton, hspace]
    exact Step.andThen_pure _
  have hline := near_write_lineWord_append hx q w
  rw [hfirst]
  cases rest with
  | nil =>
    have hspaced : ((x ++ q).getLast? == some ' ') = (q.getLast? == some ' ') := by
      rw [List.getLast?_append]
      cases q.getLast? <;> simp [hx]
    rw [funext (wrote_writeLines_singleton q), wrote_writeLines_singleton, hspaced,
      ← Step.andThen_assoc]
    apply parallel_near.step_andThen hline
    split
    · exact parallel_near.pure fun _ _ => Writer.Near.keepApart
    · exact parallel_near.pure fun _ _ => id
  | cons next rest =>
    rw [funext (wrote_writeLines_cons_cons q next rest), wrote_writeLines_cons_cons,
      ← Step.andThen_assoc]
    apply parallel_near.step_andThen hline
    exact parallel_near.andThen (parallel_near.pure fun _ _ => Writer.Near.requestBreak)
      (parallel_near.writeLines (next :: rest))

/-- Two texts are written like the one they make up, unless the first ends in a space. -/
theorem near_writeLines_splitAt (hx : x.getLast? ≠ some ' ') (y : List Char) (w : Writer) :
    ((Step.wrote (writeLines (Text.splitAt '\n' x) w)).andThen fun v =>
        .wrote (writeLines (Text.splitAt '\n' y) v)).Near
      (.wrote (writeLines (Text.splitAt '\n' (x ++ y)) w)) := by
  induction x using Text.splitAt_induction '\n' generalizing w with
  | single x hn =>
    obtain ⟨q, rest, hy⟩ := List.exists_cons_of_ne_nil (Text.splitAt_ne_nil '\n' y)
    rw [Text.splitAt_of_not_mem hn, Text.splitAt_append_of_not_mem hn hy, hy]
    exact near_writeLines_cons hx q rest w
  | more a b ha ih =>
    have hb : b.getLast? ≠ some ' ' := by
      intro h
      have hne : b ≠ [] := by
        rintro rfl
        simp at h
      rw [List.append_cons, List.getLast?_append_of_ne_nil _ hne] at hx
      exact hx h
    -- the line before the line feed is written first, whatever comes after it
    have hcut : ∀ z, Step.wrote (writeLines (Text.splitAt '\n' (a ++ '\n' :: z)) w) =
        (Step.wrote (writeLines (Text.splitAt '\n' a) w)).andThen fun v =>
          .wrote (writeLines (Text.splitAt '\n' z) v.requestBreak) := by
      intro z
      rw [Text.splitAt_append_cons]
      exact wrote_writeLines_append (Text.splitAt_ne_nil _ _) (Text.splitAt_ne_nil _ _) w
    rw [List.append_assoc, List.cons_append, hcut, hcut, Step.andThen_assoc]
    exact .after _ (ih hb _)

/-! ## Texts in pieces -/

theorem visit_text (o : Options) (x : String) (i : Info) (w : Writer) :
    visit o (.leaf (.text x) i) w = .wrote (writeLines (Text.splitAt '\n' x.toList) w) :=
  rfl

theorem visitEach_singleton (o : Options) (n : Node) (w : Writer) :
    visitEach o id [n] w = visit o n w :=
  Step.andThen_pure _

/-- A line feed in a text does what a soft line break between two texts does. -/
theorem visit_text_newline (o : Options) (x y : String) (i j k l : Info) (w : Writer) :
    visit o (.leaf (.text (x ++ "\n" ++ y)) i) w =
      visitEach o id [.leaf (.text x) j, .leaf (.lineBreak true) k, .leaf (.text y) l] w := by
  have hcut : (x ++ "\n" ++ y).toList = x.toList ++ '\n' :: y.toList := by simp
  rw [visit_text, hcut, Text.splitAt_append_cons,
    wrote_writeLines_append (Text.splitAt_ne_nil _ _) (Text.splitAt_ne_nil _ _), visitEach_cons]
  congr 1
  funext v
  have hbreak : visit o (.leaf (.lineBreak true) k) v = .pure v.requestBreak := rfl
  rw [visitEach_cons, funext (visitEach_singleton o _), id, hbreak, Step.pure_andThen, visit_text]

/-- Two texts are written like the one they make up, unless the first ends in a space. -/
theorem near_visit_texts {x : String} (hx : x.toList.getLast? ≠ some ' ') (o : Options)
    (y : String) (i j k : Info) (w : Writer) :
    (visitEach o id [.leaf (.text x) j, .leaf (.text y) k] w).Near
      (visit o (.leaf (.text (x ++ y)) i) w) := by
  rw [visitEach_cons, funext (visitEach_singleton o _), visit_text, visit_text,
    String.toList_append]
  exact near_writeLines_splitAt hx y.toList w

/-! ## Trees in pieces -/

theorem near_visitImage {kind : Leaf} (hk : kind.isImage = true) :
    Related Writer.Near SameText (visitLeaf kind) (visitLeaf kind) := by
  rw [funext (visitImage_eq hk)]
  exact parallel_near.pure fun _ _ h =>
    h.map (f := fun w => { w with sawImage := w.sawImage || w.inLink }) (fun _ _ => rfl)
      fun _ => rfl

/-- Containers other than lists go side by side if their contents do. -/
theorem near_visit_contents {kind : Container} (hlist : kind.isList = false)
    (hc : Related Writer.Near SameText (visitEach o id ns) (visitEach o id ns')) (info : Info) :
    Related Writer.Near SameText (visit o (.container kind ns info))
      (visit o (.container kind ns' info)) := by
  cases hlink : kind.isLink with
  | false => exact parallel_near.visit_container hlink hlist hc info
  | true =>
    cases kind with
    | link url title => exact (crossing_near o).visitLink parallel_near parallel_near hc url title
    | _ => simp [Container.isLink] at hlink

/-- Containers go side by side if their children do in pairs. -/
theorem near_visit_children (kind : Container) (info : Info)
    (h : List.Forall₂ (fun n n' => Related Writer.Near SameText (visit o n) (visit o n')) ns ns') :
    Related Writer.Near SameText (visit o (.container kind ns info))
      (visit o (.container kind ns' info)) := by
  cases hlist : kind.isList with
  | false => exact near_visit_contents hlist (parallel_near.visitEach (fun _ _ => id) h) info
  | true =>
    cases kind with
    | list => exact parallel_near.visit_list (parallel_near.visitItems h) _ _ _ _
    | _ => simp [Container.isList] at hlist

/-- From states near each other a tree is written as the same text. -/
theorem near_visit (o : Options) (n : Node) :
    Related Writer.Near SameText (visit o n) (visit o n) := by
  induction n with
  | leaf kind info =>
    cases hk : kind.isImage with
    | false => exact parallel_near.visitLeaf hk
    | true => exact near_visitImage hk
  | container kind ns info ih => exact near_visit_children kind info (List.forall₂_same.2 ih)
  | table => exact parallel_near.drop _

theorem near_visitEach (o : Options) (ns : List Node) :
    Related Writer.Near SameText (visitEach o id ns) (visitEach o id ns) :=
  parallel_near.visitEach (fun _ _ => id) (List.forall₂_same.2 fun n _ => near_visit o n)

/-- Nodes between others may be exchanged for some that are written alike. -/
theorem near_visitEach_between (h : ∀ w, (visitEach o id ns w).Near (visitEach o id ns' w))
    (as bs : List Node) :
    Related Writer.Near SameText (visitEach o id (as ++ ns ++ bs))
      (visitEach o id (as ++ ns' ++ bs)) := by
  intro w v hwv
  rw [visitEach_append, visitEach_append, visitEach_append, visitEach_append]
  refine parallel_near.step_andThen ?_ (near_visitEach o bs)
  refine parallel_near.step_andThen (near_visitEach o as w v hwv) fun w v hwv => ?_
  exact Step.Near.trans (near_visitEach o ns w v hwv) (h v)

/-- A tree with one text cut in two is written like the tree. -/
theorem near_visit_of_cut (h : n.Cut m) :
    Related Writer.Near SameText (visit o n) (visit o m) := by
  induction h with
  | text as bs hlist hx =>
    apply near_visit_contents hlist
    apply near_visitEach_between
    intro w
    rw [visitEach_singleton]
    exact (near_visit_texts hx o _ _ _ _ w).symm
  | child as bs h ih =>
    have hsame : ∀ ns, List.Forall₂
        (fun n n' => Related Writer.Near SameText (visit o n) (visit o n')) ns ns :=
      fun ns => List.forall₂_same.2 fun n _ => near_visit o n
    apply near_visit_children
    exact List.rel_append (List.rel_append (hsame as) (.cons ih .nil)) (hsame bs)
  | head => exact parallel_near.drop _
  | row => exact parallel_near.drop _

theorem render_of_cut (o : Options) (h : n.Cut m) : render o n = render o m := by
  have hroot : m.isDocument = n.isDocument := by
    cases h with
    | text => exact Node.isDocument_container _ _ _ _ _
    | child => exact Node.isDocument_container _ _ _ _ _
    | head => rfl
    | row => rfl
  exact ((near_visit_of_cut h).render_eq hroot rfl (fun _ => .refl _) fun _ _ h => h).symm

/-- Recut trees are rendered alike. -/
theorem render_of_recut (o : Options) (h : n.Recut m) : render o n = render o m := by
  induction h with
  | rel n m h => exact render_of_cut o h
  | refl n => rfl
  | symm n m _ ih => exact ih.symm
  | trans n m l _ _ ih ih' => exact ih.trans ih'

/-- **Where a run of text is cut does not matter.** A line feed in a text does exactly what a soft
line break between two texts does. Two texts of which the first does not end in a space write what
the text they make up writes, and leave a state near the one it leaves. Hence trees that differ
only in where their runs of text are cut are rendered alike. -/
theorem text_in_pieces (o : Options) :
    (∀ (x y : String) (i j k l : Info) (w : Writer),
      visit o (.leaf (.text (x ++ "\n" ++ y)) i) w =
        visitEach o id [.leaf (.text x) j, .leaf (.lineBreak true) k, .leaf (.text y) l] w) ∧
    (∀ (x y : String) (i j k : Info) (w : Writer), x.toList.getLast? ≠ some ' ' →
      (visitEach o id [.leaf (.text x) j, .leaf (.text y) k] w).Near
        (visit o (.leaf (.text (x ++ y)) i) w)) ∧
    ∀ n m : Node, n.Recut m → render o n = render o m := by
  refine ⟨?_, ?_, ?_⟩
  · exact visit_text_newline o
  · exact fun x y i j k w hx => near_visit_texts hx o y i j k w
  · exact fun n m h => render_of_recut o h

/-- An underscore in a word is where a parser may cut a text. -/
theorem text_in_pieces_underscore :
    (visitEach ⟨"p", true⟩ id [.text "snake", .text "_case"] (.start true)).Near
        (visit ⟨"p", true⟩ (.text ("snake" ++ "_case")) (.start true)) ∧
      render ⟨"p", true⟩ (.document [.paragraph [.text ("snake" ++ "_case")]]) =
        render ⟨"p", true⟩ (.document [.paragraph [.text "snake", .text "_case"]]) := by
  have hspace : "snake".toList.getLast? ≠ some ' ' := by decide
  have hcut : Node.Cut (.document [.paragraph [.text ("snake" ++ "_case")]])
      (.document [.paragraph [.text "snake", .text "_case"]]) :=
    .child [] [] (.text [] [] rfl hspace)
  constructor
  · exact (text_in_pieces ⟨"p", true⟩).2.1 "snake" "_case" {} {} {} (.start true) hspace
  · exact (text_in_pieces ⟨"p", true⟩).2.2 _ _ (.rel _ _ hcut)

-- after a space the cut shows: the space that ends the first piece is lost
example : text (visitEach ⟨"p", true⟩ id [.text "a ", .text " b"] (.start false)).tokens ≠
    text (visit ⟨"p", true⟩ (.text ("a " ++ " b")) (.start false)).tokens := by
  decide

end Comment

end PackageDoc
