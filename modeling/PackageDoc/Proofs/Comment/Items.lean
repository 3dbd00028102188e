import Mathlib.Data.List.Forall2
import PackageDoc.Proofs.Comment.Reach
import PackageDoc.Proofs.Deletion

/-!
# Items of a list

Whatever an item holds, it ends its line: its bullet has been written, and a break is requested
after its children. So the break before the next item makes up a blank comment line, and a list
leaves one requested.

    the items after the first write  ⟨breaks 2, bullet⟩ :: what their children write
                                                                      (visitEach_items)
    a list in two parts is two lists one after the other                  (visit_list_append)
    both, for a list of items in a state that can be reached               (visitList_layout)
-/

namespace PackageDoc.Comment

variable {o : Options} {u v w : Writer} {n : Node} {ns ms : List Node} {ts : List Token}

/-! ## Ends of lines -/

/-- Something has been written, and the next token begins a line of its own. -/
structure Writer.LineEnded (w : Writer) : Prop extends w.Sound where
  last_ne_nil : w.last ≠ []
  one_le_breaks : 1 ≤ w.breaks

/-- After something has been written a request ends the line. -/
theorem Writer.Sound.lineEnded_requestBreak (hw : w.Sound) (hlast : w.last ≠ []) :
    w.requestBreak.LineEnded := by
  refine ⟨hw.requestBreak, hlast, ?_⟩
  rw [hw.breaks_requestBreak hlast]
  exact le_min (Nat.le_add_left 1 _) (by decide)

namespace Writer.LineEnded

/-- A further request makes up a blank comment line. -/
theorem breaks_requestBreak (hw : w.LineEnded) : w.requestBreak.breaks = maxBreaks := by
  have hle := hw.breaks_le
  have hone := hw.one_le_breaks
  rw [hw.toSound.breaks_requestBreak hw.last_ne_nil, maxBreaks] at *
  omega

/-- Any request after that changes nothing. -/
theorem requestBreak_requestBreak (hw : w.LineEnded) :
    w.requestBreak.requestBreak = w.requestBreak := by
  have hfull : ¬ w.requestBreak.breaks < maxBreaks := by
    rw [hw.breaks_requestBreak]
    exact lt_irrefl _
  rw [Writer.requestBreak, decide_eq_false hfull, Bool.and_false, if_neg Bool.false_ne_true]
  rfl

/-- A bullet at the beginning of a further line is one token below a blank comment line. -/
theorem write_bullet (hw : w.LineEnded) :
    (write bullet w.requestBreak).1 = [⟨.breaks maxBreaks, bullet⟩] := by
  have hopen : w.requestBreak.sentenceOpen = false := hw.sentenceOpen_eq_false hw.last_ne_nil
  have hbreaks := hw.breaks_requestBreak
  rw [write_of_closed (by decide) hopen, put, Writer.gapBefore, hbreaks, if_pos (by decide)]

end Writer.LineEnded

/-! ## Items -/

/-- Tokens that the children of an item write once its bullet has been written. -/
def ItemBody (o : Options) (n : Node) (ts : List Token) : Prop :=
  ∃ v : Writer, v.last = bullet ∧ v.breaks = 0 ∧ ts = (visitEach o id n.children v).tokens

theorem write_bullet_snd (w : Writer) :
    (write bullet w).2.last = bullet ∧ (write bullet w).2.breaks = 0 := by
  rw [write_snd (by decide)]
  exact ⟨rfl, rfl⟩

theorem exists_of_isItem (h : n.isItem = true) : ∃ ns info, n = .container .listItem ns info := by
  cases n with
  | container kind ns info =>
    cases kind with
    | listItem => exact ⟨ns, info, rfl⟩
    | _ => simp [Node.isItem] at h
  | _ => simp [Node.isItem] at h

/-- An item writes its bullet and what its children write, and ends its line. -/
theorem visit_item (hitem : n.isItem = true) (hw : w.Sound) (hok : (visit o n w).failure = none) :
    (∃ ts, ItemBody o n ts ∧ (visit o n w).tokens = (write bullet w).1 ++ ts) ∧
      (visit o n w).writer.LineEnded := by
  obtain ⟨cs, info, rfl⟩ := exists_of_isItem hitem
  have hvisit : visit o (.container .listItem cs info) w =
      ((Step.wrote (write bullet w)).andThen (visitEach o id cs)).andThen fun v =>
        .pure v.requestBreak := rfl
  rw [hvisit, Step.failure_andThen, Step.failure_pure, Option.or_none] at hok
  have hcs : (visitEach o id cs (write bullet w).2).failure = none := by
    rwa [Step.failure_andThen, Step.failure_wrote, Option.none_or] at hok
  obtain ⟨hlast, hbreaks⟩ := write_bullet_snd w
  have hruns := runs_visitEach hcs
  have hne : (visitEach o id cs (write bullet w).2).writer.last ≠ [] := by
    intro hnil
    rw [(hruns.last_eq_nil.1 hnil).1] at hlast
    exact absurd hlast (by decide)
  rw [hvisit, Step.andThen_pure_of_ok hok, Step.tokens_adjust, Step.writer_adjust,
    Step.andThen_of_ok rfl]
  refine ⟨⟨_, ⟨_, hlast, hbreaks, rfl⟩, rfl⟩, ?_⟩
  exact (hruns.sound hw.write).lineEnded_requestBreak hne

/-- Items below others each write a bullet on a fresh line and what their children write. -/
theorem visitEach_items (hitem : ∀ n ∈ ns, n.isItem = true) (hw : w.LineEnded)
    (hok : (visitEach o Writer.requestBreak ns w).failure = none) :
    (∃ bs, List.Forall₂ (ItemBody o) ns bs ∧
      (visitEach o Writer.requestBreak ns w).tokens =
        bs.flatMap fun b => ⟨.breaks maxBreaks, bullet⟩ :: b) ∧
      (visitEach o Writer.requestBreak ns w).writer.LineEnded := by
  -- each item finds the line ended by the one before it
  induction ns generalizing w with
  | nil => exact ⟨⟨[], .nil, rfl⟩, hw⟩
  | cons n ns ih =>
    obtain ⟨hn, hns⟩ := List.forall_mem_cons.1 hitem
    rw [visitEach_cons, Step.failure_andThen, Option.or_eq_none_iff] at hok
    obtain ⟨⟨b, hb, htokens⟩, hended⟩ := visit_item hn hw.toSound.requestBreak hok.1
    obtain ⟨⟨bs, hbs, hrest⟩, hlast⟩ := ih hns hended hok.2
    rw [visitEach_cons, Step.andThen_of_ok hok.1]
    refine ⟨⟨b :: bs, .cons hb hbs, ?_⟩, hlast⟩
    dsimp only
    rw [htokens, hw.write_bullet, hrest]
    rfl

theorem visitItems_items (hitem : ∀ m ∈ n :: ns, m.isItem = true) (hw : w.Sound)
    (hok : (visitItems o (n :: ns) w).failure = none) :
    (∃ b bs, List.Forall₂ (ItemBody o) (n :: ns) (b :: bs) ∧
      (visitItems o (n :: ns) w).tokens = (write bullet w).1 ++ b ++
        bs.flatMap fun b => ⟨.breaks maxBreaks, bullet⟩ :: b) ∧
      (visitItems o (n :: ns) w).writer.LineEnded := by
  obtain ⟨hn, hns⟩ := List.forall_mem_cons.1 hitem
  rw [visitItems, Step.failure_andThen, Option.or_eq_none_iff] at hok
  obtain ⟨⟨b, hb, htokens⟩, hended⟩ := visit_item hn hw hok.1
  obtain ⟨⟨bs, hbs, hrest⟩, hlast⟩ := visitEach_items hns hended hok.2
  rw [visitItems, Step.andThen_of_ok hok.1]
  refine ⟨⟨b, bs, .cons hb hbs, ?_⟩, hlast⟩
  dsimp only
  rw [htokens, hrest]

/-! ## Lists -/

theorem visit_list (o : Options) (ordered : Bool) (start : Int) (tight : Bool) (ns : List Node)
    (info : Info) (w : Writer) :
    visit o (.container (.list ordered start tight) ns info) w =
      (visitItems o ns w).andThen fun v => .pure v.requestBreak :=
  rfl

theorem visitItems_append (hne : ns ≠ []) (ms : List Node) (w : Writer) :
    visitItems o (ns ++ ms) w =
      (visitItems o ns w).andThen (visitEach o Writer.requestBreak ms) := by
  obtain ⟨n, ns, rfl⟩ := List.exists_cons_of_ne_nil hne
  rw [List.cons_append, visitItems, visitItems, Step.andThen_assoc]
  congr 1
  funext v
  exact visitEach_append o _ ns ms v

/-- Further items are a list of their own below the break that ends the list before them. -/
theorem visitEach_andThen_requestBreak (hv : v.LineEnded) (ms : List Node) :
    ((visitEach o Writer.requestBreak ms v).andThen fun v => .pure v.requestBreak) =
      (visitItems o ms v.requestBreak).andThen fun v => .pure v.requestBreak := by
  cases ms with
  | nil =>
    show Step.pure v.requestBreak = Step.pure v.requestBreak.requestBreak
    rw [hv.requestBreak_requestBreak]
  | cons => rfl

/-- A list in two parts, of which the first has items, is two lists one after the other. -/
theorem visit_list_append (hw : w.Sound) (hne : ns ≠ []) (hitem : ∀ n ∈ ns, n.isItem = true)
    (ms : List Node) (ordered : Bool) (start : Int) (tight : Bool) (info : Info) :
    visit o (.container (.list ordered start tight) (ns ++ ms) info) w =
      (visit o (.container (.list ordered start tight) ns info) w).andThen
        (visit o (.container (.list ordered start tight) ms info)) := by
  rw [visit_list, visit_list, visitItems_append hne, Step.andThen_assoc, Step.andThen_assoc]
  cases hf : (visitItems o ns w).failure with
  | some kind => rw [Step.andThen_of_failure hf, Step.andThen_of_failure hf]
  | none =>
    have hended : (visitItems o ns w).writer.LineEnded := by
      obtain ⟨n, ns, rfl⟩ := List.exists_cons_of_ne_nil hne
      exact (visitItems_items hitem hw hf).2
    rw [Step.andThen_of_ok hf, Step.andThen_of_ok hf, visitEach_andThen_requestBreak hended,
      Step.pure_andThen, visit_list]

/-- The tokens of a first bullet: the bullet, and before it the period if the sentence is open. -/
theorem write_bullet_cases (w : Writer) :
    ∃ opening gap, (write bullet w).1 = opening ++ [⟨gap, bullet⟩] ∧
      (opening = [] ∨ w.sentenceOpen = true ∧ opening = (closeSentence w).1) := by
  rcases write_cases (t := bullet) (by decide) w with h | ⟨ho, -, h⟩
  · exact ⟨[], _, by rw [h]; rfl, .inl rfl⟩
  · exact ⟨_, _, by rw [h]; rfl, .inr ⟨ho, rfl⟩⟩

/-- **Items are laid out below each other.** Let a list of items be met in a state that can be
reached. If it can be written it writes one bullet for each item, in order, and after it what the
children of the item write. The first bullet may have the period before it, and each of the others
stands on a fresh comment line below a bare one. A blank comment line is requested after the list.
Whether it can be written or not, a list in two parts is written like two lists. -/
theorem visitList_layout (hw : w.Reachable) (hne : ns ≠ []) (hitem : ∀ n ∈ ns, n.isItem = true)
    (o : Options) (ordered : Bool) (start : Int) (tight : Bool) (info : Info) :
    let s := visit o (.container (.list ordered start tight) ns info) w
    (s.failure = none →
      (∃ opening gap b bs, List.Forall₂ (ItemBody o) ns (b :: bs) ∧
        (opening = [] ∨ w.sentenceOpen = true ∧ opening = (closeSentence w).1) ∧
        s.tokens = opening ++ ⟨gap, bullet⟩ :: b ++ bs.flatMap (⟨.breaks 2, bullet⟩ :: ·) ∧
        text s.tokens = text (opening ++ ⟨gap, bullet⟩ :: b) ++
          bs.flatMap fun b => "\n//\n// • ".toList ++ text b) ∧
      s.writer.breaks = 2) ∧
    ∀ ms, visit o (.container (.list ordered start tight) (ns ++ ms) info) w =
      s.andThen (visit o (.container (.list ordered start tight) ms info)) := by
  refine ⟨fun hok => ?_, fun ms => visit_list_append hw.sound hne hitem ms _ _ _ _⟩
  obtain ⟨n, ns, rfl⟩ := List.exists_cons_of_ne_nil hne
  have hitems : (visitItems o (n :: ns) w).failure = none := by
    rwa [visit_list, Step.failure_andThen, Step.failure_pure, Option.or_none] at hok
  obtain ⟨⟨b, bs, hbs, htokens⟩, hended⟩ := visitItems_items hitem hw.sound hitems
  obtain ⟨opening, gap, hbullet, hopening⟩ := write_bullet_cases w
  have hsplit : (visitItems o (n :: ns) w).tokens =
      opening ++ ⟨gap, bullet⟩ :: b ++ bs.flatMap (⟨.breaks 2, bullet⟩ :: ·) := by
    rw [htokens, hbullet, List.append_assoc opening]
    rfl
  have htext : text (bs.flatMap (⟨.breaks 2, bullet⟩ :: ·)) =
      bs.flatMap fun b => "\n//\n// • ".toList ++ text b := by
    unfold text
    rw [List.flatMap_assoc]
    rfl
  rw [visit_list, Step.andThen_pure_of_ok hitems, Step.tokens_adjust, Step.writer_adjust]
  refine ⟨⟨opening, gap, b, bs, hbs, hopening, hsplit, ?_⟩, hended.breaks_requestBreak⟩
  rw [hsplit, text_append, htext]

/-- Items of which one ends with a list of its own, one is empty, and one ends in a space. -/
def nestedItems : List Node :=
  [.container .listItem [.paragraph [.text "a"],
      .container (.list true 1 true) [.container .listItem [] {}] {}] {},
    .container .listItem [] {}, .container .listItem [.text "b "] {}]

theorem visitList_layout_nestedItems :
    (Writer.start true).Reachable ∧ nestedItems ≠ [] ∧ (∀ n ∈ nestedItems, n.isItem = true) ∧
    let s := visit {} (.container (.list false 1 true) nestedItems {}) (.start true)
    s.failure = none ∧
      (∃ opening gap b bs, List.Forall₂ (ItemBody {}) nestedItems (b :: bs) ∧
        s.tokens = opening ++ ⟨gap, bullet⟩ :: b ++ bs.flatMap (⟨.breaks 2, bullet⟩ :: ·)) ∧
      text s.tokens = " .\n//\n// • a\n//\n// • \n//\n// • \n//\n// • b".toList ∧
      s.writer.breaks = 2 := by
  have hreach := reachable_start true
  have hne : nestedItems ≠ [] := by simp [nestedItems]
  have hitem : ∀ n ∈ nestedItems, n.isItem = true := by decide
  have hok : (visit {} (.container (.list false 1 true) nestedItems {}) (.start true)).failure =
      none := rfl
  obtain ⟨⟨opening, gap, b, bs, hbs, -, htokens, -⟩, hbreaks⟩ :=
    (visitList_layout hreach hne hitem {} false 1 true {}).1 hok
  exact ⟨hreach, hne, hitem, hok, ⟨opening, gap, b, bs, hbs, htokens⟩, by decide, hbreaks⟩

end PackageDoc.Comment
