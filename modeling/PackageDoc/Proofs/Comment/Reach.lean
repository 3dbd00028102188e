import PackageDoc.Proofs.Comment.Draft

/-!
# States that can be reached

A visit meets a node in a state that moves of the writer lead to from the opening words.
`Reaches ts w` says so of a state, together with the tokens that the moves have written; where
visits have failed these need not all have been kept, and a state is reachable if there are any.

    the writer of every draft is reachable, whether visits failed or not     (reachable_visits)
    Reaches ts w → w.last is the word of the last token of ts                  (Reaches.last_eq)
-/

namespace PackageDoc.Comment

/-- Moves lead from the opening words to a state, and have written some tokens. -/
def Reaches (ts : List Token) (w : Writer) : Prop :=
  ∃ sentenceOpen, Runs (fun _ => True) (.start sentenceOpen) ts w

/-- A state that moves lead to from the opening words. -/
def Writer.Reachable (w : Writer) : Prop :=
  ∃ ts, Reaches ts w

variable {own : List Char → Prop} {o : Options} {u v w : Writer} {ts us : List Token} {n : Node}
  {ns : List Node}

theorem reaches_start (sentenceOpen : Bool) : Reaches [] (.start sentenceOpen) :=
  ⟨sentenceOpen, .stay⟩

theorem Reaches.trans (h : Reaches ts w) (h' : Runs own w us v) : Reaches (ts ++ us) v := by
  obtain ⟨sentenceOpen, hruns⟩ := h
  exact ⟨sentenceOpen, hruns.trans (h'.mono fun _ _ => trivial)⟩

theorem Reaches.sound (h : Reaches ts w) : w.Sound := by
  obtain ⟨sentenceOpen, hruns⟩ := h
  exact hruns.sound (sound_start sentenceOpen)

/-- A visit that does not fail writes on. -/
theorem Reaches.visit (h : Reaches ts w) (hok : (visit o n w).failure = none) :
    Reaches (ts ++ (visit o n w).tokens) (visit o n w).writer :=
  h.trans (runsFrom_visit o n w hok)

/-- Nodes that can be written one after another are a run. -/
theorem runs_visitEach (hok : (visitEach o id ns w).failure = none) :
    Runs (fun _ => True) w (visitEach o id ns w).tokens (visitEach o id ns w).writer := by
  have hclosed : Closed (fun _ => True) Framed (Runs fun _ => True) :=
    closed_runs fun _ hls => ⟨hls, fun _ _ => trivial⟩
  refine hclosed.joined.visitEach hclosed.stay (fun n _ v hn => ?_) w hok
  exact (runsFrom_visit o n v hn).mono fun _ _ => trivial

/-! ## Reachable states -/

theorem reachable_start (sentenceOpen : Bool) : (Writer.start sentenceOpen).Reachable :=
  ⟨[], reaches_start sentenceOpen⟩

theorem Writer.Reachable.sound (h : w.Reachable) : w.Sound := by
  obtain ⟨ts, hts⟩ := h
  exact hts.sound

theorem Writer.Reachable.leadsTo (h : w.Reachable) (h' : w.LeadsTo v) : v.Reachable := by
  obtain ⟨ts, hts⟩ := h
  obtain ⟨us, hus⟩ := h'.runs
  exact ⟨ts ++ us, hts.trans hus⟩

/-- Whatever nodes are visited one after another, and whether the visits fail or not, the writer
is in a state that can be reached. -/
theorem reachable_visits (o : Options) (ns : List Node) :
    ((Draft.start o).visits o ns).writer.Reachable := by
  induction ns using List.reverseRecOn with
  | nil => exact reachable_start true
  | append_singleton ns n ih =>
    rw [Draft.visits_concat]
    exact ih.leadsTo (leads_visit o n _)

/-! ## The word written last -/

/-- The word written last after some tokens, given the one before them. -/
def lastWord (last : List Char) (ts : List Token) : List Char :=
  ts.getLast?.elim last Token.text

theorem lastWord_append (last : List Char) (ts us : List Token) :
    lastWord last (ts ++ us) = lastWord (lastWord last ts) us := by
  unfold lastWord
  rw [List.getLast?_append]
  cases us.getLast? <;> rfl

theorem last_write (t : List Char) (w : Writer) :
    (write t w).2.last = lastWord w.last (write t w).1 := by
  by_cases ht : t = []
  · rw [ht, write_nil]
    rfl
  · rcases write_cases ht w with h | ⟨-, -, h⟩
    · rw [h]
      rfl
    · rw [h, lastWord_append]
      rfl

theorem last_writeCode (ls : List (List Char)) (w : Writer) :
    (writeCode ls w).2.last = lastWord w.last (writeCode ls w).1 := by
  induction ls generalizing w with
  | nil => rfl
  | cons l rest ih =>
    by_cases hl : l = []
    · rw [hl, writeCode_nil_cons]
      exact ih _
    · rw [writeCode_cons hl, lastWord_append, ← last_write]
      exact ih _

/-- A run leaves the word of its last token as the one written last. -/
theorem Runs.last_eq (h : Runs own w ts v) : v.last = lastWord w.last ts := by
  induction h with
  | stay => rfl
  | write => exact last_write _ _
  | code => exact last_writeCode _ _
  | close => rfl
  | requestBreak => rfl
  | keepApart => rfl
  | flags => rfl
  | trans _ _ ih₁ ih₂ => rw [ih₂, ih₁, lastWord_append]

theorem Reaches.last_eq (h : Reaches ts w) : w.last = lastWord [] ts := by
  obtain ⟨sentenceOpen, hruns⟩ := h
  exact hruns.last_eq

theorem lastWord_concat (last : List Char) (ts : List Token) (k : Token) :
    lastWord last (ts ++ [k]) = k.text :=
  lastWord_append last ts [k]

theorem lastWord_eq_nil (h : ∀ k ∈ ts, k.Proper) : lastWord [] ts = [] ↔ ts = [] := by
  induction ts using List.reverseRecOn with
  | nil => exact iff_of_true rfl rfl
  | append_singleton ts k =>
    rw [lastWord_concat]
    exact iff_of_false (h k (by simp)).text_ne_nil (by simp)

/-- What is written ends with the last token, so it ends as its word does. -/
theorem getLast?_text (h : ∀ k ∈ ts, k.Proper) :
    (text ts).getLast? = (lastWord [] ts).getLast? := by
  induction ts using List.reverseRecOn with
  | nil => rfl
  | append_singleton ts k =>
    have hk : k.text ≠ [] := (h k (by simp)).text_ne_nil
    rw [lastWord_concat, text_append, text_cons, text_nil, List.append_nil, ← List.append_assoc,
      List.getLast?_append_of_ne_nil _ hk]

theorem Reaches.proper_of_mem (h : Reaches ts w) {k : Token} (hk : k ∈ ts) : k.Proper := by
  obtain ⟨sentenceOpen, hruns⟩ := h
  exact (hruns.proper_of_mem hk).1

/-- The text of what has been written ends as the word written last does. -/
theorem Reaches.getLast?_text (h : Reaches ts w) : (text ts).getLast? = w.last.getLast? := by
  rw [h.last_eq]
  exact Comment.getLast?_text fun k hk => h.proper_of_mem hk

end PackageDoc.Comment
