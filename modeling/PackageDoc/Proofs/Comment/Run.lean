import PackageDoc.Proofs.Comment.Moves

/-!
# What a run of the writer can do

Writing any tree is a run of moves. `Runs own w ts v` says that moves lead from `w` to `v` and add
the tokens `ts`, with words among `own`; it is the least relation that is closed under moves.

    (visit o n w).failure = none →
      Runs (WordOf n) w (visit o n w).tokens (visit o n w).writer      (runsFrom_visit)
-/

namespace PackageDoc.Comment

/-! ## Runs -/

/-- Moves of the writer lead from one state to another and add some tokens, whose words are the
period or among the given ones. -/
inductive Runs (own : List Char → Prop) : Writer → List Token → Writer → Prop
  | stay {w} : Runs own w [] w
  | write {w t} (h : own t) : Runs own w (write t w).1 (write t w).2
  | code {w ls} (hf : Framed ls) (h : ∀ l ∈ ls, own (indent ++ l)) :
      Runs own w (writeCode ls w).1 (writeCode ls w).2
  | close {w} (h : w.sentenceOpen = true) :
      Runs own w (closeSentence w).1 (closeSentence w).2
  | requestBreak {w} : Runs own w [] w.requestBreak
  | keepApart {w} : Runs own w [] w.keepApart
  | flags {w completing inLink sawImage} :
      Runs own w [] { w with completing, inLink, sawImage }
  | trans {u v w ts us} : Runs own u ts v → Runs own v us w → Runs own u (ts ++ us) w

variable {own : List Char → Prop} {u v w : Writer} {t : List Char} {ts us : List Token}

theorem Runs.mono {own' : List Char → Prop} (h : Runs own w ts v) (hown : ∀ t, own t → own' t) :
    Runs own' w ts v := by
  induction h with
  | stay => exact .stay
  | write h => exact .write (hown _ h)
  | code hf h => exact .code hf fun l hl => hown _ (h l hl)
  | close h => exact .close h
  | requestBreak => exact .requestBreak
  | keepApart => exact .keepApart
  | flags => exact .flags
  | trans _ _ ih₁ ih₂ => exact ih₁.trans ih₂

theorem Runs.requestParagraph : Runs own w [] w.requestParagraph :=
  Runs.requestBreak.trans .requestBreak

/-- A step is a run from a state, unless it failed. -/
def Step.RunsFrom (own : List Char → Prop) (w : Writer) (s : Step) : Prop :=
  s.failure = none → Runs own w s.tokens s.writer

/-! ## Trees -/

/-- Runs are closed under moves whose code is framed and made of the words allowed. -/
theorem closed_runs {code : List (List Char) → Prop}
    (h : ∀ ls, code ls → Framed ls ∧ ∀ l ∈ ls, own (indent ++ l)) :
    Closed own code (Runs own) where
  stay _ := .stay
  write _ _ ht := .write ht
  writeCode _ ls hls := .code (h ls hls).1 (h ls hls).2
  close _ ho := .close ho
  requestBreak _ := .requestBreak
  keepApart _ := .keepApart
  flags _ _ _ _ := .flags
  trans h₁ h₂ := h₁.trans h₂

/-- The lines of a code block are framed, and each is a word of it. -/
theorem Code.framed {m : Node} {ls : List (List Char)} (h : Code m ls) :
    Framed ls ∧ ∀ l ∈ ls, Word m (indent ++ l) := by
  cases h with
  | codeBlock => exact ⟨framed_codeLines _, fun _ hl => .codeBlock hl⟩

theorem runsFrom_visitLeaf {kind : Leaf} (info : Info) :
    (visitLeaf kind w).RunsFrom (Word (.leaf kind info)) w :=
  (closed_runs fun _ => Code.framed).visitLeaf w

theorem runsFrom_visitHeading {content : Writer → Step} (hc : ∀ v, (content v).RunsFrom own v)
    (w : Writer) : (visitHeading content w).RunsFrom own w :=
  (closed_runs fun _ => False.elim).joined.visitHeading hc w

theorem runsFrom_visitLink {o : Options} {url : String} {title : Option String}
    {content : Writer → Step} (hu : own (('(' :: url.toList) ++ [')']))
    (ht : ∀ t, title = some t → own t.toList) (hc : ∀ v, (content v).RunsFrom own v) (w : Writer) :
    (visitLink o url title content w).RunsFrom own w :=
  (closed_runs fun _ => False.elim).joined.visitLink hu ht hc w

theorem closed_runs_of_node (n : Node) : Closed (WordOf n) (CodeOf n) (Runs (WordOf n)) := by
  apply closed_runs
  rintro ls ⟨m, hm, h⟩
  exact ⟨h.framed.1, fun l hl => ⟨m, hm, h.framed.2 l hl⟩⟩

/-- Writing a tree is a run whose words are those of the tree. -/
theorem runsFrom_visit (o : Options) (n : Node) (w : Writer) :
    (visit o n w).RunsFrom (WordOf n) w :=
  (closed_runs_of_node n).visit o w

/-! ## Whole documents -/

theorem render_eq_ok_iff {o : Options} {n : Node} {s : String} :
    render o n = .ok s ↔ (visitRoot o n).failure = none ∧
      s = header o ++ String.ofList (text (visitRoot o n).tokens) ++ footer o := by
  unfold render
  cases h : (visitRoot o n).failure with
  | none => simp [h, eq_comm]
  | some kind => simp [h]

/-- Rendering a tree is a run from the opening words. -/
theorem runs_visitRoot {o : Options} {n : Node} (h : (visitRoot o n).failure = none) :
    Runs (WordOf n) (Writer.start n.isDocument) (visitRoot o n).tokens (visitRoot o n).writer :=
  runsFrom_visit o n _ h

end PackageDoc.Comment
