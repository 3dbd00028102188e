import Mathlib.Logic.Basic

/-!
# Outcomes

What a computation that can fail ends with. A condition on the result and one on the fault are
carried together through the steps of a computation, the last step first:

    Ends (x >>= f) Q P ↔ Ends x (fun a => Ends (f a) Q P) P                            (ends_bind)

A computation that also changes a state has a condition on the state before it, and one on its
result together with the state after it. The condition on what a reader of a text ends with is
mostly that it leaves a part at the end of the text.
-/

namespace PackageDoc

variable {ε α β : Type}

/-- A computation gives a result of one kind, or a fault of another. -/
def Ends (x : Except ε α) (Q : α → Prop) (P : ε → Prop) : Prop :=
  match x with
  | .ok a => Q a
  | .error e => P e

variable {x : Except ε α} {Q R : α → Prop} {P : ε → Prop}

instance [DecidablePred Q] [DecidablePred P] : Decidable (Ends x Q P) :=
  match x with
  | .ok a => inferInstanceAs (Decidable (Q a))
  | .error e => inferInstanceAs (Decidable (P e))

@[simp] theorem ends_ok {a : α} : Ends (.ok a) Q P ↔ Q a := .rfl

@[simp] theorem ends_pure {a : α} : Ends (pure a) Q P ↔ Q a := .rfl

@[simp] theorem ends_error {e : ε} : Ends (.error e : Except ε α) Q P ↔ P e := .rfl

@[simp] theorem ends_map {f : α → β} {Q : β → Prop} :
    Ends (x.map f) Q P ↔ Ends x (fun a => Q (f a)) P := by
  cases x <;> exact .rfl

theorem ends_bind {f : α → Except ε β} {Q : β → Prop} :
    Ends (x >>= f) Q P ↔ Ends x (fun a => Ends (f a) Q P) P := by
  cases x <;> exact .rfl

theorem ends_eq_error_iff {e : ε} : Ends x (fun _ => False) (· = e) ↔ x = .error e := by
  cases x <;> simp

theorem Ends.imp {P' : ε → Prop} (h : Ends x R P') (hRQ : ∀ a, R a → Q a)
    (hP : ∀ e, P' e → P e) : Ends x Q P := by
  cases x with
  | ok a => exact hRQ a h
  | error e => exact hP e h

theorem Ends.mono (h : Ends x R P) (hRQ : ∀ a, R a → Q a) : Ends x Q P := by
  cases x with
  | ok a => exact hRQ a h
  | error e => exact h

/-- One step after another: the first one is followed by whatever its result admits. -/
theorem Ends.bind {f : α → Except ε β} {Q : β → Prop} (h : Ends x R P)
    (hf : ∀ a, R a → Ends (f a) Q P) : Ends (x >>= f) Q P :=
  ends_bind.2 (h.mono hf)

theorem Ends.error {e : ε} (h : Ends x Q P) (he : x = .error e) : P e := by
  subst he
  exact h

theorem Ends.ok {a : α} (h : Ends x Q P) (ha : x = .ok a) : Q a := by
  subst ha
  exact h

theorem ends_ite {c : Prop} [Decidable c] {x y : Except ε α} (hx : c → Ends x Q P)
    (hy : ¬ c → Ends y Q P) : Ends (if c then x else y) Q P := by
  split
  · exact hx ‹_›
  · exact hy ‹_›

/-! ## Computations with a state -/

section State

variable {σ : Type} {E : ε → Prop} {I J : σ → Prop}

/-- From a state of one kind a computation gives a result and a state that fit each other, or a
fault of one kind. -/
def Leads (E : ε → Prop) (I : σ → Prop) (x : StateT σ (Except ε) α) (Q : α → σ → Prop) : Prop :=
  ∀ s, I s → Ends (x.run s) (fun r => Q r.1 r.2) E

variable {x y : StateT σ (Except ε) α} {f : α → StateT σ (Except ε) β} {Q R : α → σ → Prop}
  {S : β → σ → Prop}

theorem leads_pure {a : α} (h : ∀ s, I s → Q a s) : Leads E I (pure a) Q :=
  h

theorem leads_throw {e : ε} (h : E e) : Leads E I (throw e : StateT σ (Except ε) α) Q :=
  fun _ _ => h

theorem leads_set {s : σ} (h : J s) : Leads E I (set s : StateT σ (Except ε) PUnit) fun _ => J :=
  fun _ _ => h

theorem leads_modify {g : σ → σ} (h : ∀ s, I s → J (g s)) :
    Leads E I (modify g : StateT σ (Except ε) PUnit) fun _ => J :=
  h

theorem Leads.bind (hx : Leads E I x Q) (hf : ∀ a, Leads E (Q a) (f a) S) :
    Leads E I (x >>= f) S := by
  intro s hs
  rw [StateT.run_bind]
  exact (hx s hs).bind fun r hr => hf r.1 r.2 hr

/-- What is got is the state itself. -/
theorem leads_get_bind {f : σ → StateT σ (Except ε) β}
    (h : ∀ s, I s → Leads E (· = s) (f s) S) :
    Leads E I ((get : StateT σ (Except ε) σ) >>= f) S :=
  fun s hs => h s hs s rfl

/-- A computation without a state is done aside. -/
theorem leads_lift_bind {z : Except ε α} {P : α → Prop} (hz : ∀ s, I s → Ends z P E)
    (hf : ∀ a, P a → Leads E I (f a) S) :
    Leads E I ((liftM z : StateT σ (Except ε) α) >>= f) S := by
  intro s hs
  have h := hz s hs
  cases z with
  | ok a => exact hf a h s hs
  | error e => exact h

theorem Leads.mono (h : Leads E I x R) (hJ : ∀ s, J s → I s) (hQ : ∀ a s, R a s → Q a s) :
    Leads E J x Q :=
  fun s hs => (h s (hJ s hs)).mono fun r => hQ r.1 r.2

theorem leads_ite {c : Prop} [Decidable c] (hx : Leads E I x Q) (hy : Leads E I y Q) :
    Leads E I (if c then x else y) Q := by
  split
  · exact hx
  · exact hy

/-- Two ways to get something that the rest goes on with. -/
theorem leads_ite_bind {c : Prop} [Decidable c] (hx : Leads E I x Q) (hy : Leads E I y Q)
    (hf : ∀ a, Leads E (Q a) (f a) S) : Leads E I (if c then x >>= f else y >>= f) S :=
  leads_ite (hx.bind hf) (hy.bind hf)

/-- What every step of a loop carries over, the loop does. -/
theorem leads_foldlM {step : β → α → StateT σ (Except ε) β} {l : List α} {b : β}
    (h : ∀ b, ∀ a ∈ l, Leads E (S b) (step b a) S) :
    Leads E (S b) (l.foldlM step b) S := by
  induction l generalizing b with
  | nil => exact leads_pure fun _ hs => hs
  | cons a l ih =>
    rw [List.foldlM_cons]
    exact (h b a List.mem_cons_self).bind fun c =>
      ih fun b a ha => h b a (List.mem_cons_of_mem _ ha)

/-- What every step adds its result to, all of them add their results to. -/
theorem leads_mapM {step : α → StateT σ (Except ε) β} {l : List α} {K : List β → σ → Prop}
    (h : ∀ bs, ∀ a ∈ l, Leads E (K bs) (step a) fun b => K (bs ++ [b])) (bs : List β) :
    Leads E (K bs) (l.mapM step) fun new => K (bs ++ new) := by
  induction l generalizing bs with
  | nil => exact leads_pure fun _ hs => (List.append_nil bs).symm ▸ hs
  | cons a l ih =>
    rw [List.mapM_cons]
    refine (h bs a List.mem_cons_self).bind fun b => ?_
    refine (ih (fun bs a ha => h bs a (List.mem_cons_of_mem _ ha)) _).bind fun new => ?_
    refine leads_pure fun s hs => ?_
    rwa [List.append_assoc] at hs

end State

/-! ## Parts that are left -/

section Left

variable {c : Char} {s whole : List Char}

theorem suffix_of_cons (h : c :: s <:+ whole) : s <:+ whole :=
  (List.suffix_cons c s).trans h

theorem suffix_drop (h : s <:+ whole) (n : Nat) : s.drop n <:+ whole :=
  (List.drop_suffix n s).trans h

theorem suffix_dropWhile (h : s <:+ whole) (p : Char → Bool) : s.dropWhile p <:+ whole :=
  (List.dropWhile_suffix p).trans h

end Left

end PackageDoc
