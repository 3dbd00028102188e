import Mathlib.Data.Finset.Card
import Mathlib.Data.List.Nodup
import Mathlib.Logic.Function.Iterate
import PackageDoc.Proofs.Yaml.Composing
import PackageDoc.Proofs.Yaml.Merging
import PackageDoc.Yaml.Value

/-!
# Faults of values

A text that is well formed can still have no value: the text of a scalar in it need not be one under
a tag. Behind every fault of loading but that the text is malformed there is such a scalar, a number
that is too long, an escape beyond the last code point, or a mapping that stands for its own text.
The values themselves are made completely: every collection that is begun is filled.

    load s = .error f → f = .malformed ∨ Valueless s f                       (valueless_of_load)
-/

namespace PackageDoc.Yaml

/-! ## Texts of nodes -/

namespace Graph

variable {g g₀ : Graph} {id n : Nat}

theorem lt_of_standIn? {value : Nat} (h : g.standIn? id = some value) : id < g.length := by
  unfold standIn? fields? at h
  cases hn : g[id]? with
  | none =>
    rw [hn] at h
    cases h
  | some n => exact (List.getElem?_eq_some_iff.1 hn).1

/-- The node that stands for a node after so many steps. -/
def standIn (g : Graph) (id n : Nat) : Option Nat :=
  (Option.bind · g.standIn?)^[n] (some id)

theorem standIn_succ (id n : Nat) :
    g.standIn id (n + 1) = (g.standIn id n).bind g.standIn? :=
  Function.iterate_succ_apply' _ _ _

theorem standIn_add (id m n : Nat) :
    g.standIn id (m + n) = (Option.bind · g.standIn?)^[m] (g.standIn id n) :=
  Function.iterate_add_apply _ _ _ _

theorem isSome_standIn_of_le {m : Nat} (h : (g.standIn id n).isSome) (hm : m ≤ n) :
    (g.standIn id m).isSome := by
  induction n with
  | zero =>
    obtain rfl := Nat.eq_zero_of_le_zero hm
    exact h
  | succ n ih =>
    rcases Nat.lt_or_ge n m with hlt | hge
    · obtain rfl := Nat.le_antisymm hm hlt
      exact h
    · refine ih ?_ hge
      rw [standIn_succ] at h
      cases hn : g.standIn id n with
      | none =>
        rw [hn] at h
        cases h
      | some m => rfl

/-- A text is not found in so many steps if there is a node after each of them. -/
theorem textWithin_eq_tooDeep_iff :
    g.textWithin n id = .error .tooDeep ↔ (g.standIn id n).isSome := by
  induction n generalizing id with
  | zero => exact iff_of_true rfl rfl
  | succ n ih =>
    have hstep : g.standIn id (n + 1) = (Option.bind · g.standIn?)^[n] (g.standIn? id) := rfl
    unfold textWithin
    rw [hstep]
    cases h : g.standIn? id with
    | some value => exact ih
    | none =>
      rw [Function.iterate_fixed rfl]
      dsimp only
      split <;> simp

/-- Nodes that come to one node twice come to one again and again. -/
theorem isSome_standIn_of_eq {i j : Nat} (hij : i < j) (heq : g.standIn id i = g.standIn id j)
    (hj : (g.standIn id j).isSome) (n : Nat) : (g.standIn id n).isSome := by
  induction n using Nat.strongRecOn with
  | _ n ih =>
    rcases Nat.le_total n j with hn | hn
    · exact isSome_standIn_of_le hj hn
    · obtain ⟨m, rfl⟩ := Nat.exists_eq_add_of_le' hn
      rw [standIn_add, ← heq, ← standIn_add]
      exact ih (m + i) (by omega)

/-- A text that is not found in the steps that there are is not found at all: some node stands for
itself. -/
theorem textWithin_of_text (h : g.text id = .error .tooDeep) (n : Nat) :
    g.textWithin n id = .error .tooDeep := by
  have hall := textWithin_eq_tooDeep_iff.1 h
  have hnode : ∀ i ≤ g.length, ∃ v < g.length, g.standIn id i = some v := by
    intro i hi
    have hsome := isSome_standIn_of_le hall (Nat.succ_le_succ hi)
    rw [standIn_succ] at hsome
    obtain ⟨w, hw⟩ := Option.isSome_iff_exists.1 hsome
    obtain ⟨v, hv, hvw⟩ := Option.bind_eq_some_iff.1 hw
    exact ⟨v, lt_of_standIn? hvw, hv⟩
  -- there are more steps than nodes, so two of them come to the same node
  obtain ⟨i, hi, j, hj, hne, heq⟩ := Finset.exists_ne_map_eq_of_card_lt_of_maps_to
    (s := Finset.range (g.length + 1)) (t := Finset.range g.length)
    (f := fun i => (g.standIn id i).getD 0) (by simp) (by
      intro i hi
      obtain ⟨v, hv, hiv⟩ := hnode i (by simpa [Nat.lt_succ_iff] using hi)
      simpa [hiv] using hv)
  obtain ⟨v, -, hv⟩ := hnode i (Nat.lt_succ_iff.1 (Finset.mem_range.1 hi))
  obtain ⟨w, -, hw⟩ := hnode j (Nat.lt_succ_iff.1 (Finset.mem_range.1 hj))
  have hsame : g.standIn id i = g.standIn id j := by simpa [hv, hw] using heq
  rw [textWithin_eq_tooDeep_iff]
  rcases Nat.lt_or_gt_of_ne hne with hlt | hlt
  · exact isSome_standIn_of_eq hlt hsame (by simp [hw]) n
  · exact isSome_standIn_of_eq hlt hsame.symm (by simp [hv]) n

end Graph

/-! ## Scalars -/

/-- Only truth values, numbers and dates make demands on the text of a node, apart from the tags
that no text has a value under. -/
theorem tag_of_scalarValue_error {tag : Tag} {s : List Char} {f : Fault}
    (h : scalarValue tag s = .error f) (hf : f ≠ .malformed) :
    tag ∈ [Tag.bool, .int, .float, .timestamp] := by
  have hbinary : ∀ g, binary s = .error g → g = .malformed := by
    intro g hg
    unfold binary at hg
    split at hg
    · exact (Except.error.inj hg).symm
    · split at hg
      · cases hg
      · exact (Except.error.inj hg).symm
  cases tag
  case binary => exact absurd (hbinary f h) hf
  all_goals first | decide | cases h
  all_goals exact absurd rfl hf

/-- Something in a graph has no value: a text under a tag, a mapping as a date, or a mapping where a
text is wanted and the node that stands for it is the mapping itself, in the end. -/
inductive Unfit (g : Graph) : Fault → Prop
  | scalar {m n : Node} {s : List Char} {f : Fault} (hm : m ∈ g) (hn : n ∈ g)
    (hs : n.content = .scalar s) (htag : m.tag ∈ [Tag.bool, .int, .float, .timestamp])
    (hf : scalarValue m.tag s = .error f) : Unfit g f
  | date {m : Node} (hm : m ∈ g) (htag : m.tag = .timestamp) (hfields : m.fields?.isSome) :
    Unfit g .noText
  | endless {g' : Graph} {id : Nat} (hg : g.Stems g')
    (h : ∀ n, g'.textWithin n id = .error .tooDeep) : Unfit g .tooDeep

/-- The faults that making values of a graph can come to. -/
def Spoils (g : Graph) (f : Fault) : Prop :=
  f = .malformed ∨ Unfit g f

namespace Graph

variable {g g₀ : Graph} {id : Nat} {n : Node}

theorem Stems.mem (h : Stems g₀ g) (hn : g[id]? = some n) : ∃ n₀ ∈ g₀, n₀.Stems n := by
  obtain ⟨n₀, hn₀, hs⟩ := h.node hn
  exact ⟨n₀, List.mem_of_getElem? hn₀, hs⟩

/-- A text that is found is that of a scalar. -/
theorem ends_textWithin (h : Stems g₀ g) (k id : Nat) : Ends (g.textWithin k id)
    (fun s => ∃ n ∈ g₀, n.content = .scalar s) (fun f => f = .malformed ∨ f = .tooDeep) := by
  induction k generalizing id with
  | zero => exact .inr rfl
  | succ k ih =>
    unfold textWithin
    split
    · exact ih _
    · split
      · rename_i tag s hn
        obtain ⟨n₀, hn₀, hs⟩ := h.mem hn
        exact ⟨n₀, hn₀, hs.scalar s rfl⟩
      · exact .inl rfl

theorem ends_text (h : Stems g₀ g) (id : Nat) :
    Ends (g.text id) (fun s => ∃ n ∈ g₀, n.content = .scalar s) (Spoils g₀) := by
  have hends := ends_textWithin h (g.length + 1) id
  cases htext : g.text id with
  | ok s => exact hends.ok htext
  | error f =>
    rcases hends.error htext with rfl | rfl
    · exact .inl rfl
    · exact .inr (.endless h (textWithin_of_text htext))

theorem ends_atom (h : Stems g₀ g) (hn : g[id]? = some n) :
    Ends (g.atom id n) (fun _ => True) (Spoils g₀) := by
  obtain ⟨n₀, hn₀, hstems⟩ := h.mem hn
  -- a tag that makes demands is the one that the node had
  have htag : n.tag ≠ .text → n.tag = n₀.tag := fun hne =>
    hstems.tag.resolve_right fun hvalue => hne hvalue.2
  refine (ends_text h id).bind ?_
  rintro s ⟨m, hm, hs⟩
  split
  · rename_i hdate
    obtain ⟨hstamp, hfields⟩ := Bool.and_eq_true_iff.1 hdate
    have hstamp : n.tag = .timestamp := of_decide_eq_true hstamp
    have hne : n.tag ≠ .text := by
      rw [hstamp]
      decide
    exact .inr (.date hn₀ ((htag hne).symm.trans hstamp) (hstems.mapping hfields))
  · cases hvalue : scalarValue n.tag s with
    | ok v => trivial
    | error f =>
      by_cases hf : f = .malformed
      · exact .inl hf
      · have hdemands := tag_of_scalarValue_error hvalue hf
        have hne : n.tag ≠ .text := by
          intro heq
          rw [heq] at hdemands
          exact absurd hdemands (by decide)
        rw [htag hne] at hdemands hvalue
        exact .inr (.scalar hn₀ hm hs hdemands hvalue)

theorem ends_begin (h : Stems g₀ g) (id : Nat) : Ends (g.begin id)
    (fun m => id < g₀.length ∧ ∀ c ∈ m.collections, c = id) (Spoils g₀) := by
  unfold Graph.begin
  split
  · rename_i n hn
    have hid : id < g₀.length := h.length ▸ (List.getElem?_eq_some_iff.1 hn).1
    split
    · exact ends_map.2 ((ends_atom h hn).mono fun _ _ => ⟨hid, fun _ hc => (nomatch hc)⟩)
    · split
      · exact ⟨hid, fun _ hc => List.mem_singleton.1 hc⟩
      · exact .inl rfl
  · exact .inl rfl

end Graph

/-! ## Making values -/

/-- The collections that fill another one. -/
def Filling.collections : Filling → List Nat
  | .list items => items.flatMap Made.collections
  | .pairs items => items.flatMap fun p => p.1.collections ++ p.2.collections
  | .map fields => fields.flatMap fun field => field.2.collections
  | .set fields => fields.flatMap fun field => field.2.collections

/-- The collections that were begun: those that are filled, those that are filled now, and those
that wait for it. -/
def Building.begun (b : Building) (now : List Nat) : List Nat :=
  b.filled.map Prod.fst ++ now ++ b.waiting

/-- What holds of what was made of a graph while some collections are filled, once so many are.
Every collection was begun once, and so were those that are known to fill others. -/
structure Building.Sound (g : Graph) (now : List Nat) (count : Nat) (known : List Nat)
    (b : Building) : Prop where
  stems : g.Stems b.graph
  length_filled : b.filled.length = count
  nodup : (b.begun now).Nodup
  lt : ∀ id ∈ b.begun now, id < g.length
  made : ∀ id ∈ b.begun now, (b.made.lookup id).isSome
  begun : ∀ id m, b.made.lookup id = some m → m.collections ⊆ b.begun now
  closed : ∀ entry ∈ b.filled, entry.2.collections ⊆ b.begun now
  known : known ⊆ b.begun now

/-- A step of making values goes wrong by a fault of the graph, or leaves everything in order. The
collections in its result have begun then. -/
abbrev Makes (g : Graph) (now : List Nat) (count : Nat) (known : List Nat) {α : Type}
    (x : Builder α) (held : α → List Nat) : Prop :=
  Leads (Spoils g) (Building.Sound g now count known) x fun a =>
    Building.Sound g now count (known ++ held a)

section Makes

variable {g : Graph} {now known : List Nat} {count : Nat} {b : Building} {α β : Type}

theorem Building.Sound.mono {known' : List Nat} (h : b.Sound g now count known)
    (hsub : known' ⊆ known) : b.Sound g now count known' :=
  { h with known := List.Subset.trans hsub h.known }

/-- Something new is made of a node, and waits to be filled if it is a collection. -/
theorem Building.Sound.add {id : Nat} {m : Made} (h : b.Sound g now count known)
    (hid : id < g.length) (hm : ∀ c ∈ m.collections, c = id)
    (hnone : b.made.lookup id = none) :
    Building.Sound g now count (known ++ m.collections)
      { b with made := (id, m) :: b.made, waiting := b.waiting ++ m.collections } := by
  have hbegun : Building.begun { b with
      made := (id, m) :: b.made
      waiting := b.waiting ++ m.collections } now = b.begun now ++ m.collections :=
    (List.append_assoc _ _ _).symm
  have hnew : id ∉ b.begun now := by
    intro hmem
    have hsome := h.made id hmem
    rw [hnone] at hsome
    cases hsome
  have hold {j : Nat} (hj : j ≠ id) : ((id, m) :: b.made).lookup j = b.made.lookup j := by
    simp [List.lookup_cons, beq_false_of_ne hj]
  refine ⟨h.stems, h.length_filled, ?_, ?_, ?_, ?_, ?_, ?_⟩
  all_goals rw [hbegun]
  · refine List.nodup_append'.2 ⟨h.nodup, ?_, fun c hc hcm => hnew (hm c hcm ▸ hc)⟩
    cases m with
    | atom a => exact List.nodup_nil
    | collection c => exact List.nodup_singleton c
  · intro c hc
    rcases List.mem_append.1 hc with hc | hc
    · exact h.lt c hc
    · rw [hm c hc]
      exact hid
  · intro c hc
    by_cases hcid : c = id
    · rw [hcid]
      simp
    · rw [hold hcid]
      exact h.made c ((List.mem_append.1 hc).resolve_right fun hcm => hcid (hm c hcm))
  · intro j m' hj
    by_cases hjid : j = id
    · rw [hjid, List.lookup_cons_self] at hj
      obtain rfl := Option.some.inj hj
      exact List.subset_append_right _ _
    · rw [hold hjid] at hj
      exact List.subset_append_of_subset_left _ (h.begun j m' hj)
  · exact fun entry hentry => List.subset_append_of_subset_left _ (h.closed entry hentry)
  · exact List.append_subset.2
      ⟨List.subset_append_of_subset_left _ h.known, List.subset_append_right _ _⟩

theorem makes_make (id : Nat) : Makes g now count known (make id) Made.collections := by
  refine leads_get_bind fun b hb => ?_
  cases hfound : b.made.lookup id with
  | some m =>
    refine leads_pure fun _ h => ?_
    rw [h]
    exact { hb with known := List.append_subset.2 ⟨hb.known, hb.begun id m hfound⟩ }
  | none =>
    dsimp only
    refine leads_lift_bind (fun _ _ => Graph.ends_begin hb.stems id) fun m hm => ?_
    exact (leads_set (hb.add hm.1 hm.2 hfound)).bind fun _ => leads_pure fun _ h => h

theorem makes_mapM {step : α → Builder β} {held : β → List Nat}
    (h : ∀ known a, Makes g now count known (step a) held) (l : List α) :
    Makes g now count known (l.mapM step) (·.flatMap held) := by
  have hall := leads_mapM (K := fun bs => Building.Sound g now count (known ++ bs.flatMap held))
    (l := l) (fun bs a _ => (h _ a).mono (fun _ hs => hs) fun _ _ hs => hs.mono (by simp)) []
  exact hall.mono (fun _ hs => hs.mono (by simp)) fun _ _ hs => hs

/-- A field that is set adds nothing but its value. -/
theorem collections_setField (key : Atom) (value : Made) (fields : List (Atom × Made)) :
    (setField key value fields).flatMap (fun field => field.2.collections) ⊆
      fields.flatMap (fun field => field.2.collections) ++ value.collections := by
  induction fields with
  | nil => simp [setField]
  | cons field fields ih =>
    obtain ⟨k, v⟩ := field
    unfold setField
    split
    · simp
    · simp only [List.flatMap_cons, List.append_assoc]
      exact List.append_subset.2 ⟨List.subset_append_left _ _,
        List.subset_append_of_subset_right _ ih⟩

theorem makes_makeField (made : List (Atom × Made)) (field : Nat × Nat) :
    Leads (Spoils g)
      (Building.Sound g now count (known ++ made.flatMap fun field => field.2.collections))
      (makeField made field) fun made =>
        Building.Sound g now count (known ++ made.flatMap fun field => field.2.collections) := by
  refine (makes_make field.1).bind fun key => ?_
  cases key with
  | collection => exact leads_throw (.inl rfl)
  | atom key =>
    refine (makes_make field.2).bind fun value => leads_pure fun _ hs => hs.mono ?_
    rw [Made.collections, List.append_nil, List.append_assoc]
    exact List.append_subset.2 ⟨List.subset_append_left _ _,
      List.subset_append_of_subset_right _ (collections_setField key value made)⟩

theorem makes_makeMapping (id : Nat) : Makes g now count known (makeMapping id)
    (·.flatMap fun field => field.2.collections) := by
  refine leads_get_bind fun b hb => ?_
  refine leads_lift_bind (fun _ _ => (Graph.ends_flatten _ b.graph id (Nat.lt_succ_self _)).imp
    (fun _ h => h.1.stems) fun _ h => .inl h) fun g' hg' => ?_
  have hstart : Building.Sound g now count known { b with graph := g' } :=
    { hb with stems := hb.stems.trans hg' }
  refine (leads_set hstart).bind fun _ => ?_
  refine (leads_foldlM fun made field _ => makes_makeField made field).mono
    (fun s hs => hs.mono ?_) fun _ _ hs => hs
  simp

theorem makes_makePair (id : Nat) : Makes g now count known (makePair id)
    fun p => p.1.collections ++ p.2.collections := by
  refine leads_get_bind fun b hb => ?_
  split
  · rename_i k v _
    refine Leads.mono ?_ (fun s hs => hs ▸ hb) fun _ _ h => h
    refine (makes_make k).bind fun key => (makes_make v).bind fun value => ?_
    exact leads_pure fun _ hs => hs.mono (by simp)
  · exact leads_throw (.inl rfl)

theorem makes_filling (id : Nat) :
    Makes g now count known (filling id) Filling.collections := by
  refine leads_get_bind fun b hb => Leads.mono ?_ (fun s hs => hs ▸ hb) fun _ _ h => h
  split
  · exact (makes_mapM (fun _ => makes_make) _).bind fun _ => leads_pure fun _ hs => hs
  · exact (makes_mapM (fun _ => makes_makePair) _).bind fun _ => leads_pure fun _ hs => hs
  · exact (makes_makeMapping id).bind fun _ => leads_pure fun _ hs => hs
  · exact (makes_makeMapping id).bind fun _ => leads_pure fun _ hs => hs
  · exact leads_throw (.inl rfl)

/-! ## Filling collections -/

/-- There are no more collections than nodes. -/
theorem Building.Sound.length_le (h : b.Sound g now count known) :
    (b.begun now).length ≤ g.length := by
  have hsub : b.begun now ⊆ List.range g.length := fun id hid => List.mem_range.2 (h.lt id hid)
  simpa using (List.subperm_of_subset h.nodup hsub).length_le

/-- The collections that were begun are filled, and nothing waits for it. -/
structure Building.Complete (held : List Nat) (b : Building) : Prop where
  waiting : b.waiting = []
  closed : ∀ entry ∈ b.filled, entry.2.collections ⊆ b.filled.map Prod.fst
  held : held ⊆ b.filled.map Prod.fst

theorem Building.Sound.complete (h : b.Sound g [] count known) (hb : b.waiting = []) :
    b.Complete known := by
  have hbegun : b.begun [] = b.filled.map Prod.fst := by simp [Building.begun, hb]
  exact ⟨hb, hbegun ▸ h.closed, hbegun ▸ h.known⟩

/-- The first collection that waits is filled now. -/
theorem Building.Sound.next {id : Nat} {rest : List Nat} (h : b.Sound g [] count known)
    (hwaiting : b.waiting = id :: rest) :
    Building.Sound g [id] count known { b with waiting := rest } := by
  have hbegun : Building.begun { b with waiting := rest } [id] = b.begun [] := by
    simp [Building.begun, hwaiting]
  exact ⟨h.stems, h.length_filled, hbegun ▸ h.nodup, hbegun ▸ h.lt, hbegun ▸ h.made,
    hbegun ▸ h.begun, hbegun ▸ h.closed, hbegun ▸ h.known⟩

/-- The collection that is filled now has been filled. -/
theorem Building.Sound.fill {id : Nat} {content : Filling}
    (h : b.Sound g [id] count (known ++ content.collections)) :
    Building.Sound g [] (count + 1) known { b with filled := b.filled ++ [(id, content)] } := by
  have hbegun : Building.begun { b with filled := b.filled ++ [(id, content)] } [] =
      b.begun [id] := by
    simp [Building.begun]
  obtain ⟨hknown, hcontent⟩ := List.append_subset.1 h.known
  refine ⟨h.stems, by simp [h.length_filled], hbegun ▸ h.nodup, hbegun ▸ h.lt, hbegun ▸ h.made,
    hbegun ▸ h.begun, ?_, hbegun ▸ hknown⟩
  rw [hbegun]
  intro entry hentry
  rcases List.mem_append.1 hentry with hentry | hentry
  · exact h.closed entry hentry
  · rw [List.mem_singleton.1 hentry]
    exact hcontent

/-- As many steps as there are collections left fill all of them. -/
theorem leads_fillAll (n : Nat) (hn : g.length ≤ n + count) :
    Leads (Spoils g) (Building.Sound g [] count known) (fillAll n)
      fun _ => Building.Complete known := by
  induction n generalizing count with
  | zero =>
    refine leads_pure fun b hb => hb.complete (List.eq_nil_of_length_eq_zero ?_)
    have hle := hb.length_le
    simp only [Building.begun, List.append_nil, List.length_append, List.length_map,
      hb.length_filled] at hle
    omega
  | succ n ih =>
    refine leads_get_bind fun b hb => ?_
    split
    · rename_i hnone
      exact leads_pure fun _ h => h ▸ hb.complete hnone
    · rename_i id rest hwaiting
      refine (leads_modify fun s hs => hs ▸ hb.next hwaiting).bind fun _ => ?_
      refine (makes_filling id).bind fun content => ?_
      have hleft : g.length ≤ n + (count + 1) := by omega
      exact (leads_modify fun s hs => hs.fill).bind fun _ => ih hleft

end Makes

namespace Graph

variable {g : Graph} {root : Nat}

/-- Everything that is begun is filled, unless something has no value. -/
theorem ends_makeAll (g : Graph) (root : Nat) :
    Ends ((makeAll g.length root).run { graph := g })
      (fun r => r.2.Complete r.1.collections) (Spoils g) := by
  have hstart : Building.Sound g [] 0 [] { graph := g } :=
    ⟨.refl g, rfl, List.nodup_nil, by simp [Building.begun], by simp [Building.begun], by simp,
      by simp, List.nil_subset _⟩
  have hall : Leads (Spoils g) (Building.Sound g [] 0 []) (makeAll g.length root)
      fun m => Building.Complete m.collections :=
    (makes_make root).bind fun _ => (leads_fillAll g.length (Nat.le_refl _)).bind fun _ =>
      leads_pure fun _ hs => hs
  exact hall _ hstart

/-- As there are no more collections around a value than there are at all, more levels make no
difference. -/
theorem valueWithin_add {filled : List (Nat × Filling)} {above : List Nat} {m : Made} {n : Nat}
    (hclosed : ∀ entry ∈ filled, entry.2.collections ⊆ filled.map Prod.fst)
    (hm : m.collections ⊆ filled.map Prod.fst) (hnodup : above.Nodup)
    (hsub : above ⊆ filled.map Prod.fst) (hn : filled.length < n + above.length) (k : Nat) :
    valueWithin filled (n + k) above m = valueWithin filled n above m := by
  induction n generalizing above m with
  | zero =>
    have hle := (List.subperm_of_subset hnodup hsub).length_le
    rw [List.length_map] at hle
    omega
  | succ n ih =>
    rw [Nat.succ_add]
    cases m with
    | atom a => rfl
    | collection id =>
      have hid : id ∈ filled.map Prod.fst := hm (List.mem_singleton_self id)
      unfold valueWithin
      dsimp only
      cases habove : above.idxOf? id with
      | some levels => rfl
      | none =>
        have hnotin : id ∉ above := List.idxOf?_eq_none_iff.1 habove
        have hinner {m : Made} (hm : m.collections ⊆ filled.map Prod.fst) :
            valueWithin filled (n + k) (id :: above) m = valueWithin filled n (id :: above) m :=
          ih hm (List.nodup_cons.2 ⟨hnotin, hnodup⟩) (List.cons_subset.2 ⟨hid, hsub⟩)
            (by rw [List.length_cons]; omega)
        cases hcontent : filled.lookup id with
        | none => rfl
        | some content =>
          obtain ⟨before, after, hfilled, -⟩ := List.lookup_eq_some_iff.1 hcontent
          have hheld := hclosed (id, content) (by simp [hfilled])
          cases content with
          | list items =>
            refine congrArg Value.list (List.map_congr_left fun m hm => hinner fun c hc => ?_)
            exact hheld (List.mem_flatMap.2 ⟨m, hm, hc⟩)
          | pairs items =>
            refine congrArg Value.list (List.map_congr_left fun p hp => ?_)
            have hpair : p.1.collections ++ p.2.collections ⊆ filled.map Prod.fst :=
              fun c hc => hheld (List.mem_flatMap.2 ⟨p, hp, hc⟩)
            rw [hinner (List.append_subset.1 hpair).1, hinner (List.append_subset.1 hpair).2]
          | map fields =>
            refine congrArg Value.map (List.map_congr_left fun field hf => ?_)
            rw [hinner fun c hc => hheld (List.mem_flatMap.2 ⟨field, hf, hc⟩)]
          | set fields => rfl

/-- **Values are complete**: making one takes no more steps and levels than it is given. -/
theorem value_complete {m : Made} {b : Building}
    (h : (makeAll g.length root).run { graph := g } = .ok (m, b)) (k : Nat) :
    b.waiting = [] ∧ valueWithin b.filled (b.filled.length + 1 + k) [] m =
      valueWithin b.filled (b.filled.length + 1) [] m := by
  have hcomplete := (ends_makeAll g root).ok h
  exact ⟨hcomplete.waiting, valueWithin_add hcomplete.closed hcomplete.held List.nodup_nil
    (List.nil_subset _) (Nat.lt_succ_self _) k⟩

theorem ends_value (g : Graph) (root : Nat) :
    Ends (g.value root) (fun _ => True) (Spoils g) :=
  (ends_makeAll g root).bind fun ⟨_, _⟩ _ => trivial

end Graph

/-! ## Texts without a value -/

/-- A text has no value though nothing in it is malformed: an escape names a number beyond the last
code point, a version has too long a number, or something in the graph of its nodes has none. -/
inductive Valueless (s : List Char) (f : Fault) : Prop
  | escape {n : Nat} (h : NamesBeyond s n) (hf : f = .codePoint n)
  | version {count : Nat} (h : WritesLong s count) (hf : f = .tooManyDigits count)
  | node {d : Document} (hd : Document.ofText s = .ok (some d)) (hf : Unfit d.graph f)

/-- Loading goes wrong for a text that is malformed, or that has no value. -/
theorem valueless_of_load {s : List Char} {f : Fault} (h : load s = .error f) :
    f = .malformed ∨ Valueless s f := by
  by_cases hf : f = .malformed
  · exact .inl hf
  refine .inr ?_
  unfold load at h
  cases hd : Document.ofText s with
  | error g =>
    rw [hd] at h
    obtain rfl := Except.error.inj h
    cases ofScan_of_ofText hd with
    | malformed => exact absurd rfl hf
    | beyond hn => exact .escape hn rfl
    | long hn => exact .version hn rfl
  | ok found =>
    rw [hd] at h
    cases found with
    | none => cases h
    | some d => exact .node hd (((Graph.ends_value d.graph d.root).error h).resolve_left hf)

end PackageDoc.Yaml
