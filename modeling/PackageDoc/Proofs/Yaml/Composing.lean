import PackageDoc.Proofs.Yaml.Scanning
import PackageDoc.Yaml.Node

/-!
# Faults of composing

Reading tokens goes wrong where they do not follow the grammar, or where a fault of the text is met
among them. No reader adds a token, so the faults that can be met are those of scanning. A node
takes a token at least, and between two that are taken no reader goes through more than three steps,
so the steps that are given suffice for the tokens that there are.

    Document.ofText s = .error f → f.OfScan s                                  (ofScan_of_ofText)
-/

namespace PackageDoc.Yaml

variable {whole : List Char} {α β : Type} {L n : Nat} {t : Token} {ts : List Token}

/-- Fewer than so many tokens are left, and every fault among them is one of the whole text. -/
structure Fewer (whole : List Char) (L : Nat) (ts : List Token) : Prop where
  sound : ∀ f, .broken f ∈ ts → f.OfScan whole
  length : ts.length < L

/-- Whether a token only tells that there are no more. -/
def Token.isFinish : Token → Bool
  | finish => true
  | _ => false

/-- The next of these tokens was looked at. -/
structure Ahead (P : List Token → Prop) (t : Token) (ts : List Token) : Prop where
  left : P ts
  ne_nil : t.isFinish = false → ts ≠ []

theorem Fewer.mono {M : Nat} (h : Fewer whole L ts) (hLM : L ≤ M) : Fewer whole M ts :=
  ⟨h.sound, Nat.lt_of_lt_of_le h.length hLM⟩

theorem Fewer.tail (h : Fewer whole (L + 1) ts) (hts : ts ≠ []) : Fewer whole L ts.tail := by
  refine ⟨fun f hf => h.sound f (List.mem_of_mem_tail hf), ?_⟩
  have hlength := h.length
  have hpos := List.length_pos_iff.2 hts
  rw [List.length_tail]
  omega

/-! ## Steps of readers -/

/-- With such tokens left a reader gives a result and leaves tokens that fit it, or goes wrong by a
fault of the whole text. -/
def Reads (whole : List Char) (P : List Token → Prop) (x : Reader α)
    (Q : α → List Token → Prop) : Prop :=
  Leads (Fault.OfScan whole) (fun r => P r.tokens) x fun a r => Q a r.tokens

section Steps

variable {x y : Reader α} {P P' : List Token → Prop} {Q Q' : α → List Token → Prop}
  {R : β → List Token → Prop}

theorem Reads.bind {f : α → Reader β} (hx : Reads whole P x Q)
    (hf : ∀ a, Reads whole (Q a) (f a) R) : Reads whole P (x >>= f) R :=
  Leads.bind hx hf

theorem Reads.mono (h : Reads whole P x Q) (hP : ∀ ts, P' ts → P ts)
    (hQ : ∀ a ts, Q a ts → Q' a ts) : Reads whole P' x Q' :=
  Leads.mono h (fun r => hP r.tokens) fun a r => hQ a r.tokens

theorem reads_pure {a : α} (h : ∀ ts, P ts → Q a ts) : Reads whole P (pure a) Q :=
  leads_pure fun r => h r.tokens

theorem reads_malformed : Reads whole P (throw .malformed) Q :=
  leads_throw .malformed

theorem reads_ite {c : Prop} [Decidable c] (hx : Reads whole P x Q) (hy : Reads whole P y Q) :
    Reads whole P (if c then x else y) Q :=
  leads_ite hx hy

theorem reads_ite_bind {c : Prop} [Decidable c] {f : α → Reader β} (hx : Reads whole P x Q)
    (hy : Reads whole P y Q) (hf : ∀ a, Reads whole (Q a) (f a) R) :
    Reads whole P (if c then x >>= f else y >>= f) R :=
  leads_ite_bind hx hy hf

theorem reads_get_bind {f : Reading → Reader α} (h : ∀ r, Reads whole P (f r) Q) :
    Reads whole P (get >>= f) Q :=
  leads_get_bind fun r hr => Leads.mono (h r) (fun _ hs => hs ▸ hr) fun _ _ => id

theorem reads_modify {g : Reading → Reading} (hg : ∀ r, (g r).tokens = r.tokens) :
    Reads whole P (modify g) fun _ => P :=
  leads_modify fun r hr => (hg r).symm ▸ hr

/-- A reader may leave what it was given, or less. -/
theorem Reads.from_le {K M : Nat} (h : Reads whole (Fewer whole M) x fun _ => Fewer whole M)
    (hLM : L ≤ M) (hMK : M ≤ K) : Reads whole (Fewer whole L) x fun _ => Fewer whole K :=
  h.mono (fun _ hr => hr.mono hLM) fun _ _ hr => hr.mono hMK

theorem reads_pure_of_le {a : α} {M : Nat} (hLM : L ≤ M) :
    Reads whole (Fewer whole L) (pure a) fun _ => Fewer whole M :=
  reads_pure fun _ h => h.mono hLM

/-- There is always something left to be read, if only the end. -/
theorem reads_of_zero : Reads whole (Fewer whole 0) x Q :=
  fun _ hr => absurd hr.length (Nat.not_lt_zero _)

theorem reads_peek (hP : ∀ ts, P ts → ∀ f, .broken f ∈ ts → f.OfScan whole) :
    Reads whole P Reader.peek (Ahead P) := by
  intro r hr
  unfold Reader.peek
  rw [StateT.run_bind, StateT.run_get, pure_bind]
  dsimp only
  split
  · exact ⟨hr, fun h => nomatch h⟩
  · rename_i f ts htokens
    exact hP _ hr f (by rw [htokens]; exact List.mem_cons_self)
  · rename_i htokens
    exact ⟨hr, fun _ => by rw [htokens]; exact List.cons_ne_nil _ _⟩

/-- The next token is looked at before anything else. -/
theorem reads_peek_bind {f : Token → Reader α}
    (h : ∀ t, Reads whole (Ahead (Fewer whole L) t) (f t) Q) :
    Reads whole (Fewer whole L) (Reader.peek >>= f) Q :=
  (reads_peek fun _ => Fewer.sound).bind h

theorem reads_skip (ht : t.isFinish = false) :
    Reads whole (Ahead (Fewer whole (L + 1)) t) Reader.skip fun _ => Fewer whole L :=
  leads_modify fun _ hr => hr.left.tail (hr.ne_nil ht)

/-- A token that was looked at is taken. -/
theorem reads_skip_bind {f : Unit → Reader α} (h : Reads whole (Fewer whole L) (f ()) Q)
    (ht : t.isFinish = false) :
    Reads whole (Ahead (Fewer whole (L + 1)) t) (Reader.skip >>= f) Q :=
  (reads_skip ht).bind fun _ => h

/-- A token that was looked at is still there. -/
theorem Reads.of_ahead (h : Reads whole P x Q) : Reads whole (Ahead P t) x Q :=
  h.mono (fun _ hr => hr.left) fun _ _ => id

/-- A token is taken if it is the next. -/
theorem reads_accept_bind (hx : Reads whole (Fewer whole L) x Q)
    (hy : Reads whole (Fewer whole (L + 1)) y Q) (ht : t.isFinish = false) :
    Reads whole (Fewer whole (L + 1)) (Reader.accept t >>= fun b => if b = true then x else y)
      Q := by
  unfold Reader.accept
  rw [bind_assoc]
  refine reads_peek_bind fun u => ?_
  by_cases hu : u = t
  · subst hu
    rw [if_pos rfl, bind_assoc]
    refine reads_skip_bind ?_ ht
    rw [pure_bind]
    exact hx
  · rw [if_neg hu, pure_bind]
    exact hy.of_ahead

theorem reads_expect (t : Token) (ht : t.isFinish = false) :
    Reads whole (Fewer whole (L + 1)) (Reader.expect t) fun _ => Fewer whole L := by
  have hexpect : Reader.expect t =
      Reader.accept t >>= fun b => if b = true then pure () else throw .malformed := by
    unfold Reader.expect
    congr 1
    funext b
    cases b <;> rfl
  rw [hexpect]
  exact reads_accept_bind (reads_pure_of_le (Nat.le_refl L)) reads_malformed ht

theorem reads_nextIn (ts : List Token) :
    Reads whole (Fewer whole L) (Reader.nextIn ts) fun _ => Fewer whole L :=
  reads_peek_bind fun _ => reads_pure fun _ h => h.left

end Steps

open Reader

/-! ## Properties -/

theorem reads_anchor? : Reads whole (Fewer whole L) anchor? fun _ => Fewer whole L := by
  cases L with
  | zero => exact reads_of_zero
  | succ L =>
    refine reads_peek_bind fun t => ?_
    split
    · exact reads_skip_bind (reads_pure_of_le (Nat.le_succ L)) rfl
    · exact (reads_pure_of_le (Nat.le_refl _)).of_ahead

theorem reads_tagName {P : List Token → Prop} {handle : Option (List Char)} {suffix : List Char} :
    Reads whole P (tagName handle suffix) fun _ => P := by
  unfold tagName
  split
  · exact reads_pure fun _ => id
  · refine reads_get_bind fun _ => ?_
    split
    · exact reads_pure fun _ => id
    · exact reads_malformed

/-- Some tokens are left, and fewer if there were properties. -/
structure Given (whole : List Char) (L : Nat) (given : Properties) (ts : List Token) : Prop where
  fewer : Fewer whole (L + 1) ts
  taken : (given.anchor.isSome || given.tag.isSome) = true → Fewer whole L ts

theorem Ahead.of_given {given : Properties} (h : Ahead (Given whole L given) t ts) :
    Ahead (Fewer whole (L + 1)) t ts :=
  ⟨h.left.fewer, h.ne_nil⟩

theorem reads_properties : Reads whole (Fewer whole (L + 1)) properties (Given whole L) := by
  have htaken {given : Properties} : Reads whole (Fewer whole L) (pure given) (Given whole L) :=
    reads_pure fun _ h => ⟨h.mono (Nat.le_succ L), fun _ => h⟩
  refine reads_peek_bind fun t => ?_
  split
  · exact reads_skip_bind (reads_anchor?.bind fun _ => reads_tagName.bind fun _ => htaken) rfl
  · refine reads_skip_bind ?_ rfl
    cases L with
    | zero => exact reads_of_zero
    | succ L =>
      refine reads_peek_bind fun t => ?_
      split
      · refine reads_skip_bind (reads_tagName.bind fun _ => reads_pure fun _ h => ?_) rfl
        exact ⟨h.mono (by omega), fun _ => h.mono (Nat.le_succ L)⟩
      · exact htaken.of_ahead
  · exact reads_pure fun _ h => ⟨h.left, fun hnone => by cases hnone⟩

/-! ## Nodes -/

theorem reads_start {P : List Token → Prop} {anchor : Option (List Char)} {m : Node} :
    Reads whole P (start anchor m) fun _ => P := by
  intro r hr
  unfold start
  rw [StateT.run_bind, StateT.run_get, pure_bind]
  cases anchor with
  | none => exact hr
  | some name =>
    dsimp only
    split
    · exact .malformed
    · exact hr

theorem reads_emptyNode {P : List Token → Prop} : Reads whole P emptyNode fun _ => P :=
  reads_start

/-- A node without content took the token of a property. -/
theorem reads_bare {given : Properties} :
    Reads whole (Given whole L given) (bare given) fun _ => Fewer whole L := by
  unfold bare
  split
  · rename_i hgiven
    exact reads_start.mono (fun _ h => h.taken hgiven) fun _ _ => id
  · exact reads_malformed

theorem reads_collection {given : Properties} {usual : Tag} {read : Reader α} {f : α → Content}
    (h : Reads whole (Fewer whole L) read fun _ => Fewer whole L) (ht : t.isFinish = false) :
    Reads whole (Ahead (Given whole L given) t) (collection given usual (f <$> read))
      fun _ => Fewer whole L := by
  refine (reads_start.mono (fun _ => Ahead.of_given) fun _ _ => id).bind fun _ => ?_
  refine reads_skip_bind ?_ ht
  rw [map_eq_pure_bind, bind_assoc]
  refine h.bind fun _ => ?_
  rw [pure_bind]
  exact (reads_modify fun _ => by rfl).bind fun _ => reads_pure_of_le (Nat.le_refl L)

/-- The readers of nodes and of what collections hold, with so many steps left: three for every
token, and two more for a node. -/
structure ReadsNodes (whole : List Char) (n : Nat) : Prop where
  node {L : Nat} (h : 3 * L + 2 ≤ n) (place : Place) :
    Reads whole (Fewer whole (L + 1)) (node n place) fun _ => Fewer whole L
  blockItems {L : Nat} (h : 3 * L ≤ n) :
    Reads whole (Fewer whole L) (blockItems n) fun _ => Fewer whole L
  entries {L : Nat} (h : 3 * L ≤ n) :
    Reads whole (Fewer whole L) (entries n) fun _ => Fewer whole L
  blockFields {L : Nat} (h : 3 * L ≤ n) :
    Reads whole (Fewer whole L) (blockFields n) fun _ => Fewer whole L
  blockValue {L : Nat} (h : 3 * L ≤ n) :
    Reads whole (Fewer whole L) (blockValue n) fun _ => Fewer whole L
  flowItems {L : Nat} (h : 3 * L ≤ n) (first : Bool) :
    Reads whole (Fewer whole L) (flowItems n first) fun _ => Fewer whole L
  flowValue {L : Nat} (h : 3 * L ≤ n) {close : Token} :
    Reads whole (Fewer whole L) (flowValue n close) fun _ => Fewer whole L
  flowFields {L : Nat} (h : 3 * L ≤ n) (first : Bool) :
    Reads whole (Fewer whole L) (flowFields n first) fun _ => Fewer whole L

namespace ReadsNodes

/-- What has so many steps left may take one of them: if there is a token, they are enough for a
node after it. -/
theorem reads_of_succ {x : Reader α} (hL : 3 * L ≤ n + 1)
    (h : ∀ M, 3 * M + 2 ≤ n →
      Reads whole (Fewer whole (M + 1)) x fun _ => Fewer whole (M + 1)) :
    Reads whole (Fewer whole L) x fun _ => Fewer whole L := by
  cases L with
  | zero => exact reads_of_zero
  | succ M => exact h M (by omega)

/-- Without steps there are no tokens either. -/
theorem reads_of_le_zero {x : Reader α} (hL : 3 * L ≤ 0) :
    Reads whole (Fewer whole L) x fun _ => Fewer whole L :=
  reads_of_succ (Nat.le_succ_of_le hL) fun _ hM => nomatch hM

theorem zero : ReadsNodes whole 0 where
  node h _ := nomatch h
  blockItems h := reads_of_le_zero h
  entries h := reads_of_le_zero h
  blockFields h := reads_of_le_zero h
  blockValue h := reads_of_le_zero h
  flowItems h _ := reads_of_le_zero h
  flowValue h _ := reads_of_le_zero h
  flowFields h _ := reads_of_le_zero h

/-- After a token was taken, there are steps enough for a node. -/
theorem node_behind (h : ReadsNodes whole n) (hL : 3 * L + 2 ≤ n) (place : Place) :
    Reads whole (Fewer whole L) (Yaml.node n place) fun _ => Fewer whole L :=
  (h.node hL place).mono (fun _ hr => hr.mono (Nat.le_succ L)) fun _ _ => id

/-- A node leaves no more tokens than there were. -/
theorem node_within (h : ReadsNodes whole n) (hL : 3 * L + 2 ≤ n) (place : Place) :
    Reads whole (Fewer whole (L + 1)) (Yaml.node n place) fun _ => Fewer whole (L + 1) :=
  (h.node hL place).mono (fun _ => id) fun _ _ hr => hr.mono (Nat.le_succ L)

theorem succ_node (h : ReadsNodes whole n) (hL : 3 * L + 2 ≤ n + 1) (place : Place) :
    Reads whole (Fewer whole (L + 1)) (Yaml.node (n + 1) place) fun _ => Fewer whole L := by
  have hL' : 3 * L ≤ n := Nat.le_of_succ_le (Nat.le_of_succ_le_succ hL)
  unfold Yaml.node
  refine reads_peek_bind fun t => ?_
  split
  · refine reads_skip_bind (reads_get_bind fun r => ?_) rfl
    split
    · exact reads_pure_of_le (Nat.le_refl L)
    · exact reads_malformed
  refine reads_properties.of_ahead.bind fun given => ?_
  refine (reads_peek fun _ hgiven => hgiven.fewer.sound).bind fun t => ?_
  split
  · exact reads_ite (reads_collection (h.entries hL') rfl) reads_bare.of_ahead
  · exact (reads_skip_bind reads_start rfl).mono (fun _ => Ahead.of_given) fun _ _ => id
  · exact reads_collection (h.flowItems hL' true) rfl
  · exact reads_collection (h.flowFields hL' true) rfl
  · exact reads_ite reads_bare.of_ahead (reads_collection (h.blockItems hL') rfl)
  · exact reads_ite reads_bare.of_ahead (reads_collection (h.blockFields hL') rfl)
  · exact reads_bare.of_ahead

theorem succ_blockItems (h : ReadsNodes whole n) (hL : 3 * L ≤ n + 1) :
    Reads whole (Fewer whole L) (Yaml.blockItems (n + 1)) fun _ => Fewer whole L := by
  refine reads_of_succ hL fun M hM => ?_
  have hM' : 3 * M ≤ n := Nat.le_of_add_right_le hM
  unfold Yaml.blockItems
  refine reads_accept_bind ?_ ?_ rfl
  · refine (reads_nextIn _).bind fun _ => ?_
    refine reads_ite_bind reads_emptyNode (h.node_behind hM _) fun _ => ?_
    exact (h.blockItems hM').bind fun _ => reads_pure_of_le (Nat.le_succ M)
  · exact (reads_expect .blockEnd rfl).bind fun _ => reads_pure_of_le (Nat.le_succ M)

theorem succ_entries (h : ReadsNodes whole n) (hL : 3 * L ≤ n + 1) :
    Reads whole (Fewer whole L) (Yaml.entries (n + 1)) fun _ => Fewer whole L := by
  refine reads_of_succ hL fun M hM => ?_
  have hM' : 3 * M ≤ n := Nat.le_of_add_right_le hM
  unfold Yaml.entries
  refine (reads_nextIn _).bind fun _ => ?_
  refine reads_ite_bind reads_emptyNode (h.node_within hM _) fun _ => ?_
  refine reads_accept_bind ?_ (reads_pure_of_le (Nat.le_refl _)) rfl
  exact (h.entries hM').bind fun _ => reads_pure_of_le (Nat.le_succ M)

theorem succ_blockFields (h : ReadsNodes whole n) (hL : 3 * L ≤ n + 1) :
    Reads whole (Fewer whole L) (Yaml.blockFields (n + 1)) fun _ => Fewer whole L := by
  refine reads_of_succ hL fun M hM => ?_
  have hM' : 3 * M ≤ n := Nat.le_of_add_right_le hM
  unfold Yaml.blockFields
  refine reads_accept_bind ?_ ?_ rfl
  · refine (reads_nextIn _).bind fun _ => ?_
    refine reads_ite_bind reads_emptyNode (h.node_behind hM _) fun _ => ?_
    refine (h.blockValue hM').bind fun _ => (h.blockFields hM').bind fun _ => ?_
    exact reads_pure_of_le (Nat.le_succ M)
  · exact (reads_expect .blockEnd rfl).bind fun _ => reads_pure_of_le (Nat.le_succ M)

theorem succ_blockValue (h : ReadsNodes whole n) (hL : 3 * L ≤ n + 1) :
    Reads whole (Fewer whole L) (Yaml.blockValue (n + 1)) fun _ => Fewer whole L := by
  refine reads_of_succ hL fun M hM => ?_
  have hM' : 3 * M ≤ n := Nat.le_of_add_right_le hM
  unfold Yaml.blockValue
  refine reads_accept_bind ?_ reads_emptyNode rfl
  refine (reads_nextIn _).bind fun _ => ?_
  refine Reads.from_le ?_ (Nat.le_refl M) (Nat.le_succ M)
  exact reads_ite reads_emptyNode (h.node_behind hM _)

theorem succ_flowItems (h : ReadsNodes whole n) (hL : 3 * L ≤ n + 1) (first : Bool) :
    Reads whole (Fewer whole L) (Yaml.flowItems (n + 1) first) fun _ => Fewer whole L := by
  refine reads_of_succ hL fun M hM => ?_
  have hM' : 3 * M ≤ n := Nat.le_of_add_right_le hM
  unfold Yaml.flowItems
  have hitem : Reads whole (Fewer whole (M + 1)) (do
      if (← accept .key) then
        let id ← start none ⟨.mapping, .mapping []⟩
        let k ←
          if (← nextIn [.value, .flowEntry, .flowSequenceEnd]) then emptyNode
          else Yaml.node n .flow
        let v ← Yaml.flowValue n .flowSequenceEnd
        modify fun r => { r with graph := r.graph.setContent id (.mapping [(k, v)]) }
        return id :: (← Yaml.flowItems n false)
      else if (← accept .flowSequenceEnd) then return []
      else
        let item ← Yaml.node n .flow
        return item :: (← Yaml.flowItems n false)) fun _ => Fewer whole (M + 1) := by
    refine reads_accept_bind ?_ (reads_accept_bind (reads_pure_of_le (Nat.le_succ M)) ?_ rfl) rfl
    · refine reads_start.bind fun id => (reads_nextIn _).bind fun _ => ?_
      refine reads_ite_bind reads_emptyNode (h.node_behind hM _) fun _ => ?_
      refine (h.flowValue hM').bind fun _ => ?_
      refine (reads_modify fun _ => by rfl).bind fun _ => ?_
      exact (h.flowItems hM' false).bind fun _ => reads_pure_of_le (Nat.le_succ M)
    · refine (h.node hM _).bind fun _ => (h.flowItems hM' false).bind fun _ => ?_
      exact reads_pure_of_le (Nat.le_succ M)
  refine reads_accept_bind (reads_pure_of_le (Nat.le_succ M)) (reads_ite ?_ hitem) rfl
  refine (reads_expect .flowEntry rfl).bind fun _ => ?_
  exact hitem.mono (fun _ hr => hr.mono (Nat.le_succ M)) fun _ _ => id

theorem succ_flowValue (h : ReadsNodes whole n) (hL : 3 * L ≤ n + 1) {close : Token} :
    Reads whole (Fewer whole L) (Yaml.flowValue (n + 1) close) fun _ => Fewer whole L := by
  refine reads_of_succ hL fun M hM => ?_
  have hM' : 3 * M ≤ n := Nat.le_of_add_right_le hM
  unfold Yaml.flowValue
  refine reads_accept_bind ?_ reads_emptyNode rfl
  refine (reads_nextIn _).bind fun _ => ?_
  refine Reads.from_le ?_ (Nat.le_refl M) (Nat.le_succ M)
  exact reads_ite reads_emptyNode (h.node_behind hM _)

theorem succ_flowFields (h : ReadsNodes whole n) (hL : 3 * L ≤ n + 1) (first : Bool) :
    Reads whole (Fewer whole L) (Yaml.flowFields (n + 1) first) fun _ => Fewer whole L := by
  refine reads_of_succ hL fun M hM => ?_
  have hM' : 3 * M ≤ n := Nat.le_of_add_right_le hM
  unfold Yaml.flowFields
  have hfield : Reads whole (Fewer whole (M + 1)) (do
      if (← accept .key) then
        let k ←
          if (← nextIn [.value, .flowEntry, .flowMappingEnd]) then emptyNode
          else Yaml.node n .flow
        let v ← Yaml.flowValue n .flowMappingEnd
        return (k, v) :: (← Yaml.flowFields n false)
      else if (← accept .flowMappingEnd) then return []
      else
        let k ← Yaml.node n .flow
        let v ← emptyNode
        return (k, v) :: (← Yaml.flowFields n false)) fun _ => Fewer whole (M + 1) := by
    refine reads_accept_bind ?_ (reads_accept_bind (reads_pure_of_le (Nat.le_succ M)) ?_ rfl) rfl
    · refine (reads_nextIn _).bind fun _ => ?_
      refine reads_ite_bind reads_emptyNode (h.node_behind hM _) fun _ => ?_
      refine (h.flowValue hM').bind fun _ => ?_
      exact (h.flowFields hM' false).bind fun _ => reads_pure_of_le (Nat.le_succ M)
    · refine (h.node hM _).bind fun _ => reads_emptyNode.bind fun _ => ?_
      exact (h.flowFields hM' false).bind fun _ => reads_pure_of_le (Nat.le_succ M)
  refine reads_accept_bind (reads_pure_of_le (Nat.le_succ M)) (reads_ite ?_ hfield) rfl
  refine (reads_expect .flowEntry rfl).bind fun _ => ?_
  exact hfield.mono (fun _ hr => hr.mono (Nat.le_succ M)) fun _ _ => id

theorem succ (h : ReadsNodes whole n) : ReadsNodes whole (n + 1) where
  node := h.succ_node
  blockItems := h.succ_blockItems
  entries := h.succ_entries
  blockFields := h.succ_blockFields
  blockValue := h.succ_blockValue
  flowItems := h.succ_flowItems
  flowValue := h.succ_flowValue
  flowFields := h.succ_flowFields

end ReadsNodes

theorem readsNodes (n : Nat) : ReadsNodes whole n := by
  induction n with
  | zero => exact .zero
  | succ n ih => exact ih.succ

/-! ## Documents -/

theorem reads_directives {versioned : Bool} {declared : List (List Char × List Char)}
    (h : L ≤ n) :
    Reads whole (Fewer whole L) (directives n versioned declared) fun _ => Fewer whole L := by
  induction n generalizing L versioned declared with
  | zero =>
    obtain rfl := Nat.eq_zero_of_le_zero h
    exact reads_of_zero
  | succ n ih =>
    cases L with
    | zero => exact reads_of_zero
    | succ L =>
      have hrest {versioned : Bool} {declared : List (List Char × List Char)} :
          Reads whole (Fewer whole L) (directives n versioned declared)
            fun _ => Fewer whole (L + 1) :=
        (ih (by omega)).from_le (Nat.le_refl L) (Nat.le_succ L)
      unfold directives
      refine reads_peek_bind fun t => ?_
      split
      · exact reads_skip_bind (reads_ite reads_malformed hrest) rfl
      · exact reads_skip_bind (reads_ite reads_malformed hrest) rfl
      · exact reads_skip_bind hrest rfl
      · exact (reads_pure_of_le (Nat.le_refl _)).of_ahead

theorem reads_startsExplicitly :
    Reads whole (Fewer whole L) startsExplicitly fun _ => Fewer whole L := by
  refine reads_peek_bind fun t => ?_
  split <;> exact (reads_pure_of_le (Nat.le_refl L)).of_ahead

theorem reads_skipEnds : Reads whole (Fewer whole L) skipEnds fun _ => Fewer whole L := by
  refine leads_modify fun r hr => ?_
  have hsublist := List.dropWhile_sublist (fun t => decide (t = Token.documentEnd)) (l := r.tokens)
  exact ⟨fun f hf => hr.sound f (hsublist.mem hf),
    Nat.lt_of_le_of_lt hsublist.length_le hr.length⟩

theorem reads_explicitDocument (h : 3 * L ≤ n + 1) :
    Reads whole (Fewer whole L) (explicitDocument n) fun _ => Fewer whole L := by
  cases L with
  | zero => exact reads_of_zero
  | succ L =>
    refine (reads_directives (by omega)).bind fun _ => ?_
    refine (reads_expect .documentStart rfl).bind fun _ => ?_
    refine (reads_modify fun _ => by rfl).bind fun _ => reads_startsExplicitly.bind fun _ => ?_
    refine (reads_nextIn _).bind fun _ => Reads.from_le ?_ (Nat.le_refl L) (Nat.le_succ L)
    exact reads_ite reads_emptyNode ((readsNodes n).node_behind (by omega) _)

theorem reads_document (h : 3 * L + 2 ≤ n) :
    Reads whole (Fewer whole (L + 1)) (document n) fun _ => Fewer whole (L + 1) := by
  have hend (root : Nat) : Reads whole (Fewer whole (L + 1)) (do
      skipEnds
      if (← peek) = .finish then return some root
      else
        let _ ← directives n false []
        throw .malformed) fun _ => Fewer whole (L + 1) := by
    refine reads_skipEnds.bind fun _ => reads_peek_bind fun t => Reads.of_ahead ?_
    refine reads_ite (reads_pure_of_le (Nat.le_refl _)) ?_
    exact (reads_directives (by omega)).bind fun _ => reads_malformed
  refine reads_peek_bind fun t => Reads.of_ahead ?_
  refine reads_ite (reads_pure_of_le (Nat.le_refl _)) ?_
  refine reads_startsExplicitly.bind fun _ => ?_
  refine reads_ite ((reads_explicitDocument (by omega)).bind hend) ?_
  exact (reads_modify fun _ => by rfl).bind fun _ =>
    ((readsNodes n).node_within h _).bind hend

/-- A text is composed without a fault, or with one of scanning it. No reader runs out of steps,
which would be a fault of another kind. -/
theorem ofScan_of_ofText {f : Fault} (h : Document.ofText whole = .error f) :
    f.OfScan whole := by
  have hstart : Fewer whole ((tokens whole).length + 1) (tokens whole) :=
    ⟨fun _ => ofScan_of_mem_tokens, Nat.lt_succ_self _⟩
  have hends := reads_document (Nat.le_refl _) { tokens := tokens whole } hstart
  have htext : Ends (Document.ofText whole) (fun _ => True) (Fault.OfScan whole) :=
    hends.bind fun ⟨_, _⟩ _ => trivial
  exact htext.error h

end PackageDoc.Yaml
