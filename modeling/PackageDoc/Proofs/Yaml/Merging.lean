import PackageDoc.Proofs.Outcome
import PackageDoc.Yaml.Merge

/-!
# Merging ends

Every step of freeing a mapping of its merge keys takes one away from the graph and adds none, since
the fields that are merged have been freed before. So the merge keys of the graph are steps enough,
and nothing is left to be merged, also in a mapping that merges itself. Nodes keep what their values
are made of: only a key that stood for the value of a mapping counts as text afterwards.

    g.merges < n → Ends (g.flatten n id) (free of merge keys) (malformed)         (ends_flatten)
-/

namespace PackageDoc.Yaml

/-! ## What merging leaves alone -/

/-- A node stems from one with the same text, if it has one. Its tag is the same, unless it is the
key of a value that has come to count as text. -/
structure Node.Stems (n₀ n : Node) : Prop where
  tag : n.tag = n₀.tag ∨ n₀.tag = .value ∧ n.tag = .text
  scalar : ∀ s, n.content = .scalar s → n₀.content = .scalar s
  mapping : n.fields?.isSome → n₀.fields?.isSome

theorem Node.Stems.trans {n₀ n₁ n₂ : Node} (h : n₀.Stems n₁) (h' : n₁.Stems n₂) :
    n₀.Stems n₂ where
  tag := by
    rcases h'.tag with h₂ | ⟨h₁, h₂⟩
    · rw [h₂]
      exact h.tag
    · rcases h.tag with h₀ | ⟨_, hne⟩
      · exact .inr ⟨h₀ ▸ h₁, h₂⟩
      · exact absurd (hne.symm.trans h₁) (by decide)
  scalar s hs := h.scalar s (h'.scalar s hs)
  mapping hn := h.mapping (h'.mapping hn)

namespace Graph

variable {g g₀ g₁ g₂ : Graph} {id : Nat} {fields : List (Nat × Nat)}

/-- The nodes of a graph stem from those of another, number by number. -/
structure Stems (g₀ g : Graph) : Prop where
  length : g.length = g₀.length
  node : ∀ {id : Nat} {n : Node}, g[id]? = some n → ∃ n₀, g₀[id]? = some n₀ ∧ n₀.Stems n

theorem Stems.refl (g : Graph) : Stems g g :=
  ⟨rfl, fun {_ n} hn => ⟨n, hn, .inl rfl, fun _ => id, id⟩⟩

theorem Stems.trans (h : Stems g₀ g₁) (h' : Stems g₁ g₂) : Stems g₀ g₂ := by
  refine ⟨h'.length.trans h.length, fun hn => ?_⟩
  obtain ⟨n₁, hn₁, hs⟩ := h'.node hn
  obtain ⟨n₀, hn₀, hs₀⟩ := h.node hn₁
  exact ⟨n₀, hn₀, hs₀.trans hs⟩

theorem stems_modify {f : Node → Node} (hf : ∀ n, g[id]? = some n → n.Stems (f n)) :
    Stems g (g.modify id f) := by
  refine ⟨List.length_modify _ _ _, fun {j n} hn => ?_⟩
  rw [List.getElem?_modify] at hn
  obtain ⟨m, hm, rfl⟩ := Option.map_eq_some_iff.1 hn
  refine ⟨m, hm, ?_⟩
  split
  · rename_i hj
    exact hf m (hj ▸ hm)
  · exact ⟨.inl rfl, fun _ h => h, fun h => h⟩

theorem hasTag_eq_true_iff {tag : Tag} :
    g.hasTag tag id = true ↔ ∃ n, g[id]? = some n ∧ n.tag = tag := by
  simp [hasTag]

/-- A key merges exactly if it did before. -/
theorem Stems.hasTag_merge (h : Stems g₀ g) (id : Nat) :
    g.hasTag .merge id = g₀.hasTag .merge id := by
  rw [Bool.eq_iff_iff, hasTag_eq_true_iff, hasTag_eq_true_iff]
  constructor
  · rintro ⟨n, hn, htag⟩
    obtain ⟨n₀, hn₀, hs⟩ := h.node hn
    refine ⟨n₀, hn₀, ?_⟩
    rcases hs.tag with heq | ⟨_, heq⟩
    · exact heq ▸ htag
    · exact absurd (heq.symm.trans htag) (by decide)
  · rintro ⟨n₀, hn₀, htag⟩
    have hid : id < g.length := h.length ▸ (List.getElem?_eq_some_iff.1 hn₀).1
    obtain ⟨n₁, hn₁, hs⟩ := h.node (List.getElem?_eq_getElem hid)
    obtain rfl := Option.some.inj (hn₁.symm.trans hn₀)
    refine ⟨_, List.getElem?_eq_getElem hid, ?_⟩
    rcases hs.tag with heq | ⟨hne, _⟩
    · exact heq.trans htag
    · exact absurd (hne.symm.trans htag) (by decide)

theorem Stems.isMerge (h : Stems g₀ g) : g.isMerge = g₀.isMerge :=
  funext fun field => h.hasTag_merge field.1

/-! ## Other content -/

theorem fields?_eq_some_iff :
    g.fields? id = some fields ↔ ∃ n, g[id]? = some n ∧ n.fields? = some fields :=
  Option.bind_eq_some_iff

theorem stems_setContent (h : g.fields? id = some fields) (new : List (Nat × Nat)) :
    Stems g (g.setContent id (.mapping new)) := by
  obtain ⟨n, hn, hfields⟩ := fields?_eq_some_iff.1 h
  refine stems_modify fun m hm => ⟨.inl rfl, fun _ hs => (nomatch hs), fun _ => ?_⟩
  obtain rfl := Option.some.inj (hn.symm.trans hm)
  rw [hfields]
  rfl

theorem fields?_setContent_self (h : g.fields? id = some fields) (new : List (Nat × Nat)) :
    (g.setContent id (.mapping new)).fields? id = some new := by
  obtain ⟨n, hn, -⟩ := fields?_eq_some_iff.1 h
  simp [fields?, setContent, hn, Node.fields?]

/-- If a node becomes another one, the fields of the new one count in place of the old ones. -/
theorem countP_allFields_modify {n : Node} (hn : g[id]? = some n) (f : Node → Node)
    (p : Nat × Nat → Bool) :
    (allFields (g.modify id f)).countP p + (n.fields?.getD []).countP p =
      g.allFields.countP p + ((f n).fields?.getD []).countP p := by
  obtain ⟨before, m, after, rfl, rfl, hmodify⟩ :=
    List.exists_of_modify f (List.getElem?_eq_some_iff.1 hn).1
  obtain rfl : m = n := by simpa using hn
  simp only [hmodify, allFields, List.flatMap_append, List.flatMap_cons, List.countP_append]
  omega

/-- Other fields of a mapping count in place of the old ones. -/
theorem merges_setContent (h : g.fields? id = some fields) (new : List (Nat × Nat)) :
    (g.setContent id (.mapping new)).merges + fields.countP g.isMerge =
      g.merges + new.countP g.isMerge := by
  obtain ⟨n, hn, hfields⟩ := fields?_eq_some_iff.1 h
  have hcount := countP_allFields_modify hn (fun n => { n with content := .mapping new }) g.isMerge
  rw [hfields] at hcount
  rw [merges, (stems_setContent h new).isMerge]
  exact hcount

/-! ## Keys that count as text -/

theorem stems_plainKey (g : Graph) (key : Nat) : Stems g (g.plainKey key) := by
  unfold plainKey
  split
  · rename_i h
    obtain ⟨n, hn, htag⟩ := hasTag_eq_true_iff.1 h
    refine stems_modify fun m hm => ⟨.inr ⟨?_, rfl⟩, fun _ h => h, fun h => h⟩
    obtain rfl := Option.some.inj (hn.symm.trans hm)
    exact htag
  · exact .refl g

theorem fields?_plainKey (g : Graph) (key id : Nat) :
    (g.plainKey key).fields? id = g.fields? id := by
  unfold plainKey
  split
  · simp only [fields?, List.getElem?_modify]
    cases g[id]? with
    | none => rfl
    | some n =>
      simp only [Option.bind_some]
      split <;> rfl
  · rfl

theorem merges_plainKey (g : Graph) (key : Nat) : (g.plainKey key).merges = g.merges := by
  rw [merges, (stems_plainKey g key).isMerge, merges]
  unfold plainKey
  split
  · rename_i h
    obtain ⟨n, hn, -⟩ := hasTag_eq_true_iff.1 h
    exact Nat.add_right_cancel
      (countP_allFields_modify hn (fun n => { n with tag := .text }) g.isMerge)
  · rfl

/-! ## Merging -/

/-- What merging has come to: nodes stem from those before, and there are no more merge keys. -/
structure Merged (g₀ g : Graph) : Prop where
  stems : Stems g₀ g
  merges : g.merges ≤ g₀.merges

/-- No field is to be merged. -/
def Free (g : Graph) (fields : List (Nat × Nat)) : Prop :=
  ∀ field ∈ fields, ¬ g.isMerge field = true

theorem Merged.refl (g : Graph) : Merged g g :=
  ⟨.refl g, Nat.le_refl _⟩

theorem Merged.trans (h : Merged g₀ g₁) (h' : Merged g₁ g₂) : Merged g₀ g₂ :=
  ⟨h.stems.trans h'.stems, Nat.le_trans h'.merges h.merges⟩

theorem Merged.free_iff (h : Merged g₀ g) : Free g fields ↔ Free g₀ fields := by
  unfold Free
  rw [h.stems.isMerge]

/-- Fields that are to be merged by nothing count for nothing. -/
theorem Free.countP (h : Free g fields) : fields.countP g.isMerge = 0 :=
  List.countP_eq_zero.2 h

theorem Free.append {fields' : List (Nat × Nat)} (h : Free g fields) (h' : Free g fields') :
    Free g (fields ++ fields') := fun field hf =>
  (List.mem_append.1 hf).elim (h field) (h' field)

theorem merged_plainKeys (fields : List (Nat × Nat)) (g : Graph) :
    Merged g (fields.foldl (fun g field => g.plainKey field.1) g) ∧
      ∀ id, (fields.foldl (fun g field => g.plainKey field.1) g).fields? id = g.fields? id := by
  induction fields generalizing g with
  | nil => exact ⟨.refl g, fun _ => rfl⟩
  | cons field fields ih =>
    obtain ⟨hmerged, hfields⟩ := ih (g.plainKey field.1)
    have hkey : Merged g (g.plainKey field.1) :=
      ⟨stems_plainKey g field.1, Nat.le_of_eq (merges_plainKey g field.1)⟩
    exact ⟨hkey.trans hmerged, fun id => (hfields id).trans (fields?_plainKey g field.1 id)⟩

/-- One field less is to be merged if the first of them is taken away. -/
theorem countP_eraseP {p : Nat × Nat → Bool} {field : Nat × Nat} (hmem : field ∈ fields)
    (hp : p field = true) : (fields.eraseP p).countP p + 1 = fields.countP p := by
  obtain ⟨a, before, after, -, ha, rfl, herase⟩ := List.exists_of_eraseP hmem hp
  rw [herase, List.countP_append, List.countP_append, List.countP_cons_of_pos ha, Nat.add_assoc]

/-- A mapping is freed of its merge keys, or there is something malformed. -/
def Frees (flatten : Nat → Graph → Except Fault Graph) (bound : Nat) : Prop :=
  ∀ g id, g.merges < bound → Ends (flatten id g)
    (fun g' => Merged g g' ∧ ∃ fields, g'.fields? id = some fields ∧ Free g' fields)
    (· = .malformed)

variable {flatten : Nat → Graph → Except Fault Graph} {bound : Nat}

theorem ends_fieldsFrom (h : Frees flatten bound) (hg : g.merges < bound) (id : Nat) :
    Ends (fieldsFrom flatten id g) (fun r => Merged g r.2 ∧ Free r.2 r.1) (· = .malformed) := by
  refine (h g id hg).bind ?_
  rintro g' ⟨hmerged, fields, hfields, hfree⟩
  refine ends_pure.2 ⟨hmerged, ?_⟩
  rwa [hfields]

theorem ends_fieldsFromAll (h : Frees flatten bound) (items : List Nat)
    (hg : g.merges < bound) : Ends (fieldsFromAll flatten items g)
      (fun r => Merged g r.2 ∧ Free r.2 r.1) (· = .malformed) := by
  induction items generalizing g with
  | nil => exact ⟨.refl g, fun _ hf => by cases hf⟩
  | cons id items ih =>
    refine (ends_fieldsFrom h hg id).bind ?_
    rintro ⟨first, g₁⟩ ⟨hfirst, hfree⟩
    refine (ih (Nat.lt_of_le_of_lt hfirst.merges hg)).bind ?_
    rintro ⟨others, g₂⟩ ⟨hothers, hfree'⟩
    exact ends_pure.2 ⟨hfirst.trans hothers, hfree'.append (hothers.free_iff.2 hfree)⟩

theorem ends_mergedFields (h : Frees flatten bound) (id : Nat) (hg : g.merges < bound) :
    Ends (mergedFields flatten id g) (fun r => Merged g r.2 ∧ Free r.2 r.1)
      (· = .malformed) := by
  unfold mergedFields
  split
  · exact ends_fieldsFromAll h _ hg
  · exact ends_fieldsFrom h hg id

/-- Fields that are free of merge keys go before own ones that are. -/
theorem Free.merged_setContent {merged own : List (Nat × Nat)} (hmerged : Free g merged)
    (hown : Free g own) (h : g.fields? id = some own) :
    Merged g (g.setContent id (.mapping (merged ++ own))) := by
  have hsame := merges_setContent h (merged ++ own)
  rw [List.countP_append, hmerged.countP, hown.countP] at hsame
  exact ⟨stems_setContent h _, Nat.le_of_eq hsame⟩

/-- **Merging ends**, if there are more steps than merge keys, and frees the mapping of them. -/
theorem ends_flatten (n : Nat) : Frees (Graph.flatten n) n := by
  induction n with
  | zero => exact fun _ _ h => absurd h (Nat.not_lt_zero _)
  | succ n ih =>
    intro g id hg
    unfold Graph.flatten
    split
    · rfl
    rename_i fields hfields
    split
    · -- what is left is not to be merged
      rename_i hnone
      obtain ⟨hmerged, hsame⟩ := merged_plainKeys fields g
      refine ⟨hmerged, fields, (hsame id).trans hfields, hmerged.free_iff.2 ?_⟩
      simpa [Free] using hnone
    · rename_i key value hfound
      obtain ⟨fields', hfields', hcount⟩ : ∃ fields', fields.eraseP g.isMerge = fields' ∧
          fields'.countP g.isMerge + 1 = fields.countP g.isMerge :=
        ⟨_, rfl, countP_eraseP (List.mem_of_find?_eq_some hfound) (List.find?_some hfound)⟩
      rw [hfields']
      -- the first merge key is taken away, so a step less is left for one less
      have hless := merges_setContent hfields fields'
      have hfirst : Merged g (g.setContent id (.mapping fields')) :=
        ⟨stems_setContent hfields _, by omega⟩
      refine (ends_mergedFields ih value (by omega)).bind ?_
      rintro ⟨merged, g₁⟩ ⟨hmerged, hfree⟩
      have hbound : g₁.merges ≤ (g.setContent id (.mapping fields')).merges := hmerged.merges
      refine (ih g₁ id (by omega)).bind ?_
      rintro g₂ ⟨hothers, own, hown, hfree'⟩
      have hfree := hothers.free_iff.2 hfree
      have hlast := hfree.merged_setContent hfree' hown
      rw [hown]
      exact ends_pure.2 ⟨((hfirst.trans hmerged).trans hothers).trans hlast, merged ++ own,
        fields?_setContent_self hown _, hlast.free_iff.2 (hfree.append hfree')⟩

end Graph

end PackageDoc.Yaml
