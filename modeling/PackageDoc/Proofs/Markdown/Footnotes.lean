import Mathlib.Data.List.Nodup
import PackageDoc.Markdown.Tree

/-!
# Footnotes on the way through tokens

Converting block tokens gives nodes and finds footnotes. The nodes do not depend on the footnotes
that were found before, and the footnotes are added one after another, each as soon as its tokens
have been converted:

    blocks ts fs = ((blocks ts []).1, fs.addAll (definitionsAll ts))                  (gives_blocks)
    (blocks ts []).1 = ts.flatMap fun t => (block t []).1.toList                 (blocks_eq_flatMap)

A footnote that was there keeps its place and takes the new content, so adding a table is adding
what was added to it:

    fs.addAll (gs.addAll ds) = (fs.addAll gs).addAll ds                              (addAll_addAll)
    blocks (ts ++ us) [] = ((blocks ts []).1 ++ (blocks us []).1,
      (blocks ts []).2.addAll (blocks us []).2)                               (blocks_append_addAll)
-/

namespace PackageDoc.Markdown

/-! ## Tables of footnotes -/

namespace Footnotes

variable {fs gs : Footnotes} {i j : String} {ns ms : List Node}

/-- The identifiers of footnotes in their order. -/
def identifiers (fs : Footnotes) : List String :=
  fs.map Prod.fst

/-- Footnotes with further ones set one after another. -/
def addAll (fs : Footnotes) (ds : List (String × List Node)) : Footnotes :=
  ds.foldl (fun fs d => fs.set d.1 d.2) fs

@[simp] theorem addAll_cons (fs : Footnotes) (d : String × List Node)
    (ds : List (String × List Node)) : fs.addAll (d :: ds) = (fs.set d.1 d.2).addAll ds := rfl

theorem addAll_append (fs : Footnotes) (ds es : List (String × List Node)) :
    fs.addAll (ds ++ es) = (fs.addAll ds).addAll es :=
  List.foldl_append

theorem mem_identifiers_set : j ∈ (fs.set i ns).identifiers ↔ j = i ∨ j ∈ fs.identifiers := by
  induction fs with
  | nil => simp [set, identifiers]
  | cons f fs ih =>
    obtain ⟨k, ms⟩ := f
    rw [set]
    split
    · next hk => simp [identifiers, hk]
    · simp only [identifiers, List.map_cons, List.mem_cons] at ih ⊢
      rw [ih]
      tauto

theorem nodup_identifiers_set (h : fs.identifiers.Nodup) : (fs.set i ns).identifiers.Nodup := by
  induction fs with
  | nil => simp [set, identifiers]
  | cons f fs ih =>
    obtain ⟨k, ms⟩ := f
    obtain ⟨hk, hfs⟩ := List.nodup_cons.1 h
    rw [set]
    split
    · exact h
    · next hne =>
      refine List.nodup_cons.2 ⟨fun hmem => ?_, ih hfs⟩
      rcases mem_identifiers_set.1 hmem with hki | hmem
      · exact hne hki
      · exact hk hmem

/-- Of two contents that a footnote is given, the second one counts. -/
theorem set_set_self (fs : Footnotes) (i : String) (ns ms : List Node) :
    (fs.set i ns).set i ms = fs.set i ms := by
  induction fs with
  | nil => simp [set]
  | cons f fs ih =>
    obtain ⟨k, ks⟩ := f
    by_cases hk : k = i
    · simp [set, hk]
    · simp [set, hk, ih]

/-- A footnote that is there keeps its place, so it can be given its content earlier. -/
theorem set_comm (hi : i ∈ fs.identifiers) (hne : i ≠ j) (ns ms : List Node) :
    (fs.set j ms).set i ns = (fs.set i ns).set j ms := by
  induction fs with
  | nil => simp [identifiers] at hi
  | cons f fs ih =>
    obtain ⟨k, ks⟩ := f
    by_cases hki : k = i
    · subst hki
      simp [set, hne]
    · have hfs : i ∈ identifiers fs := by
        simpa [identifiers, Ne.symm hki] using hi
      by_cases hkj : k = j
      · subst hkj
        simp [set, hki]
      · simp [set, hki, hkj, ih hfs]

theorem set_addAll (hi : i ∈ fs.identifiers) (hgs : i ∉ gs.identifiers) (ns : List Node) :
    (fs.addAll gs).set i ns = (fs.set i ns).addAll gs := by
  induction gs generalizing fs with
  | nil => rfl
  | cons g gs ih =>
    obtain ⟨hne, hgs⟩ := not_or.1 (mt List.mem_cons.2 hgs)
    rw [addAll_cons, addAll_cons, ih (mem_identifiers_set.2 (.inr hi)) hgs, set_comm hi hne]

theorem addAll_set (hgs : gs.identifiers.Nodup) (fs : Footnotes) (i : String) (ns : List Node) :
    fs.addAll (gs.set i ns) = (fs.addAll gs).set i ns := by
  induction gs generalizing fs with
  | nil => rfl
  | cons g gs ih =>
    obtain ⟨k, ks⟩ := g
    obtain ⟨hk, hgs⟩ := List.nodup_cons.1 hgs
    by_cases hki : k = i
    · subst hki
      have hmem : k ∈ (fs.set k ks).identifiers := mem_identifiers_set.2 (.inl rfl)
      rw [set, if_pos rfl, addAll_cons, addAll_cons, set_addAll hmem hk, set_set_self]
    · rw [set, if_neg hki, addAll_cons, addAll_cons, ih hgs]

/-- Adding a table of footnotes is adding what was added to it. -/
theorem addAll_addAll (hgs : gs.identifiers.Nodup) (fs : Footnotes)
    (ds : List (String × List Node)) : fs.addAll (gs.addAll ds) = (fs.addAll gs).addAll ds := by
  induction ds generalizing gs with
  | nil => rfl
  | cons d ds ih =>
    rw [addAll_cons, addAll_cons, ih (nodup_identifiers_set hgs), addAll_set hgs]

end Footnotes

/-! ## Definitions -/

mutual

/-- The definitions of footnotes in a block token, in the order in which they are completed: one
that stands in another comes before it. -/
def Token.definitions : Token → List (String × List Node)
  | .mk kind _ _ a children =>
    match kind with
    | .blockQuote => definitionsAll children
    | .list => definitionsInItems children
    | .footnotes => definitionsOfNotes children
    | .footnoteItem => definitionsAll children ++ [(footnoteIdentifier a, (blocks children []).1)]
    | _ => []
termination_by structural t => t

/-- The definitions in block tokens. -/
def definitionsAll : List Token → List (String × List Node)
  | [] => []
  | t :: ts => t.definitions ++ definitionsAll ts
termination_by structural ts => ts

/-- The definitions in the items of a list. -/
def definitionsInItems : List Token → List (String × List Node)
  | [] => []
  | .mk _ _ _ _ children :: ts => definitionsAll children ++ definitionsInItems ts
termination_by structural ts => ts

/-- The definitions that tokens are, with those inside them. -/
def definitionsOfNotes : List Token → List (String × List Node)
  | [] => []
  | .mk _ _ _ a children :: ts =>
    definitionsAll children ++
      (footnoteIdentifier a, (blocks children []).1) :: definitionsOfNotes ts
termination_by structural ts => ts

end

/-- A conversion gives the same whatever was found before, and adds these definitions. -/
structure Gives {α : Type} (f : Footnotes → α × Footnotes) (ds : List (String × List Node)) :
    Prop where
  fst : ∀ fs, (f fs).1 = (f []).1
  snd : ∀ fs, (f fs).2 = fs.addAll ds

mutual

theorem gives_block : ∀ t : Token, Gives (block t) t.definitions
  | .mk kind raw tight a children => by
    have hblocks := gives_blocks children
    have hitems := gives_items children
    cases kind with
    | blockQuote =>
      refine ⟨fun fs => ?_, hblocks.snd⟩
      show some (Node.container _ (blocks children fs).1 {}) =
        some (Node.container _ (blocks children []).1 {})
      rw [hblocks.fst]
    | list =>
      refine ⟨fun fs => ?_, hitems.snd⟩
      show some (Node.container _ (items children fs).1 {}) =
        some (Node.container _ (items children []).1 {})
      rw [hitems.fst]
    | footnotes => exact ⟨fun _ => rfl, footnoteItems_eq children⟩
    | footnoteItem =>
      refine ⟨fun _ => rfl, fun fs => ?_⟩
      rw [Token.definitions, Footnotes.addAll_append, ← hblocks.snd, ← hblocks.fst fs]
      rfl
    | _ => exact ⟨fun _ => rfl, fun _ => rfl⟩
termination_by structural t => t

theorem gives_blocks : ∀ ts : List Token, Gives (blocks ts) (definitionsAll ts)
  | [] => ⟨fun _ => rfl, fun _ => rfl⟩
  | t :: ts => by
    have ht := gives_block t
    have hts := gives_blocks ts
    refine ⟨fun fs => ?_, fun fs => ?_⟩
    · show (block t fs).1.toList ++ (blocks ts (block t fs).2).1 =
        (block t []).1.toList ++ (blocks ts (block t []).2).1
      rw [ht.fst, hts.fst, hts.fst (block t []).2]
    · show (blocks ts (block t fs).2).2 = _
      rw [hts.snd, ht.snd, definitionsAll, Footnotes.addAll_append]
termination_by structural ts => ts

theorem gives_items : ∀ ts : List Token, Gives (items ts) (definitionsInItems ts)
  | [] => ⟨fun _ => rfl, fun _ => rfl⟩
  | .mk kind raw tight a children :: ts => by
    have hchildren := gives_blocks children
    have hts := gives_items ts
    refine ⟨fun fs => ?_, fun fs => ?_⟩
    · show .container .listItem (blocks children fs).1 {} :: (items ts (blocks children fs).2).1 =
        .container .listItem (blocks children []).1 {} :: (items ts (blocks children []).2).1
      rw [hchildren.fst, hts.fst, hts.fst (blocks children []).2]
    · show (items ts (blocks children fs).2).2 = _
      rw [hts.snd, hchildren.snd, definitionsInItems, Footnotes.addAll_append]
termination_by structural ts => ts

theorem footnoteItems_eq : ∀ (ts : List Token) (fs : Footnotes),
    footnoteItems ts fs = fs.addAll (definitionsOfNotes ts)
  | [], fs => rfl
  | .mk kind raw tight a children :: ts, fs => by
    have hchildren := gives_blocks children
    rw [definitionsOfNotes, Footnotes.addAll_append, Footnotes.addAll_cons, ← hchildren.snd,
      ← hchildren.fst fs, ← footnoteItems_eq ts]
    rfl
termination_by structural ts => ts

end

/-- Each block token gives its nodes, whatever stands before it. -/
theorem blocks_eq_flatMap (ts : List Token) :
    (blocks ts []).1 = ts.flatMap fun t => (block t []).1.toList := by
  induction ts with
  | nil => rfl
  | cons t ts ih =>
    rw [List.flatMap_cons, ← ih, ← (gives_blocks ts).fst (block t []).2]
    rfl

theorem items_eq_map (ts : List Token) :
    (items ts []).1 = ts.map fun t => .container .listItem (blocks t.children []).1 {} := by
  induction ts with
  | nil => rfl
  | cons t ts ih =>
    obtain ⟨kind, raw, tight, a, children⟩ := t
    rw [List.map_cons, ← ih, ← (gives_items ts).fst (blocks children []).2]
    rfl

/-- Tokens one after another become the nodes of the first and those of the second ones, and the
footnotes of the second ones are added to those of the first. -/
theorem blocks_append_addAll (ts us : List Token) :
    blocks (ts ++ us) [] =
      ((blocks ts []).1 ++ (blocks us []).1,
        Footnotes.addAll (blocks ts []).2 (blocks us []).2) := by
  have hts := gives_blocks ts
  have hus := gives_blocks us
  have hnone : (Footnotes.identifiers []).Nodup := List.nodup_nil
  rw [blocks_append, hus.fst, hus.snd, hus.snd [], Footnotes.addAll_addAll hnone]
  rfl

end PackageDoc.Markdown
