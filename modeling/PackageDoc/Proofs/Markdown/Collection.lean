import Mathlib.Data.List.Basic
import Mathlib.Data.List.Nodup
import PackageDoc.DocumentReader
import PackageDoc.Proofs.Markdown.Correspondence

/-!
# The footnotes at the end of a document

Footnotes are collected while blocks are converted, each when its own blocks have been converted.
That is the postorder of the tokens: a footnote in another one is complete before it. The first
footnote with an identifier decides its place at the end of the document, the last one its content.

    definitionsAll ts = (notesOf ts).map Token.definition                      (definitionsAll_eq)
    the identifiers of addAll [] ds stand as in ds, each once               (pairwise_identifiers)
    an entry of addAll [] ds is the last one of ds with its identifier         (last_of_mem_addAll)
    a document has no other footnote definitions, and each document has its own
                                                                         (document_has_footnotes)
-/

namespace PackageDoc

namespace Markdown

/-! ## Order and content of a table -/

namespace Footnotes

variable {fs : Footnotes} {i j : String} {ns : List Node} {ds : List (String × List Node)}

/-- A footnote that is new comes last; one that was there keeps its place. -/
theorem identifiers_set (fs : Footnotes) (i : String) (ns : List Node) :
    (fs.set i ns).identifiers =
      if i ∈ fs.identifiers then fs.identifiers else fs.identifiers ++ [i] := by
  induction fs with
  | nil => rfl
  | cons f fs ih =>
    obtain ⟨k, ms⟩ := f
    by_cases hk : k = i
    · subst hk
      simp [set, identifiers]
    · have hset : set i ns ((k, ms) :: fs) = (k, ms) :: set i ns fs := by rw [set, if_neg hk]
      have hmem : i ∈ identifiers ((k, ms) :: fs) ↔ i ∈ identifiers fs := by
        simp [identifiers, Ne.symm hk]
      rw [hset]
      simp only [hmem]
      show k :: (set i ns fs).identifiers = _
      rw [ih]
      split <;> rfl

theorem mem_identifiers_addAll : i ∈ (addAll fs ds).identifiers ↔
    i ∈ fs.identifiers ∨ i ∈ ds.map Prod.fst := by
  induction ds generalizing fs with
  | nil => simp [addAll]
  | cons d ds ih =>
    rw [addAll_cons, ih, mem_identifiers_set, List.map_cons, List.mem_cons]
    tauto

/-- The identifiers of what was collected stand in the order in which each first came. -/
theorem pairwise_identifiers (ds : List (String × List Node)) :
    (addAll [] ds).identifiers.Pairwise fun i j =>
      (ds.map Prod.fst).idxOf i < (ds.map Prod.fst).idxOf j := by
  induction ds using List.reverseRecOn with
  | nil => exact .nil
  | append_singleton ds d ih =>
    obtain ⟨k, ms⟩ := d
    have hold : ∀ i ∈ (addAll [] ds).identifiers, i ∈ ds.map Prod.fst := by
      intro i hi
      rcases mem_identifiers_addAll.1 hi with hi | hi
      · cases hi
      · exact hi
    have hidx : ∀ i ∈ (addAll [] ds).identifiers,
        ((ds ++ [(k, ms)]).map Prod.fst).idxOf i = (ds.map Prod.fst).idxOf i := by
      intro i hi
      rw [List.map_append, List.idxOf_append_of_mem (hold i hi)]
    have hpairs : (addAll [] ds).identifiers.Pairwise fun i j =>
        ((ds ++ [(k, ms)]).map Prod.fst).idxOf i < ((ds ++ [(k, ms)]).map Prod.fst).idxOf j := by
      refine ih.imp_of_mem fun hi hj hij => ?_
      rw [hidx _ hi, hidx _ hj]
      exact hij
    have hset : addAll [] (ds ++ [(k, ms)]) = (addAll [] ds).set k ms := by
      rw [addAll_append]
      rfl
    rw [hset, identifiers_set]
    by_cases hk : k ∈ (addAll [] ds).identifiers
    · rw [if_pos hk]
      exact hpairs
    · rw [if_neg hk]
      refine List.pairwise_append.2 ⟨hpairs, List.pairwise_singleton _ _, fun i hi j hj => ?_⟩
      obtain rfl : j = k := List.mem_singleton.1 hj
      have hnew : j ∉ ds.map Prod.fst := fun hmem => hk (mem_identifiers_addAll.2 (.inr hmem))
      have hlast : ((ds ++ [(j, ms)]).map Prod.fst).idxOf j = (ds.map Prod.fst).length := by
        rw [List.map_append, List.idxOf_append_of_notMem hnew]
        simp
      rw [hidx i hi, hlast]
      exact List.idxOf_lt_length_iff.2 (hold i hi)

theorem nodup_identifiers_addAll (ds : List (String × List Node)) :
    (addAll [] ds).identifiers.Nodup :=
  (pairwise_identifiers ds).imp fun hij heq => by simp [heq] at hij

theorem mem_set {f : String × List Node} (hfs : fs.identifiers.Nodup) (h : f ∈ fs.set i ns) :
    f = (i, ns) ∨ f ∈ fs ∧ f.1 ≠ i := by
  induction fs with
  | nil => exact .inl (List.mem_singleton.1 h)
  | cons g fs ih =>
    obtain ⟨k, ms⟩ := g
    obtain ⟨hk, hfs⟩ := List.nodup_cons.1 hfs
    by_cases hki : k = i
    · rw [set, if_pos hki, List.mem_cons] at h
      rcases h with rfl | h
      · exact .inl (by rw [hki])
      · have hmem : f.1 ∈ identifiers fs := List.mem_map.2 ⟨f, h, rfl⟩
        have hne : f.1 ≠ k := fun heq => hk (heq ▸ hmem)
        exact .inr ⟨List.mem_cons_of_mem _ h, hki ▸ hne⟩
    · rw [set, if_neg hki, List.mem_cons] at h
      rcases h with rfl | h
      · exact .inr ⟨List.mem_cons_self, hki⟩
      · rcases ih hfs h with hf | ⟨hf, hne⟩
        · exact .inl hf
        · exact .inr ⟨List.mem_cons_of_mem _ hf, hne⟩

/-- What a footnote holds in the end is what it was given last. -/
theorem last_of_mem_addAll {f : String × List Node} (h : f ∈ addAll [] ds) :
    ∃ before after, ds = before ++ f :: after ∧ ∀ e ∈ after, e.1 ≠ f.1 := by
  induction ds using List.reverseRecOn with
  | nil => cases h
  | append_singleton ds d ih =>
    obtain ⟨k, ms⟩ := d
    rw [addAll_append] at h
    rcases mem_set (nodup_identifiers_addAll ds) h with rfl | ⟨h, hne⟩
    · exact ⟨ds, [], rfl, by simp⟩
    · obtain ⟨before, after, hds, hafter⟩ := ih h
      refine ⟨before, after ++ [(k, ms)], by simp [hds], fun e he => ?_⟩
      rcases List.mem_append.1 he with he | he
      · exact hafter e he
      · rw [List.mem_singleton.1 he]
        exact Ne.symm hne

end Footnotes

/-! ## Footnotes among tokens -/

/-- The kinds that conversion passes over with all that is below them. -/
def TokenKind.isSkipped : TokenKind → Bool
  | .image | .blankLine | .other _ => true
  | _ => false

variable {kind : TokenKind} {raw : String} {tight : Option Bool} {a : Attributes}
  {ts us : List Token} {t : Token}

mutual

/-- A token and the tokens below it, each after those below itself. -/
def Token.postorder : Token → List Token
  | .mk kind raw tight a children =>
    (if kind.isSkipped then [] else postorderAll children) ++ [.mk kind raw tight a children]
termination_by structural t => t

/-- The postorder of tokens one after another. -/
def postorderAll : List Token → List Token
  | [] => []
  | t :: ts => t.postorder ++ postorderAll ts
termination_by structural ts => ts

end

def Token.isNote (t : Token) : Bool :=
  t.kind == .footnoteItem

/-- The footnotes among tokens, at any depth, each after those inside it. -/
def notesOf (ts : List Token) : List Token :=
  (postorderAll ts).filter Token.isNote

/-- The identifier of a footnote. -/
def Token.identifier (t : Token) : String :=
  footnoteIdentifier t.attributes

/-- A footnote with the nodes that its content becomes. -/
def Token.definition (t : Token) : String × List Node :=
  (t.identifier, (blocks t.children []).1)

/-- If a token is a group of footnotes, it holds footnotes; if it is one, it holds blocks. -/
def Token.NoteFormed (t : Token) : Prop :=
  (t.kind = .footnotes → ∀ u ∈ t.children, u.kind = .footnoteItem) ∧
    (t.kind = .footnoteItem → ∀ u ∈ t.children, u.Formed .block)

/-- Block tokens as reading finds them, in footnotes too. -/
structure WellFormed (ts : List Token) : Prop where
  formed : ∀ t ∈ ts, t.Formed .block
  notes : ∀ t ∈ postorderAll ts, t.NoteFormed

/-- The kinds of block tokens in which blocks can stand. -/
def TokenKind.holdsBlocks : TokenKind → Bool
  | .blockQuote | .list | .footnotes | .footnoteItem => true
  | _ => false

theorem notesOf_cons (t : Token) (ts : List Token) :
    notesOf (t :: ts) = t.postorder.filter Token.isNote ++ notesOf ts := by
  rw [notesOf, postorderAll, List.filter_append, notesOf]

theorem notesOf_eq_nil (h : ∀ t ∈ ts, t.postorder.filter Token.isNote = []) : notesOf ts = [] := by
  induction ts with
  | nil => rfl
  | cons t ts ih =>
    obtain ⟨ht, hts⟩ := List.forall_mem_cons.1 h
    rw [notesOf_cons, ht, ih hts]
    rfl

/-- A token that is no footnote itself has those of the tokens below it, if it is looked into. -/
theorem filter_postorder_of_ne (hk : kind ≠ .footnoteItem) :
    (Token.mk kind raw tight a ts).postorder.filter Token.isNote =
      if kind.isSkipped then [] else notesOf ts := by
  have hnote : (Token.mk kind raw tight a ts).isNote = false := by simp [Token.isNote, hk]
  rw [Token.postorder, List.filter_append]
  split <;> simp [hnote, notesOf]

theorem filter_postorder_of_free (hk : kind ≠ .footnoteItem) (hts : notesOf ts = []) :
    (Token.mk kind raw tight a ts).postorder.filter Token.isNote = [] := by
  rw [filter_postorder_of_ne hk, hts, ite_self]

theorem filter_postorder_footnoteItem :
    (Token.mk .footnoteItem raw tight a ts).postorder.filter Token.isNote =
      notesOf ts ++ [.mk .footnoteItem raw tight a ts] := by
  rw [Token.postorder, List.filter_append]
  rfl

/-- No footnote stands in running text or in a table. -/
theorem filter_postorder_eq_nil {site : Site} (h : t.Formed site)
    (hblock : site = .block → t.kind.holdsBlocks = false) (hitem : site ≠ .item) :
    t.postorder.filter Token.isNote = [] := by
  induction h with
  | blockLeaf hk => exact filter_postorder_of_free (by rintro rfl; cases hk) rfl
  | textBlock hk _ ih =>
    exact filter_postorder_of_free (by rintro rfl; cases hk)
      (notesOf_eq_nil fun t ht => ih t ht nofun nofun)
  | blockQuote => cases hblock rfl
  | list => cases hblock rfl
  | listItem => exact absurd rfl hitem
  | headOnly _ ih =>
    exact filter_postorder_of_free nofun
      (notesOf_eq_nil (List.forall_mem_singleton.2 (ih nofun nofun)))
  | @table _ _ _ _ raw' tight' a' rows _ _ ihhead ihrows =>
    have hbody : (Token.mk .tableBody raw' tight' a' rows).postorder.filter Token.isNote = [] :=
      filter_postorder_of_free nofun (notesOf_eq_nil fun row hrow => ihrows row hrow nofun nofun)
    exact filter_postorder_of_free nofun (notesOf_eq_nil
      (List.forall_mem_cons.2 ⟨ihhead nofun nofun, List.forall_mem_singleton.2 hbody⟩))
  | tableHead _ ih =>
    exact filter_postorder_of_free nofun (notesOf_eq_nil fun t ht => ih t ht nofun nofun)
  | tableRow _ ih =>
    exact filter_postorder_of_free nofun (notesOf_eq_nil fun t ht => ih t ht nofun nofun)
  | tableCell _ ih =>
    exact filter_postorder_of_free nofun (notesOf_eq_nil fun t ht => ih t ht nofun nofun)
  | @note kind _ _ _ _ hk =>
    cases kind with
    | footnotes => cases hblock rfl
    | footnoteItem => cases hblock rfl
    | _ => cases hk
  | unknownBlock => rfl
  | inlineLeaf hk => exact filter_postorder_of_free (by rintro rfl; cases hk) rfl
  | image => rfl
  | span hk _ ih =>
    exact filter_postorder_of_free (by rintro rfl; cases hk)
      (notesOf_eq_nil fun t ht => ih t ht nofun nofun)
  | unknownInline => rfl

/-! ## Definitions in the order in which they are completed -/

theorem mem_postorder_self (t : Token) : t ∈ t.postorder := by
  cases t with
  | mk => exact List.mem_append_right _ (List.mem_singleton.2 rfl)

theorem mem_postorder_of_below (h : kind.isSkipped = false) (ht : t ∈ postorderAll ts) :
    t ∈ (Token.mk kind raw tight a ts).postorder := by
  rw [Token.postorder, h]
  exact List.mem_append_left _ ht

/-- In a group of footnotes each token counts as one, which they are. -/
theorem definitionsOfNotes_eq (h : ∀ t ∈ ts, t.kind = .footnoteItem) :
    definitionsOfNotes ts = definitionsAll ts := by
  induction ts with
  | nil => rfl
  | cons t ts ih =>
    obtain ⟨kind, raw, tight, a, children⟩ := t
    obtain ⟨hkind, hts⟩ := List.forall_mem_cons.1 h
    obtain rfl : kind = .footnoteItem := hkind
    rw [definitionsOfNotes, definitionsAll, ih hts, Token.definitions, List.append_assoc]
    rfl

theorem formed_of_footnoteItem (h : t.kind = .footnoteItem) : t.Formed .block := by
  obtain ⟨kind, raw, tight, a, ts⟩ := t
  obtain rfl : kind = .footnoteItem := h
  exact .note rfl

theorem Token.Formed.of_blockQuote (h : (Token.mk .blockQuote raw tight a ts).Formed .block) :
    ∀ t ∈ ts, t.Formed .block := by
  cases h with
  | blockQuote h => exact h
  | blockLeaf hk => cases hk
  | textBlock hk => cases hk
  | note hk => cases hk

theorem Token.Formed.of_list (h : (Token.mk .list raw tight a ts).Formed .block) :
    ∀ t ∈ ts, t.Formed .item := by
  cases h with
  | list h => exact h
  | blockLeaf hk => cases hk
  | textBlock hk => cases hk
  | note hk => cases hk

mutual

/-- The definitions in a token are the footnotes in it, each completed after those inside it. -/
theorem definitions_eq : ∀ t : Token, t.Formed .block → (∀ u ∈ t.postorder, u.NoteFormed) →
    t.definitions = (t.postorder.filter Token.isNote).map Token.definition
  | .mk kind raw tight a children, h, hnotes => by
    have free : kind.holdsBlocks = false →
        ((Token.mk kind raw tight a children).postorder.filter Token.isNote).map Token.definition =
          [] := by
      intro hkind
      rw [filter_postorder_eq_nil h (fun _ => hkind) nofun]
      rfl
    cases kind with
    | blockQuote =>
      rw [filter_postorder_of_ne (show TokenKind.blockQuote ≠ .footnoteItem by decide)]
      exact definitionsAll_eq children h.of_blockQuote
        fun u hu => hnotes u (mem_postorder_of_below rfl hu)
    | list =>
      rw [filter_postorder_of_ne (show TokenKind.list ≠ .footnoteItem by decide)]
      exact definitionsInItems_eq children h.of_list
        fun u hu => hnotes u (mem_postorder_of_below rfl hu)
    | footnotes =>
      have hitems : ∀ c ∈ children, c.kind = .footnoteItem :=
        (hnotes _ (mem_postorder_self _)).1 rfl
      rw [filter_postorder_of_ne (show TokenKind.footnotes ≠ .footnoteItem by decide)]
      exact (definitionsOfNotes_eq hitems).trans (definitionsAll_eq children
        (fun c hc => formed_of_footnoteItem (hitems c hc))
        fun u hu => hnotes u (mem_postorder_of_below rfl hu))
    | footnoteItem =>
      have hblocks : ∀ c ∈ children, c.Formed .block := (hnotes _ (mem_postorder_self _)).2 rfl
      have hbelow := definitionsAll_eq children hblocks
        fun u hu => hnotes u (mem_postorder_of_below rfl hu)
      rw [filter_postorder_footnoteItem, List.map_append, ← hbelow]
      rfl
    | _ => exact (free rfl).symm
termination_by structural t => t

theorem definitionsAll_eq : ∀ ts : List Token, (∀ t ∈ ts, t.Formed .block) →
    (∀ u ∈ postorderAll ts, u.NoteFormed) → definitionsAll ts = (notesOf ts).map Token.definition
  | [], _, _ => rfl
  | t :: ts, h, hnotes => by
    obtain ⟨ht, hts⟩ := List.forall_mem_cons.1 h
    obtain ⟨hthere, hafter⟩ := List.forall_mem_append.1 hnotes
    rw [definitionsAll, definitions_eq t ht hthere, definitionsAll_eq ts hts hafter, notesOf_cons,
      List.map_append]
termination_by structural ts => ts

theorem definitionsInItems_eq : ∀ ts : List Token, (∀ t ∈ ts, t.Formed .item) →
    (∀ u ∈ postorderAll ts, u.NoteFormed) →
    definitionsInItems ts = (notesOf ts).map Token.definition
  | [], _, _ => rfl
  | .mk kind raw tight a children :: ts, h, hnotes => by
    obtain ⟨ht, hts⟩ := List.forall_mem_cons.1 h
    obtain ⟨hthere, hafter⟩ := List.forall_mem_append.1 hnotes
    cases ht with
    | listItem hchildren =>
      have hbelow := definitionsAll_eq children hchildren
        fun u hu => hthere u (mem_postorder_of_below rfl hu)
      rw [definitionsInItems, hbelow, definitionsInItems_eq ts hts hafter, notesOf_cons,
        filter_postorder_of_ne (show TokenKind.listItem ≠ .footnoteItem by decide),
        List.map_append]
      rfl
termination_by structural ts => ts

end

/-! ## Footnotes inside footnotes -/

mutual

/-- The tokens below a token stand in the postorder right before it. -/
theorem below_infix_postorder : ∀ t : Token, ∀ u ∈ t.postorder, u.kind.isSkipped = false →
    postorderAll u.children ++ [u] <:+: t.postorder
  | .mk kind raw tight a children, u, hu, hkind => by
    rw [Token.postorder, List.mem_append, List.mem_singleton] at hu
    rcases hu with hu | rfl
    · cases hskip : kind.isSkipped with
      | true => simp [hskip] at hu
      | false =>
        have hbelow := below_infix_postorderAll children u (by simpa [hskip] using hu) hkind
        rw [Token.postorder, hskip]
        exact hbelow.trans (List.prefix_append _ _).isInfix
    · rw [Token.postorder, show kind.isSkipped = false from hkind]
      exact List.infix_rfl
termination_by structural t => t

theorem below_infix_postorderAll : ∀ ts : List Token, ∀ u ∈ postorderAll ts,
    u.kind.isSkipped = false → postorderAll u.children ++ [u] <:+: postorderAll ts
  | [], _, hu, _ => nomatch hu
  | t :: ts, u, hu, hkind => by
    rw [postorderAll] at hu ⊢
    rcases List.mem_append.1 hu with hu | hu
    · exact (below_infix_postorder t u hu hkind).trans (List.prefix_append _ _).isInfix
    · exact (below_infix_postorderAll ts u hu hkind).trans (List.suffix_append _ _).isInfix
termination_by structural ts => ts

end

/-- The footnotes inside a footnote are completed right before it. -/
theorem notesOf_children_infix (h : t ∈ notesOf ts) :
    notesOf t.children ++ [t] <:+: notesOf ts := by
  obtain ⟨hmem, hnote⟩ := List.mem_filter.1 h
  have hkind : t.kind = .footnoteItem := by simpa [Token.isNote] using hnote
  have hinfix := (below_infix_postorderAll ts t hmem (by rw [hkind]; rfl)).filter Token.isNote
  rw [List.filter_append, List.filter_singleton, hnote] at hinfix
  exact hinfix

/-! ## Footnote definitions in a document -/

end Markdown

/-- Whether a node is the definition of a footnote. -/
def Node.isFootnoteDefinition : Node → Bool
  | .container (.footnoteDefinition _) _ _ => true
  | _ => false

theorem Node.filter_nodes_eq_nil {n : Node} (hn : n.isFootnoteDefinition = false)
    (h : ∀ c ∈ n.children, c.nodes.filter isFootnoteDefinition = []) :
    n.nodes.filter isFootnoteDefinition = [] := by
  rw [nodes_eq, List.filter_cons_of_neg (by simp [hn]), List.filter_flatMap,
    List.flatMap_eq_nil_iff]
  exact h

/-- No footnote is defined in what stands where it belongs. -/
theorem Node.Shaped.filter_nodes_eq_nil {struck : Bool} {site : Site} {n : Node}
    (h : n.Shaped struck site) : n.nodes.filter isFootnoteDefinition = [] := by
  induction h with
  | blockLeaf => exact Node.filter_nodes_eq_nil rfl (List.forall_mem_nil _)
  | inlineLeaf => exact Node.filter_nodes_eq_nil rfl (List.forall_mem_nil _)
  | headless _ ih => exact Node.filter_nodes_eq_nil rfl ih
  | table _ _ _ ihhead ihbody =>
    exact Node.filter_nodes_eq_nil rfl (List.forall_mem_cons.2 ⟨ihhead, ihbody⟩)
  | heading _ ih => exact Node.filter_nodes_eq_nil rfl ih
  | paragraph _ ih => exact Node.filter_nodes_eq_nil rfl ih
  | blockQuote _ ih => exact Node.filter_nodes_eq_nil rfl ih
  | list _ ih => exact Node.filter_nodes_eq_nil rfl ih
  | listItem _ ih => exact Node.filter_nodes_eq_nil rfl ih
  | tableRow _ ih => exact Node.filter_nodes_eq_nil rfl ih
  | tableCell _ ih => exact Node.filter_nodes_eq_nil rfl ih
  | emphasis _ ih => exact Node.filter_nodes_eq_nil rfl ih
  | strong _ ih => exact Node.filter_nodes_eq_nil rfl ih
  | link _ ih => exact Node.filter_nodes_eq_nil rfl ih
  | strikethrough _ _ ih => exact Node.filter_nodes_eq_nil rfl ih

namespace Markdown

theorem filter_nodes_blocks (ts : List Token) :
    ((blocks ts []).1.flatMap Node.nodes).filter Node.isFootnoteDefinition = [] := by
  rw [List.filter_flatMap, List.flatMap_eq_nil_iff]
  exact fun n hn => (shaped_of_mem_blocks ts [] (admits_true _) n hn).filter_nodes_eq_nil

/-- Footnotes that hold the nodes of some blocks are the only ones defined in them. -/
theorem filter_nodes_footnotes {fs : Footnotes} (h : ∀ f ∈ fs, ∃ ts, (blocks ts []).1 = f.2) :
    (fs.nodes.flatMap Node.nodes).filter Node.isFootnoteDefinition = fs.nodes := by
  induction fs with
  | nil => rfl
  | cons f fs ih =>
    obtain ⟨⟨ts, hf⟩, hfs⟩ := List.forall_mem_cons.1 h
    have hnode : Footnotes.nodes (f :: fs) =
      .container (.footnoteDefinition f.1) f.2 {} :: Footnotes.nodes fs := rfl
    rw [hnode, List.flatMap_cons, List.filter_append, ih hfs, Node.nodes_eq,
      List.filter_cons_of_pos rfl, Node.children_container, ← hf, filter_nodes_blocks]
    rfl

end Markdown

/-! ## A reader that is used again -/

namespace DocumentReader

open Markdown

theorem options_read (r : DocumentReader) (d : Disk) (src : Source) :
    (r.read d src).2.options = r.options := by
  unfold read
  cases src.load d with
  | error => rfl
  | ok s =>
    dsimp only
    cases FrontMatter.extract r.options s.toList <;> rfl

/-- A document is read as if it were the first one. -/
theorem fst_read (r : DocumentReader) (d : Disk) (src : Source) :
    (r.read d src).1 = readSource d r.options src := by
  unfold read readSource readText
  cases src.load d with
  | error => rfl
  | ok s =>
    dsimp only [Except.bind]
    cases FrontMatter.extract r.options s.toList <;> rfl

theorem fst_readAll (r : DocumentReader) (d : Disk) (srcs : List Source) :
    (r.readAll d srcs).1 = srcs.map (readSource d r.options) := by
  induction srcs generalizing r with
  | nil => rfl
  | cons src srcs ih =>
    have hrest := ih (r.read d src).2
    rw [options_read] at hrest
    rw [readAll, List.map_cons, ← fst_read, ← hrest]

end DocumentReader

/-! ## The whole conversion -/

namespace Markdown

variable {ts : List Token}

theorem document_eq (ts : List Token) (metadata : Fields) :
    document ts metadata =
      Node.document ((blocks ts []).1 ++ (Footnotes.addAll [] (definitionsAll ts)).nodes)
        metadata := by
  rw [document, ← (gives_blocks ts).snd]

/-- Each entry of the table is the footnote with its identifier that was completed last. -/
theorem exists_last_note (h : WellFormed ts) {f : String × List Node}
    (hf : f ∈ Footnotes.addAll [] (definitionsAll ts)) :
    ∃ before t after, notesOf ts = before ++ t :: after ∧ t.definition = f ∧
      ∀ u ∈ after, u.identifier ≠ f.1 := by
  have hdefs := definitionsAll_eq ts h.formed h.notes
  obtain ⟨ds, es, hsplit, hes⟩ := Footnotes.last_of_mem_addAll hf
  obtain ⟨before, rest, hnotes, -, hrest⟩ := List.map_eq_append_iff.1 (hdefs.symm.trans hsplit)
  obtain ⟨t, after, rfl, ht, rfl⟩ := List.map_eq_cons_iff.1 hrest
  exact ⟨before, t, after, hnotes, ht, fun u hu => hes _ (List.mem_map_of_mem hu)⟩

theorem filter_nodes_document (h : WellFormed ts) (metadata : Fields) :
    (document ts metadata).nodes.filter Node.isFootnoteDefinition =
      (Footnotes.addAll [] (definitionsAll ts)).nodes := by
  have hcontents : ∀ f ∈ Footnotes.addAll [] (definitionsAll ts),
      ∃ us, (blocks us []).1 = f.2 := by
    intro f hf
    obtain ⟨-, t, -, -, rfl, -⟩ := exists_last_note h hf
    exact ⟨t.children, rfl⟩
  rw [document_eq, Node.document, Node.nodes_eq, Node.children_container,
    List.filter_cons_of_neg (by simp [Node.isFootnoteDefinition]), List.flatMap_append,
    List.filter_append, filter_nodes_blocks, filter_nodes_footnotes hcontents, List.nil_append]

/-- **Footnotes stand at the end, each once.** A document for well-formed tokens has the nodes of
the blocks and, after them, one definition for each identifier of a footnote at any depth. They
stand in the order in which a footnote with that identifier was first completed, where those inside
a footnote are completed before it, and each holds the content of the one that was completed last.
There are no other definitions in the document, and none from a document that was read before. -/
theorem document_has_footnotes (h : WellFormed ts) (metadata : Fields) :
    (∃ fs : Footnotes,
      (document ts metadata).children = (blocks ts []).1 ++ fs.nodes ∧
      fs.identifiers.Nodup ∧
      (∀ i, i ∈ fs.identifiers ↔ i ∈ (notesOf ts).map Token.identifier) ∧
      (fs.identifiers.Pairwise fun i j =>
        ((notesOf ts).map Token.identifier).idxOf i <
          ((notesOf ts).map Token.identifier).idxOf j) ∧
      (∀ f ∈ fs, ∃ before t after, notesOf ts = before ++ t :: after ∧ t.definition = f ∧
        ∀ u ∈ after, u.identifier ≠ f.1) ∧
      (document ts metadata).nodes.filter Node.isFootnoteDefinition = fs.nodes) ∧
    (∀ t ∈ notesOf ts, notesOf t.children ++ [t] <:+: notesOf ts) ∧
    ∀ (r : DocumentReader) (d : Disk) (srcs : List Source),
      (r.readAll d srcs).1 = srcs.map (readSource d r.options) := by
  have hids : (notesOf ts).map Token.identifier = (definitionsAll ts).map Prod.fst := by
    rw [definitionsAll_eq ts h.formed h.notes, List.map_map]
    rfl
  rw [hids]
  refine ⟨⟨Footnotes.addAll [] (definitionsAll ts), ?_, Footnotes.nodup_identifiers_addAll _,
    fun i => ?_, Footnotes.pairwise_identifiers _, fun f => exists_last_note h,
    filter_nodes_document h metadata⟩, fun t => notesOf_children_infix, DocumentReader.fst_readAll⟩
  · rw [document_eq]
    rfl
  · rw [Footnotes.mem_identifiers_addAll]
    simp [Footnotes.identifiers]

/-- A footnote in a quote with another one in it, further ones with the same identifiers in a list
and in a footnote, one of them with a label and an empty key, and an image with one in its text. -/
def repeatedNotes : List Token :=
  let note (key : String) (ts : List Token) : Token :=
    .mk .footnoteItem "" none { key := some key } ts
  let labelled (label : String) (ts : List Token) : Token :=
    .mk .footnoteItem "" none { key := some "", label := some label } ts
  let paragraph (raw : String) : Token := .branch .paragraph [.leaf .text raw]
  [.branch .blockQuote [.branch .footnotes [note "a" [paragraph "1", note "b" [paragraph "2"]]]],
    .branch .list [.branch .listItem [labelled "a" [paragraph "3"]]],
    .branch .paragraph [.branch .image [note "d" []]],
    .branch .footnotes [note "c" [.branch .footnotes [note "b" [paragraph "4"]]]]]

theorem wellFormed_repeatedNotes : WellFormed repeatedNotes := by
  have one {site : Site} {t : Token} (h : t.Formed site) : ∀ u ∈ [t], u.Formed site :=
    List.forall_mem_singleton.2 h
  have paragraph (raw : String) :
      (Token.mk .paragraph "" none {} [.mk .text raw none {} []]).Formed .block :=
    .textBlock rfl (one (.inlineLeaf rfl))
  have note (a : Attributes) (ts : List Token) :
      (Token.mk .footnoteItem "" none a ts).Formed .block :=
    .note rfl
  have notes (ts : List Token) : (Token.mk .footnotes "" none {} ts).Formed .block :=
    .note rfl
  constructor
  · simp only [repeatedNotes, List.forall_mem_cons]
    exact ⟨.blockQuote (one (notes _)), .list (one (.listItem (one (note _ _)))),
      .textBlock rfl (one .image), notes _, List.forall_mem_nil _⟩
  · simp [repeatedNotes, postorderAll, Token.postorder, TokenKind.isSkipped, Token.NoteFormed,
      Token.branch, Token.leaf, paragraph, note, notes]

theorem document_has_footnotes_repeatedNotes :
    WellFormed repeatedNotes ∧
      (notesOf repeatedNotes).map Token.identifier = ["b", "a", "a", "b", "c"] ∧
      ∃ fs : Footnotes,
        (document repeatedNotes []).children = (blocks repeatedNotes []).1 ++ fs.nodes ∧
        fs.nodes = [.container (.footnoteDefinition "b") [.paragraph [.text "4"]] {},
          .container (.footnoteDefinition "a") [.paragraph [.text "3"]] {},
          .container (.footnoteDefinition "c") [] {}] := by
  obtain ⟨⟨fs, hchildren, -, -, -, -, hnodes⟩, -, -⟩ :=
    document_has_footnotes wellFormed_repeatedNotes []
  exact ⟨wellFormed_repeatedNotes, rfl, fs, hchildren, hnodes.symm.trans rfl⟩

end Markdown

end PackageDoc
