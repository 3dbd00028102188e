import PackageDoc.Proofs.Comment.Badge
import PackageDoc.Proofs.Comment.Opening
import PackageDoc.Proofs.Ink

/-!
# What is written of a document

Whatever becomes of its white space, the text of a document is written in full and in order. The
literal text of a node is its content, with asterisks around emphasis, a bullet before each item,
and the title and the address around what a link shows. A program spells a text if, met once the
sentence is closed, it writes words whose ink is the ink of that text.

    Spells l t f → Spells l u g → Spells l (t ++ u) (f and then g)
    n.Fits place → n spells n.literal o                                        (spells_of_fits)
    words of a document = period, unless a heading comes first, and literal text
                                                                             (ink_of_render)

While the sentence is open the tokens are the same, but for the period before the first one.
-/

namespace PackageDoc

/-- The text of a leaf that is written. -/
def Leaf.literal : Leaf → List Char
  | .text content | .code content | .codeBlock content _ => content.toList
  | _ => []

namespace Node

mutual

/-- The text of a node that is written, in order, with its markers. -/
def literal (o : Comment.Options) : Node → List Char
  | .leaf kind _ => kind.literal
  | .table .. => []
  | .container kind children _ =>
    match kind with
    | .document | .heading _ | .paragraph | .list .. => literalAll o children
    | .listItem => Comment.bullet ++ literalAll o children
    | .emphasis => ['*'] ++ (literalAll o children ++ ['*'])
    | .strong => ['*', '*'] ++ (literalAll o children ++ ['*', '*'])
    | .link url title =>
      if o.suppressBadges && showsAny children then []
      else (title.elim [] String.toList ++ literalAll o children) ++
        (if url.isEmpty then [] else '(' :: url.toList ++ [')'])
    | .strikethrough | .blockQuote | .tableRow _ | .tableCell _ | .footnoteDefinition _ => []
termination_by structural n => n

/-- The texts of some nodes, one after another. -/
def literalAll (o : Comment.Options) : List Node → List Char
  | [] => []
  | n :: ns => literal o n ++ literalAll o ns
termination_by structural ns => ns

end

theorem literal_of_isDropped {kind : Container} (h : kind.isDropped = true)
    (o : Comment.Options) (ns : List Node) (info : Info) :
    (Node.container kind ns info).literal o = [] := by
  cases kind with
  | blockQuote => rfl
  | tableRow => rfl
  | tableCell => rfl
  | footnoteDefinition => rfl
  | _ => simp [Container.isDropped] at h

/-- Whether the first node that leaves something in a comment is a heading, which completes the
opening sentence. -/
def headed (o : Comment.Options) (ns : List Node) : Bool :=
  (ns.find? fun n => !n.silent o).any isHeading

end Node

namespace Comment

/-- The words of tokens, one after another. -/
def words (ts : List Token) : List Char :=
  ts.flatMap Token.text

theorem words_append (ts us : List Token) : words (ts ++ us) = words ts ++ words us :=
  List.flatMap_append

variable {t u : List Char} {w v : Writer} {l : Bool} {f g content : Writer → Step} {o : Options}

/-! ## Words and lines -/

theorem ink_words_write (h : w.sentenceOpen = false) (t : List Char) :
    Text.ink (words (write t w).1) = Text.ink t := by
  by_cases ht : t = []
  · rw [ht, write_nil]
    rfl
  · rw [write_of_closed ht h]
    simp [put, words]

theorem sentenceOpen_write (h : w.sentenceOpen = false) (t : List Char) :
    (write t w).2.sentenceOpen = false := by
  by_cases ht : t = []
  · rw [ht, write_nil]
    exact h
  · rw [write_snd ht]

/-- A line loses nothing but white space. -/
theorem ink_lineWord (line : List Char) (w : Writer) :
    Text.ink (lineWord line w) = Text.ink line := by
  have hunspaced : Text.ink (unspaced line) = Text.ink line := by
    unfold unspaced
    split
    · next hspace =>
      obtain ⟨start, rfl⟩ : ∃ start, line = start ++ [' '] :=
        List.getLast?_eq_some_iff.1 (by simpa using hspace)
      rw [List.dropLast_concat, Text.ink_append]
      simp [Text.ink_cons_of_blank (show Text.isBlank ' ' = true by decide)]
    · rfl
  unfold lineWord
  split
  · rw [Text.ink_trimStart, hunspaced]
  · exact hunspaced

/-- The lines of a code block lose nothing but white space. -/
theorem flatMap_ink_codeLines (s : List Char) : (codeLines s).flatMap Text.ink = Text.ink s := by
  rw [codeLines_eq, Text.flatMap_ink_rdropWhile, Text.flatMap_ink_dropWhile, List.flatMap_map]
  simp only [Text.ink_trimEnd]
  exact Text.flatMap_ink_bareLines s

/-! ## Programs -/

/-- Where text is written once the sentence is closed: inside a link, or outside with no image
remembered. -/
structure Writer.Past (linked : Bool) (w : Writer) : Prop extends w.At linked where
  closed : w.sentenceOpen = false

/-- A program that writes a text, but for white space, once the sentence is closed. -/
structure Spells (linked : Bool) (t : List Char) (f : Writer → Step) : Prop where
  ok : ∀ w, (f w).failure = none
  past : ∀ w, w.Past linked → (f w).writer.Past linked
  ink : ∀ w, w.Past linked → Text.ink (words (f w).tokens) = Text.ink t

theorem Spells.andThen (hf : Spells l t f) (hg : Spells l u g) :
    Spells l (t ++ u) fun w => (f w).andThen g := by
  constructor
  · intro w
    rw [Step.failure_andThen, hf.ok, hg.ok, Option.none_or]
  · intro w hw
    rw [Step.andThen_of_ok (hf.ok w)]
    exact hg.past _ (hf.past w hw)
  · intro w hw
    rw [Step.andThen_of_ok (hf.ok w), words_append, Text.ink_append, Text.ink_append,
      hf.ink w hw, hg.ink _ (hf.past w hw)]

/-- Only the ink of a text is spelled. -/
theorem Spells.congr (hf : Spells l t f) (h : Text.ink t = Text.ink u) : Spells l u f :=
  ⟨hf.ok, hf.past, fun w hw => (hf.ink w hw).trans h⟩

/-- A program that writes nothing and keeps to its place spells nothing. -/
theorem spells_nil (ok : ∀ w, (f w).failure = none) (silent : ∀ w, (f w).tokens = [])
    (past : ∀ w, w.Past l → (f w).writer.Past l) : Spells l [] f := by
  refine ⟨ok, past, fun w _ => ?_⟩
  rw [silent]
  rfl

theorem spells_pure : Spells l [] Step.pure :=
  spells_nil (fun _ => rfl) (fun _ => rfl) fun _ hw => hw

theorem spells_drop (kind : String) : Spells l [] (Step.drop kind) :=
  spells_nil (fun _ => rfl) (fun _ => rfl) fun _ hw => hw

theorem spells_requestBreak : Spells l [] fun w => .pure w.requestBreak :=
  spells_nil (fun _ => rfl) (fun _ => rfl) fun _ hw => ⟨⟨hw.inLink, hw.sawImage⟩, hw.closed⟩

theorem spells_requestParagraph : Spells l [] fun w => .pure w.requestParagraph :=
  spells_requestBreak.andThen spells_requestBreak

theorem spells_keepApart : Spells l [] fun w => .pure w.keepApart :=
  spells_nil (fun _ => rfl) (fun _ => rfl) fun _ hw => ⟨⟨hw.inLink, hw.sawImage⟩, hw.closed⟩

/-- Writing a word keeps the flags of links. -/
theorem past_write (hw : w.Past l) (t : List Char) : (write t w).2.Past l := by
  have hflags := write_flags t w w.inLink w.sawImage
  have hinLink : (write t w).2.inLink = w.inLink := congrArg (fun r => r.2.inLink) hflags
  have hsawImage : (write t w).2.sawImage = w.sawImage := congrArg (fun r => r.2.sawImage) hflags
  refine ⟨⟨?_, ?_⟩, sentenceOpen_write hw.closed t⟩
  · rw [hinLink]
    exact hw.inLink
  · rw [hsawImage]
    exact hw.sawImage

/-- A word may depend on the state as long as its ink does not. -/
theorem spells_write {word : Writer → List Char} (h : ∀ w, Text.ink (word w) = Text.ink t) :
    Spells l t fun w => .wrote (write (word w) w) := by
  refine ⟨fun _ => rfl, fun w hw => past_write hw _, fun w hw => ?_⟩
  rw [Step.tokens_wrote, ink_words_write hw.closed, h]

theorem spells_word (t : List Char) : Spells l t fun w => .wrote (write t w) :=
  spells_write fun _ => rfl

/-! ## Leaves -/

theorem spells_writeLines {ls : List (List Char)} (hne : ls ≠ []) :
    Spells l ls.flatten fun w => .wrote (writeLines ls w) := by
  have hline : ∀ line, Spells l line fun w => .wrote (write (lineWord line w) w) :=
    fun line => spells_write (ink_lineWord line)
  induction ls with
  | nil => exact absurd rfl hne
  | cons line rest ih =>
    cases rest with
    | nil =>
      have hlast : Spells l [] fun w =>
          .pure (if line.getLast? == some ' ' then w.keepApart else w) := by
        split
        · exact spells_keepApart
        · exact spells_pure
      rw [funext (wrote_writeLines_singleton line)]
      exact (hline line).andThen hlast
    | cons next rest =>
      rw [funext (wrote_writeLines_cons_cons line next rest)]
      exact (hline line).andThen (spells_requestBreak.andThen (ih (by simp)))

theorem spells_visitText (content : String) :
    Spells l content.toList (visitLeaf (.text content)) := by
  have hlines := spells_writeLines (l := l) (Text.splitAt_ne_nil '\n' content.toList)
  apply hlines.congr
  rw [Text.ink_flatten, Text.flatMap_ink_splitAt (by decide)]

theorem spells_writeCode (ls : List (List Char)) :
    Spells l ls.flatten fun w => .wrote (writeCode ls w) := by
  have haddBreak : Spells l [] fun w => .pure { w with breaks := w.breaks + 1 } :=
    spells_nil (fun _ => rfl) (fun _ => rfl) fun _ hw => ⟨⟨hw.inLink, hw.sawImage⟩, hw.closed⟩
  induction ls with
  | nil => exact spells_pure
  | cons line rest ih =>
    by_cases hline : line = []
    · rw [hline, funext (writeCode_nil_cons rest)]
      exact haddBreak.andThen ih
    · have hblank : Text.ink indent = [] := rfl
      have hindent : Text.ink (indent ++ line) = Text.ink line := by
        rw [Text.ink_append, hblank, List.nil_append]
      have hfirst : Spells l line fun w => .wrote (write (indent ++ line) w) :=
        (spells_word (indent ++ line)).congr hindent
      rw [funext (writeCode_cons hline rest)]
      exact hfirst.andThen (haddBreak.andThen ih)

theorem spells_visitCodeBlock (content : String) (language : Option String) :
    Spells l content.toList (visitLeaf (.codeBlock content language)) := by
  have hlines := spells_requestParagraph.andThen (spells_writeCode (l := l)
    (codeLines content.toList))
  have hprog := hlines.andThen spells_requestBreak
  have hsame : visitLeaf (.codeBlock content language) = fun w =>
      ((Step.pure w.requestParagraph).andThen fun v =>
        .wrote (writeCode (codeLines content.toList) v)).andThen fun v => .pure v.requestBreak := by
    funext w
    rw [visitLeaf, Step.pure_andThen, Step.andThen_pure_of_ok rfl]
  rw [hsame]
  apply hprog.congr
  rw [List.nil_append, List.append_nil, Text.ink_flatten, flatMap_ink_codeLines]

/-- An image is remembered, and only inside a link. -/
theorem spells_visitImage {kind : Leaf} (h : kind.isImage = true) :
    Spells l [] (visitLeaf kind) := by
  rw [funext (visitImage_eq h)]
  refine spells_nil (fun _ => rfl) (fun _ => rfl) fun w hw => ⟨⟨hw.inLink, fun hl => ?_⟩, hw.closed⟩
  show (w.sawImage || w.inLink) = false
  rw [hw.sawImage hl, hw.inLink, hl, Bool.or_false]

theorem spells_visitLeaf {kind : Leaf} {info : Info}
    (h : (Node.leaf kind info).unsupported? = none) : Spells l kind.literal (visitLeaf kind) := by
  cases kind with
  | text content => exact spells_visitText content
  | code content => exact spells_word content.toList
  | codeBlock content language => exact spells_visitCodeBlock content language
  | image => exact spells_visitImage rfl
  | lineBreak soft =>
    cases soft with
    | true => exact spells_requestBreak
    | false => exact spells_requestParagraph
  | thematicBreak => exact spells_drop _
  | htmlBlock => exact spells_drop _
  | htmlInline => exact spells_drop _
  | footnoteReference => exact spells_drop _
  | custom => simp [Node.unsupported?] at h

/-! ## Containers -/

theorem spells_visitMarked (hc : Spells l t content) (marker : List Char) :
    Spells l (marker ++ (t ++ marker)) (visitMarked marker content) := by
  have hapart : Spells l marker fun w => .wrote (write marker w.keepApart) :=
    spells_keepApart.andThen (spells_word marker)
  have hprog := (hapart.andThen hc).andThen (spells_word marker)
  rw [List.append_assoc] at hprog
  exact hprog

/-- Once the sentence is closed a heading is a paragraph. -/
theorem spells_visitHeading (hc : Spells l t content) : Spells l t (visitHeading content) := by
  have hprog := (spells_requestParagraph.andThen hc).andThen spells_requestParagraph
  rw [List.nil_append, List.append_nil] at hprog
  have hclosed : ∀ w, w.Past l → visitHeading content w =
      ((Step.pure w.requestParagraph).andThen content).andThen fun v =>
        .pure v.requestParagraph := by
    intro w hw
    rw [visitHeading, hw.closed, if_neg (by simp), Step.pure_andThen]
  refine ⟨failure_visitHeading hc.ok, fun w hw => ?_, fun w hw => ?_⟩
  · rw [hclosed w hw]
    exact hprog.past w hw
  · rw [hclosed w hw]
    exact hprog.ink w hw

theorem spells_visitEach {before : Writer → Writer} {ns : List Node}
    (hb : Spells l [] fun w => .pure (before w))
    (h : ∀ n ∈ ns, Spells l (n.literal o) (visit o n)) :
    Spells l (Node.literalAll o ns) (visitEach o before ns) := by
  induction ns with
  | nil => exact spells_pure
  | cons n ns ih =>
    exact (hb.andThen (h n List.mem_cons_self)).andThen
      (ih fun m hm => h m (List.mem_cons_of_mem _ hm))

theorem spells_visitItems {ns : List Node} (h : ∀ n ∈ ns, Spells l (n.literal o) (visit o n)) :
    Spells l (Node.literalAll o ns) (visitItems o ns) := by
  cases ns with
  | nil => exact spells_pure
  | cons n ns =>
    exact (h n List.mem_cons_self).andThen
      (spells_visitEach spells_requestBreak fun m hm => h m (List.mem_cons_of_mem _ hm))

/-! ## Links -/

theorem spells_visitLinkText (hc : Spells l t content) (title : Option String) :
    Spells l (title.elim [] String.toList ++ t) (visitLinkText title content) := by
  cases ht : title.all String.isEmpty with
  | true =>
    have hempty : title.elim [] String.toList = [] := by
      cases title with
      | none => rfl
      | some s => exact String.toList_eq_nil_iff.2 (String.isEmpty_iff.1 ht)
    rw [visitLinkText_of_isEmpty ht, hempty]
    exact hc
  | false =>
    cases title with
    | none => simp at ht
    | some s =>
      rw [visitLinkText_of_title ht]
      exact (spells_word s.toList).andThen (spells_keepApart.andThen hc)

theorem spells_visitAddress (url : String) :
    Spells l (if url.isEmpty then [] else ('(' :: url.toList) ++ [')']) (visitAddress url) := by
  cases hu : url.isEmpty with
  | true =>
    rw [visitAddress_of_isEmpty hu]
    exact spells_pure
  | false =>
    rw [visitAddress_of_ne hu]
    exact spells_keepApart.andThen (spells_word _)

theorem Writer.Past.enterLink (hw : w.Past false) : w.enterLink.Past true :=
  ⟨at_enterLink w, hw.closed⟩

theorem Writer.Past.leaveLink (hw : w.Past true) : w.leaveLink.Past false :=
  ⟨⟨rfl, fun _ => rfl⟩, hw.closed⟩

/-- A link writes what it shows and its address, unless it is a badge that is suppressed. -/
theorem spells_visitLink {p q : Bool} (hf : Fluent true p q content) (hc : Spells true t content)
    (url : String) (title : Option String) :
    Spells false
      (if o.suppressBadges && p then [] else (title.elim [] String.toList ++ t) ++
        (if url.isEmpty then [] else ('(' :: url.toList) ++ [')']))
      (visitLink o url title content) := by
  have hok := failure_visitLink hf.ok o url title
  rw [Bool.and_comm]
  cases hb : p && o.suppressBadges with
  | true =>
    have hbadge := visitLink_of_pictured hf hb url title
    refine spells_nil hok (fun w => (hbadge w).1) fun w hw => ?_
    rw [(hbadge w).2]
    exact ⟨⟨rfl, fun _ => rfl⟩, hw.closed⟩
  | false =>
    have hshown := visitLink_of_plain hf hb url title
    have hprog := (spells_visitLinkText hc title).andThen (spells_visitAddress url)
    refine ⟨hok, fun w hw => ?_, fun w hw => ?_⟩
    · rw [(hshown w).2]
      exact (hprog.past _ hw.enterLink).leaveLink
    · rw [(hshown w).1]
      exact hprog.ink _ hw.enterLink

/-! ## Nodes -/

/-- Every node that stands where it belongs writes its text. -/
theorem spells_of_fits {place : Position} {n : Node} (h : n.Fits place)
    (hok : n.unsupported? = none) : Spells place.inLink (n.literal o) (visit o n) := by
  have hall : ∀ {linked ns}, (∀ n ∈ ns, Spells linked (n.literal o) (visit o n)) →
      Spells linked (Node.literalAll o ns) (visitEach o id ns) :=
    fun h => spells_visitEach spells_pure h
  induction h with
  | blockLeaf => exact spells_visitLeaf hok
  | inlineLeaf => exact spells_visitLeaf hok
  | heading h ih =>
    exact spells_visitHeading (hall fun n hn => ih n hn (Node.unsupported?_of_mem hok rfl n hn))
  | paragraph h ih =>
    have hns := hall fun n hn => ih n hn (Node.unsupported?_of_mem hok rfl n hn)
    have hprog := hns.andThen spells_requestParagraph
    rw [List.append_nil] at hprog
    exact hprog
  | list h ih =>
    have hns := spells_visitItems fun n hn => ih n hn (Node.unsupported?_of_mem hok rfl n hn)
    have hprog := hns.andThen spells_requestBreak
    rw [List.append_nil] at hprog
    exact hprog
  | listItem h ih =>
    have hns := hall fun n hn => ih n hn (Node.unsupported?_of_mem hok rfl n hn)
    have hprog := ((spells_word bullet).andThen hns).andThen spells_requestBreak
    rw [List.append_nil] at hprog
    exact hprog
  | @dropped kind ns info h =>
    rw [Node.literal_of_isDropped h, visit_of_isDropped h]
    exact spells_drop _
  | table => exact spells_drop _
  | emphasis h ih =>
    exact spells_visitMarked
      (hall fun n hn => ih n hn (Node.unsupported?_of_mem hok rfl n hn)) ['*']
  | strong h ih =>
    exact spells_visitMarked
      (hall fun n hn => ih n hn (Node.unsupported?_of_mem hok rfl n hn)) ['*', '*']
  | strikethrough => simp [Node.unsupported?, Container.isDropped] at hok
  | @link url title ns info h ih =>
    have hns := hall fun n hn => ih n hn (Node.unsupported?_of_mem hok rfl n hn)
    have hfluent := fluent_visitEach (o := o) fun n hn =>
      behaves_of_fits (h n hn) (Node.unsupported?_of_mem hok rfl n hn)
    have hbadge : Node.showsAny ns = ns.any Node.pictured := Node.isBadge_link (.link h) hok
    have hlink := spells_visitLink (o := o) hfluent hns url title
    rw [← hbadge] at hlink
    exact hlink

/-! ## The opening sentence -/

variable {ns : List Node}

theorem words_opened (headed : Bool) (k : Token) (r : List Token) :
    words (opened headed k ++ r) = (if headed then [] else ['.']) ++ words (k :: r) := by
  cases headed <;> rfl

/-- Below a heading, or below anything else that is written, no period is due. -/
theorem headed_cons_of_silent {n : Node} (h : n.silent o = true) :
    Node.headed o (n :: ns) = Node.headed o ns := by
  simp [Node.headed, h]

theorem headed_cons_of_not_silent {n : Node} (h : n.silent o = false) :
    Node.headed o (n :: ns) = n.isHeading := by
  simp [Node.headed, h]

/-- A silent block leaves a fresh pair of states fresh. -/
theorem Block.fresh (hf : Block true f) (h : w.Fresh v) (hw : w.Outside) (hv : v.Outside) :
    (f w).tokens = [] ∧ (f v).tokens = [] ∧ (f w).writer.Fresh (f v).writer := by
  have hnw := (hf.tokens w hw h.resting_left).2 rfl
  have hnv := (hf.tokens v hv h.resting_right).2 rfl
  have hww := hf.outside w hw
  have hvv := hf.outside v hv
  refine ⟨hnw, hnv, h.runs (hnw ▸ hf.runs w) (hnv ▸ hf.runs v) ?_ ?_⟩
  · rw [hww.inLink, hvv.inLink]
  · rw [hww.sawImage, hvv.sawImage]

/-- Any other block writes something, so that the comment has begun. -/
theorem Block.begun (hf : Block false f) (hw : w.Outside) (hrest : w.Resting) :
    (f w).tokens ≠ [] ∧ (f w).writer.last ≠ [] := by
  have hne : (f w).tokens ≠ [] := by
    intro hnil
    have := (hf.tokens w hw hrest).1 hnil
    contradiction
  exact ⟨hne, fun hnil => hne ((hf.runs w).last_eq_nil.1 hnil).2⟩

/-- Blocks write the same words from a fresh pair of states, but for the period before the first
word. -/
theorem words_visitEach_fresh (h : Blocks ns) (hwv : w.Fresh v) (hw : w.Outside) (hv : v.Outside) :
    words (visitEach o id ns w).tokens =
      (if Node.silentAll o ns || Node.headed o ns then [] else ['.']) ++
        words (visitEach o id ns v).tokens := by
  induction ns generalizing w v with
  | nil => rfl
  | cons n ns ih =>
    have hns : Blocks ns := (show Blocks ([n] ++ ns) from h).of_append.2
    have hfits := h.fits n List.mem_cons_self
    have hok := h.supported n List.mem_cons_self
    have hblock : Block (n.silent o) (visit o n) := (behaves_of_fits hfits hok).1
    have hww := hblock.outside w hw
    have hvv := hblock.outside v hv
    rw [visitEach_cons, visitEach_cons, id_eq, id_eq, Step.andThen_of_ok (hblock.ok w),
      Step.andThen_of_ok (hblock.ok v), words_append, words_append, Node.silentAll]
    cases hs : n.silent o with
    | true =>
      rw [hs] at hblock
      obtain ⟨hnw, hnv, hfresh⟩ := hblock.fresh hwv hw hv
      rw [hnw, hnv, ih hns hfresh hww hvv, headed_cons_of_silent hs, Bool.true_and]
      rfl
    | false =>
      -- after this block the comment has begun, and the others write the same in both
      rw [hs] at hblock
      obtain ⟨-, hlw⟩ := hblock.begun hw hwv.resting_left
      obtain ⟨hnv, hlv⟩ := hblock.begun hv hwv.resting_right
      obtain ⟨k, r, hkr⟩ := List.exists_cons_of_ne_nil hnv
      rw [tokens_of_begun hns (hblock.resting w hwv.resting_left) hww hlw,
        tokens_of_begun hns (hblock.resting v hwv.resting_right) hvv hlv,
        tokens_visit_fresh hfits hok hwv hw.completing hkr, hkr, headed_cons_of_not_silent hs,
        Bool.false_and, Bool.false_or, words_opened n.isHeading k r, List.append_assoc]

/-! ## Whole documents -/

/-- The words of a document are those it has once the sentence is closed, and the period unless a
heading comes first. -/
theorem words_document (h : Blocks ns) (info : Info) :
    words (visitRoot o (.container .document ns info)).tokens =
      (if Node.headed o ns then [] else ['.']) ++
        words (visitEach o id ns (.start false)).tokens := by
  have hwords := words_visitEach_fresh (o := o) h fresh_start (outside_start _) (outside_start _)
  have hsilent := h.block (o := o).tokens (.start false) (outside_start _) (resting_start _)
  by_cases hw : Writes o ns
  · rw [tokens_document h hw, hwords, (writes_iff h).1 hw, Bool.false_or]
  · have hall : Node.silentAll o ns = true := by
      rw [writes_iff h, Bool.not_eq_false] at hw
      exact hw
    have hnone : Node.headed o ns = false := by
      rw [Node.headed, List.find?_eq_none.2]
      · rfl
      · simpa using Node.silentAll_iff.1 hall
    rw [tokens_document_of_silent h hw, hsilent.2 hall, hnone]
    rfl

/-- What stands between words: nothing, a space, or breaks that each begin a comment line. -/
theorem Token.Proper.chars_cases {k : Token} (h : k.Proper) :
    k.gap.chars = [] ∨ k.gap.chars = [' '] ∨
      ∃ c, 1 ≤ c ∧ k.gap.chars = (List.replicate c "\n//".toList).flatten ++ [' '] := by
  rcases h.gap_cases with hg | hg | ⟨j, hg⟩
  · exact .inl (by rw [hg]; rfl)
  · exact .inr (.inl (by rw [hg]; rfl))
  · exact .inr (.inr ⟨j + 1, by omega, by rw [hg]; rfl⟩)

/-- **No text is lost, repeated or moved.** A rendered document is its opening words, its tokens and
the package clause. A token is a word below nothing, a space or some breaks. But for white space,
the words of the tokens are the text of the document, after a period unless a heading completed the
sentence. -/
theorem ink_of_render {info : Info} {s : String} (hf : ∀ n ∈ ns, n.Fits .block)
    (h : render o (.container .document ns info) = .ok s) :
    ∃ ts : List Token,
      s = header o ++ String.ofList (ts.flatMap fun k => k.gap.chars ++ k.text) ++ footer o ∧
      (∀ k ∈ ts, k.text ≠ [] ∧ (k.gap.chars = [] ∨ k.gap.chars = [' '] ∨
        ∃ c, 1 ≤ c ∧ k.gap.chars = (List.replicate c "\n//".toList).flatten ++ [' '])) ∧
      Text.ink (words ts) = (if Node.headed o ns then [] else ['.']) ++
        Text.ink ((Node.container .document ns info).literal o) := by
  have hB := blocks_of_render hf h
  obtain ⟨hok, hs⟩ := render_eq_ok_iff.1 h
  have hspells : Spells false (Node.literalAll o ns) (visitEach o id ns) :=
    spells_visitEach spells_pure fun n hn => spells_of_fits (hf n hn) (hB.supported n hn)
  have hstart : (Writer.start false).Past false := ⟨⟨rfl, fun _ => rfl⟩, rfl⟩
  refine ⟨_, hs, fun k hk => ?_, ?_⟩
  · have hproper := ((runs_visitRoot hok).proper_of_mem hk).1
    exact ⟨hproper.text_ne_nil, hproper.chars_cases⟩
  · rw [words_document hB, Text.ink_append, hspells.ink _ hstart]
    cases Node.headed o ns <;> rfl

/-- A paragraph with emphasis, a suppressed badge and a link, above an item with code. -/
def inkedBlocks : List Node :=
  [.paragraph [.text "a\n  b ", .container .emphasis [.leaf (.code "c d") {}] {}, boldBadge,
      .text " ", .container (.link "u" (some "t")) [.text "e"] {}],
    .container (.list false 1 true)
      [.container .listItem [.leaf (.codeBlock "x\n\n  y" none) {}] {}] {}]

/-- The comment of these blocks. -/
def inkedComment : String :=
  "// Package main is the .\n//\n// a\n// b *c d* t e (u)\n//\n// • \n//\n//   x\n//\n//     y" ++
    "\npackage main\n"

theorem ink_of_render_inkedBlocks :
    (∀ n ∈ inkedBlocks, n.Fits .block) ∧ render {} (.document inkedBlocks) = .ok inkedComment ∧
      ∃ ts : List Token,
        inkedComment = header {} ++ String.ofList (text ts) ++ footer {} ∧
        Text.ink (words ts) = ".ab*cd*te(u)•xy".toList := by
  have hf : ∀ n ∈ inkedBlocks, n.Fits .block := by
    simp only [inkedBlocks, List.forall_mem_cons, List.not_mem_nil, false_implies, implies_true,
      and_true]
    constructor
    · apply Node.Fits.paragraph
      simp only [List.forall_mem_cons, List.not_mem_nil, false_implies, implies_true, and_true]
      refine ⟨.inlineLeaf rfl, .emphasis ?_, fits_boldBadge, .inlineLeaf rfl, .link ?_⟩
      · simpa using Node.Fits.inlineLeaf rfl
      · exact fun _ => Node.fits_of_mem_text "e"
    · apply Node.Fits.list
      intro n hn
      rw [List.mem_singleton.1 hn]
      apply Node.Fits.listItem
      simpa using Node.Fits.blockLeaf rfl
  have h : render {} (.document inkedBlocks) = .ok inkedComment := rfl
  obtain ⟨ts, hs, -, hink⟩ := ink_of_render hf h
  exact ⟨hf, h, ts, hs, hink.trans (by decide)⟩

end Comment

end PackageDoc
