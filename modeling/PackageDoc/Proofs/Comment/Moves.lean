import PackageDoc.Proofs.Comment.Leaves
import PackageDoc.Proofs.Tree

/-!
# The moves of the writer

Writing a tree is made of a few moves: writing a word, writing lines of code, closing the opening
sentence, requesting a break, keeping the next token apart, and setting flags. A relation between
the state before, the tokens that are added and the state after is closed if it holds of every
move, with words and code among those given, and of moves one after another. Such a relation holds
of writing any tree that has just these words and this code.

    Closed (WordOf n) (CodeOf n) Q → (visit o n w).failure = none →
      Q w (visit o n w).tokens (visit o n w).writer                          (Closed.visit)

So what holds of all tokens, and of every state that is reached, can be shown move by move. Where a
leaf is more than its moves, because a word of it depends on the state it is written in, the
relation is shown of each leaf and of the moves around leaves       (Joined.visit).
-/

namespace PackageDoc.Comment

/-! ## Words -/

/-- The words that a node itself puts into a comment. -/
inductive Word : Node → List Char → Prop
  | text {content info piece} (h : piece <:+: content.toList) (hn : '\n' ∉ piece) :
      Word (.leaf (.text content) info) piece
  | code {content info} : Word (.leaf (.code content) info) content.toList
  | codeBlock {content language info line} (h : line ∈ codeLines content.toList) :
      Word (.leaf (.codeBlock content language) info) (indent ++ line)
  | bullet {ns info} : Word (.container .listItem ns info) bullet
  | emphasis {ns info} : Word (.container .emphasis ns info) ['*']
  | strong {ns info} : Word (.container .strong ns info) ['*', '*']
  | title {url title ns info} : Word (.container (.link url (some title)) ns info) title.toList
  | url {url title ns info} :
      Word (.container (.link url title) ns info) (('(' :: url.toList) ++ [')'])

/-- The words of a tree. -/
def WordOf (n : Node) (t : List Char) : Prop :=
  ∃ m ∈ n.nodes, Word m t

/-- The lines of code that a node itself puts into a comment. -/
inductive Code : Node → List (List Char) → Prop
  | codeBlock {content language info} :
      Code (.leaf (.codeBlock content language) info) (codeLines content.toList)

/-- The lines of code of the code blocks of a tree. -/
def CodeOf (n : Node) (ls : List (List Char)) : Prop :=
  ∃ m ∈ n.nodes, Code m ls

/-! ## Closed relations -/

/-- A relation between two states and the tokens written from the one to the other that holds of
the moves around leaves, with the given words, and of moves one after another. -/
structure Joined (own : List Char → Prop) (Q : Writer → List Token → Writer → Prop) : Prop where
  stay : ∀ w, Q w [] w
  write : ∀ w t, own t → Q w (write t w).1 (write t w).2
  close : ∀ w, w.sentenceOpen = true → Q w (closeSentence w).1 (closeSentence w).2
  requestBreak : ∀ w, Q w [] w.requestBreak
  keepApart : ∀ w, Q w [] w.keepApart
  flags : ∀ w completing inLink sawImage, Q w [] { w with completing, inLink, sawImage }
  trans : ∀ {u v w ts us}, Q u ts v → Q v us w → Q u (ts ++ us) w

/-- A relation between two states and the tokens written from the one to the other that holds of
every move, with the given words and code, and of moves one after another. -/
structure Closed (own : List Char → Prop) (code : List (List Char) → Prop)
    (Q : Writer → List Token → Writer → Prop) : Prop where
  stay : ∀ w, Q w [] w
  write : ∀ w t, own t → Q w (write t w).1 (write t w).2
  writeCode : ∀ w ls, code ls → Q w (writeCode ls w).1 (writeCode ls w).2
  close : ∀ w, w.sentenceOpen = true → Q w (closeSentence w).1 (closeSentence w).2
  requestBreak : ∀ w, Q w [] w.requestBreak
  keepApart : ∀ w, Q w [] w.keepApart
  flags : ∀ w completing inLink sawImage, Q w [] { w with completing, inLink, sawImage }
  trans : ∀ {u v w ts us}, Q u ts v → Q v us w → Q u (ts ++ us) w

/-- A relation holds of a step from a state, unless the step failed. -/
def Step.From (Q : Writer → List Token → Writer → Prop) (w : Writer) (s : Step) : Prop :=
  s.failure = none → Q w s.tokens s.writer

variable {own : List Char → Prop} {code : List (List Char) → Prop}
  {Q : Writer → List Token → Writer → Prop} {u v w : Writer} {t : List Char} {ts : List Token}
  {s : Step} {f content : Writer → Step}

namespace Joined

variable (hQ : Joined own Q)
include hQ

/-- A move that writes nothing, after others. -/
theorem trans_nil (h : Q u ts v) (h' : Q v [] w) : Q u ts w := by
  simpa using hQ.trans h h'

/-- A move that writes nothing, before others. -/
theorem nil_trans (h : Q u [] v) (h' : Q v ts w) : Q u ts w := by
  simpa using hQ.trans h h'

theorem requestParagraph (w : Writer) : Q w [] w.requestParagraph :=
  hQ.trans_nil (hQ.requestBreak w) (hQ.requestBreak _)

theorem andThen (hs : s.From Q w) (hf : ∀ v, (f v).From Q v) : (s.andThen f).From Q w := by
  intro h
  rw [Step.failure_andThen, Option.or_eq_none_iff] at h
  rw [Step.andThen_of_ok h.1]
  exact hQ.trans (hs h.1) (hf _ h.2)

theorem after (h : Q w [] v) (hs : s.From Q v) : s.From Q w :=
  fun hok => hQ.nil_trans h (hs hok)

theorem adjust {f : Writer → Writer} (hs : s.From Q w) (hf : ∀ v, Q v [] (f v)) :
    (s.adjust f).From Q w :=
  fun hok => hQ.trans_nil (hs hok) (hf _)

theorem word (h : own t) : (Step.wrote (Comment.write t w)).From Q w :=
  fun _ => hQ.write w t h

end Joined

/-! ## Leaves -/

namespace Closed

/-- Fewer words and less code ask for less. -/
theorem mono {own' : List Char → Prop} {code' : List (List Char) → Prop} (hQ : Closed own code Q)
    (hown : ∀ t, own' t → own t) (hcode : ∀ ls, code' ls → code ls) : Closed own' code' Q :=
  { hQ with
    write := fun w t h => hQ.write w t (hown t h)
    writeCode := fun w ls h => hQ.writeCode w ls (hcode ls h) }

theorem joined (hQ : Closed own code Q) : Joined own Q :=
  { hQ with }

theorem writeLines (hQ : Closed own code Q) {ls : List (List Char)}
    (h : ∀ line ∈ ls, ∀ piece, piece <:+: line → own piece) (w : Writer) :
    Q w (writeLines ls w).1 (writeLines ls w).2 := by
  induction ls generalizing w with
  | nil => exact hQ.stay w
  | cons line rest ih =>
    have hline : own (lineWord line w) := h line List.mem_cons_self _ (lineWord_infix_line line w)
    cases rest with
    | nil =>
      rw [writeLines_singleton]
      split
      · exact hQ.joined.trans_nil (hQ.write _ _ hline) (hQ.keepApart _)
      · exact hQ.write _ _ hline
    | cons next rest =>
      rw [writeLines_cons_cons]
      exact hQ.trans (hQ.joined.trans_nil (hQ.write _ _ hline) (hQ.requestBreak _))
        (ih (fun l hl => h l (List.mem_cons_of_mem _ hl)) _)

theorem visitLeaf {kind : Leaf} {info : Info}
    (hQ : Closed (Word (.leaf kind info)) (Code (.leaf kind info)) Q) (w : Writer) :
    (visitLeaf kind w).From Q w := by
  intro h
  cases kind with
  | text content =>
    refine hQ.writeLines (fun line hl piece hp => .text ?_ ?_) w
    · exact hp.trans (Text.infix_of_mem_splitAt hl)
    · exact fun hn => Text.not_mem_of_mem_splitAt hl (hp.subset hn)
  | code => exact hQ.write _ _ .code
  | codeBlock content =>
    rw [Comment.visitLeaf, Step.tokens_adjust, Step.writer_adjust, Step.tokens_wrote,
      Step.writer_wrote]
    have hlines := hQ.joined.nil_trans (hQ.joined.requestParagraph w)
      (hQ.writeCode w.requestParagraph (codeLines content.toList) .codeBlock)
    exact hQ.joined.trans_nil hlines (hQ.requestBreak _)
  | lineBreak soft =>
    cases soft with
    | true => exact hQ.requestBreak w
    | false => exact hQ.joined.requestParagraph w
  | image =>
    rw [Comment.visitLeaf]
    show Q w [] (if w.inLink then { w with sawImage := true } else w)
    split
    · exact hQ.flags _ _ _ _
    · exact hQ.stay w
  | thematicBreak => exact hQ.stay w
  | htmlBlock => exact hQ.stay w
  | htmlInline => exact hQ.stay w
  | footnoteReference => exact hQ.stay w
  | custom => simp [Comment.visitLeaf, Step.fail] at h

end Closed

/-! ## Containers -/

/-- What a link shows, written before it is known whether the link is a badge. -/
def linkBody (title : Option String) (content : Writer → Step) (w : Writer) : Step :=
  (visitLinkText title content { w with inLink := true, sawImage := false }).adjust fun v =>
    { v with inLink := false }

theorem visitLink_of_failure {o : Options} {url kind : String} {title : Option String}
    {content : Writer → Step} {w : Writer} (h : (linkBody title content w).failure = some kind) :
    visitLink o url title content w = { linkBody title content w with tokens := [] } := by
  unfold linkBody at h ⊢
  unfold visitLink
  simp only [h]

/-- A suppressed badge changes nothing but flags. -/
theorem visitLink_of_badge {o : Options} {url : String} {title : Option String}
    {content : Writer → Step} {w : Writer} (h : (linkBody title content w).failure = none)
    (hb : ((linkBody title content w).writer.sawImage && o.suppressBadges) = true) :
    visitLink o url title content w =
      { writer := { w.rewindTo (linkBody title content w).writer with sawImage := false }
        notices := (linkBody title content w).notices ++ [.badge url] } := by
  unfold linkBody at h hb ⊢
  unfold visitLink
  simp only [h, hb, if_true]

theorem visitLink_of_shown {o : Options} {url : String} {title : Option String}
    {content : Writer → Step} {w : Writer} (h : (linkBody title content w).failure = none)
    (hb : ((linkBody title content w).writer.sawImage && o.suppressBadges) = false) :
    visitLink o url title content w =
      (if url.isEmpty then linkBody title content w else
        (linkBody title content w).andThen fun v =>
          .wrote (write (('(' :: url.toList) ++ [')']) v.keepApart)).adjust fun v =>
        { v with sawImage := false } := by
  unfold linkBody at h hb ⊢
  unfold visitLink
  simp only [h, hb, Bool.false_eq_true, if_false]

namespace Joined

section
variable (hQ : Joined own Q)
include hQ

theorem visitMarked {marker : List Char} (hm : own marker) (hc : ∀ v, (content v).From Q v)
    (w : Writer) : (visitMarked marker content w).From Q w := by
  unfold Comment.visitMarked
  apply hQ.andThen
  · exact hQ.andThen (hQ.after (hQ.keepApart w) (hQ.word hm)) hc
  · exact fun _ => hQ.word hm

theorem visitHeading (hc : ∀ v, (content v).From Q v) (w : Writer) :
    (visitHeading content w).From Q w := by
  unfold Comment.visitHeading
  apply hQ.andThen
  · split
    · exact hQ.adjust (hQ.after (hQ.flags _ _ _ _) (hc _)) fun _ => hQ.flags _ _ _ _
    · exact hQ.after (hQ.requestParagraph w) (hc _)
  · exact fun v _ => hQ.requestParagraph v

theorem visitLinkText {title : Option String} (ht : ∀ t, title = some t → own t.toList)
    (hc : ∀ v, (content v).From Q v) (w : Writer) : (visitLinkText title content w).From Q w := by
  unfold Comment.visitLinkText
  split
  · exact hc w
  · split
    · exact hc w
    · exact hQ.andThen (hQ.word (ht _ rfl)) fun v => hQ.after (hQ.keepApart v) (hc _)

theorem visitLink {o : Options} {url : String} {title : Option String}
    (hu : own (('(' :: url.toList) ++ [')'])) (ht : ∀ t, title = some t → own t.toList)
    (hc : ∀ v, (content v).From Q v) (w : Writer) : (visitLink o url title content w).From Q w := by
  have hs : (linkBody title content w).From Q w :=
    hQ.adjust (hQ.after (hQ.flags _ _ _ _) (hQ.visitLinkText ht hc _)) fun _ => hQ.flags _ _ _ _
  cases hf : (linkBody title content w).failure with
  | some kind => simp [Step.From, visitLink_of_failure hf, hf]
  | none =>
    cases hb : (linkBody title content w).writer.sawImage && o.suppressBadges with
    | true =>
      rw [visitLink_of_badge hf hb]
      exact fun _ => hQ.flags _ _ _ _
    | false =>
      rw [visitLink_of_shown hf hb]
      refine hQ.adjust ?_ fun _ => hQ.flags _ _ _ _
      split
      · exact hs
      · exact hQ.andThen hs fun v => hQ.after (hQ.keepApart v) (hQ.word hu)

theorem visitEach {o : Options} {before : Writer → Writer} {ns : List Node}
    (hb : ∀ v, Q v [] (before v)) (h : ∀ n ∈ ns, ∀ v, (visit o n v).From Q v) (w : Writer) :
    (visitEach o before ns w).From Q w := by
  induction ns generalizing w with
  | nil => exact fun _ => hQ.stay w
  | cons n ns ih =>
    rw [visitEach_cons]
    exact hQ.andThen (hQ.after (hb w) (h n List.mem_cons_self _))
      (ih fun m hm => h m (List.mem_cons_of_mem _ hm))

theorem visitItems {o : Options} {ns : List Node} (h : ∀ n ∈ ns, ∀ v, (visit o n v).From Q v)
    (w : Writer) : (visitItems o ns w).From Q w := by
  cases ns with
  | nil => exact fun _ => hQ.stay w
  | cons n ns =>
    rw [Comment.visitItems]
    exact hQ.andThen (h n List.mem_cons_self w)
      (hQ.visitEach hQ.requestBreak fun m hm => h m (List.mem_cons_of_mem _ hm))

end

/-- What holds of writing each leaf of a tree, and of the moves around leaves with the words of its
containers, holds of writing it. -/
theorem visit {n : Node} (hQ : Joined own Q)
    (hown : ∀ kind ns info, Node.container kind ns info ∈ n.nodes →
      ∀ t, Word (.container kind ns info) t → own t)
    (hleaf : ∀ kind info, Node.leaf kind info ∈ n.nodes → ∀ v, (visitLeaf kind v).From Q v)
    (o : Options) (w : Writer) : (visit o n w).From Q w := by
  induction n generalizing w with
  | leaf kind info => exact hleaf kind info (Node.mem_nodes_self _) w
  | table => exact fun _ => hQ.stay w
  | container kind ns info ih =>
    have hword : ∀ t, Word (.container kind ns info) t → own t :=
      hown kind ns info (Node.mem_nodes_self _)
    have hns : ∀ n ∈ ns, ∀ v, (Comment.visit o n v).From Q v := fun n hn =>
      ih n hn (fun k ms i hm => hown k ms i (Node.mem_nodes_of_mem_children hn hm))
        fun k i hm => hleaf k i (Node.mem_nodes_of_mem_children hn hm)
    have hall : ∀ v, (Comment.visitEach o id ns v).From Q v := hQ.visitEach hQ.stay hns
    cases kind with
    | document =>
      rw [Comment.visit]
      refine hQ.andThen (hall w) fun v => ?_
      split
      · next h => exact fun _ => hQ.close v h
      · exact fun _ => hQ.stay v
    | heading => exact hQ.visitHeading hall w
    | paragraph => exact hQ.andThen (hall w) fun v _ => hQ.requestParagraph v
    | list => exact hQ.andThen (hQ.visitItems hns w) fun v _ => hQ.requestBreak v
    | listItem =>
      have hbullet : (Step.wrote (Comment.write bullet w)).From Q w := hQ.word (hword _ .bullet)
      exact hQ.andThen (hQ.andThen hbullet hall) fun v _ => hQ.requestBreak v
    | emphasis => exact hQ.visitMarked (hword _ .emphasis) hall w
    | strong => exact hQ.visitMarked (hword _ .strong) hall w
    | link url title =>
      refine hQ.visitLink (hword _ .url) ?_ hall w
      rintro t rfl
      exact hword _ .title
    | strikethrough =>
      rw [Comment.visit]
      exact fun h => by simp [Step.fail] at h
    | blockQuote => exact fun _ => hQ.stay w
    | tableRow => exact fun _ => hQ.stay w
    | tableCell => exact fun _ => hQ.stay w
    | footnoteDefinition => exact fun _ => hQ.stay w

end Joined

/-- What is closed under the moves with the words and the code of a tree holds of writing it. -/
theorem Closed.visit {n : Node} (hQ : Closed (WordOf n) (CodeOf n) Q) (o : Options) (w : Writer) :
    (visit o n w).From Q w := by
  apply hQ.joined.visit
  · exact fun kind ns info hm t ht => ⟨_, hm, ht⟩
  · intro kind info hm v
    have hleaf : Closed (Word (.leaf kind info)) (Code (.leaf kind info)) Q :=
      hQ.mono (fun t ht => ⟨_, hm, ht⟩) fun ls hls => ⟨_, hm, hls⟩
    exact hleaf.visitLeaf v

end PackageDoc.Comment
