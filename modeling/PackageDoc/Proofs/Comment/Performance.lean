import PackageDoc.Proofs.Comment.Blocks

/-!
# Running text as a performance

Running text asks the writer for one thing after another: to write a line of text or a word, to
end the line, to keep the next token apart. `movesAll o ns` lists what some nodes ask for, whatever
their nesting; a suppressed badge, an image and a dropped node ask for nothing. Writing the nodes
is performing these moves, and differs from it in the flags for links at most.

    perform (ms ++ ms') w = perform ms w, and then ms' from the state it leaves  (perform_append)
    (visitEach o id ns w).tokens = (perform (movesAll o ns) w).1          (performs_visitEach)
-/

namespace PackageDoc.Comment

/-! ## Moves -/

/-- What running text asks of the writer. -/
inductive Move where
  /-- To write a line of text, without the space it may end with. -/
  | line (l : List Char)
  | word (t : List Char)
  | requestBreak
  | keepApart
  deriving Repr, DecidableEq, Inhabited

/-- The tokens that a move adds and the state after it. -/
def Move.perform : Move → Writer → List Token × Writer
  | .line l, w => write (lineWord l w) w
  | .word t, w => write t w
  | .requestBreak, w => ([], w.requestBreak)
  | .keepApart, w => ([], w.keepApart)

/-- The tokens that moves add one after another and the state after them. -/
def perform : List Move → Writer → List Token × Writer
  | [], w => ([], w)
  | m :: ms, w =>
    ((m.perform w).1 ++ (perform ms (m.perform w).2).1, (perform ms (m.perform w).2).2)

/-- The moves of a text. A space that its last line ends with keeps the next token apart. -/
def lineMoves : List (List Char) → List Move
  | [] => []
  | [line] => .line line :: if line.getLast? == some ' ' then [.keepApart] else []
  | line :: next :: rest => .line line :: .requestBreak :: lineMoves (next :: rest)

/-- The moves of a leaf in running text. -/
def leafMoves : Leaf → List Move
  | .text content => lineMoves (Text.splitAt '\n' content.toList)
  | .code content => [.word content.toList]
  | .lineBreak soft => if soft then [.requestBreak] else [.requestBreak, .requestBreak]
  | _ => []

/-- The moves around those of emphasized text. -/
def markedMoves (marker : List Char) (content : List Move) : List Move :=
  .keepApart :: .word marker :: (content ++ [.word marker])

/-- The moves of what a link shows. -/
def shownMoves (title : Option String) (content : List Move) : List Move :=
  match title with
  | none => content
  | some t => if t.isEmpty then content else .word t.toList :: .keepApart :: content

/-- The moves of the address of a link. -/
def addressMoves (url : String) : List Move :=
  if url.isEmpty then [] else [.keepApart, .word (('(' :: url.toList) ++ [')'])]

mutual

/-- The moves of a node in running text. -/
def moves (o : Options) : Node → List Move
  | .leaf kind _ => leafMoves kind
  | .table .. => []
  | .container kind children _ =>
    match kind with
    | .emphasis => markedMoves ['*'] (movesAll o children)
    | .strong => markedMoves ['*', '*'] (movesAll o children)
    | .link url title =>
      if o.suppressBadges && children.any Node.pictured then []
      else shownMoves title (movesAll o children) ++ addressMoves url
    | _ => []
termination_by structural n => n

/-- The moves of each node of a list, one after another. -/
def movesAll (o : Options) : List Node → List Move
  | [] => []
  | n :: ns => moves o n ++ movesAll o ns
termination_by structural ns => ns

end

/-! ## Performing -/

variable {o : Options} {v w : Writer} {n : Node} {ns : List Node} {ms ms' : List Move}
  {f g content : Writer → Step} {linked : Bool}

theorem perform_append (ms ms' : List Move) (w : Writer) :
    perform (ms ++ ms') w =
      ((perform ms w).1 ++ (perform ms' (perform ms w).2).1, (perform ms' (perform ms w).2).2) := by
  induction ms generalizing w with
  | nil => rfl
  | cons m ms ih => rw [List.cons_append, perform, ih, perform, List.append_assoc]

theorem perform_singleton (m : Move) (w : Writer) : perform [m] w = m.perform w := by
  rw [perform, perform, List.append_nil]

/-- A move neither looks at the flags of links nor changes them. -/
theorem Move.perform_flags (m : Move) (w : Writer) (inLink sawImage : Bool) :
    m.perform { w with inLink, sawImage } =
      ((m.perform w).1, { (m.perform w).2 with inLink, sawImage }) := by
  cases m with
  | line => exact write_flags _ w inLink sawImage
  | word t => exact write_flags t w inLink sawImage
  | requestBreak => rfl
  | keepApart => rfl

theorem perform_flags (ms : List Move) (w : Writer) (inLink sawImage : Bool) :
    perform ms { w with inLink, sawImage } =
      ((perform ms w).1, { (perform ms w).2 with inLink, sawImage }) := by
  induction ms generalizing w with
  | nil => rfl
  | cons m ms ih => rw [perform, m.perform_flags, ih, perform]

theorem Move.runs (m : Move) (w : Writer) :
    Runs (fun _ => True) w (m.perform w).1 (m.perform w).2 := by
  cases m with
  | line => exact .write trivial
  | word => exact .write trivial
  | requestBreak => exact .requestBreak
  | keepApart => exact .keepApart

theorem runs_perform (ms : List Move) (w : Writer) :
    Runs (fun _ => True) w (perform ms w).1 (perform ms w).2 := by
  induction ms generalizing w with
  | nil => exact .stay
  | cons m ms ih => exact (m.runs w).trans (ih _)

/-! ## Programs -/

/-- A program does what some moves do, flags for links apart. -/
structure Performs (f : Writer → Step) (ms : List Move) : Prop where
  ok : ∀ w, (f w).failure = none
  tokens : ∀ w, (f w).tokens = (perform ms w).1
  writer : ∀ w, ∃ inLink sawImage, (f w).writer = { (perform ms w).2 with inLink, sawImage }

theorem Performs.andThen (hf : Performs f ms) (hg : Performs g ms') :
    Performs (fun w => (f w).andThen g) (ms ++ ms') := by
  have hflags : ∀ w, ∃ inLink sawImage,
      perform ms' (f w).writer = ((perform ms' (perform ms w).2).1,
        { (perform ms' (perform ms w).2).2 with inLink, sawImage }) := by
    intro w
    obtain ⟨inLink, sawImage, hwriter⟩ := hf.writer w
    exact ⟨inLink, sawImage, by rw [hwriter, perform_flags]⟩
  refine ⟨fun w => ?_, fun w => ?_, fun w => ?_⟩
  · rw [Step.failure_andThen, hf.ok, hg.ok]
    rfl
  · obtain ⟨inLink, sawImage, h⟩ := hflags w
    rw [Step.andThen_of_ok (hf.ok w), perform_append]
    dsimp only
    rw [hf.tokens, hg.tokens, h]
  · obtain ⟨inLink, sawImage, h⟩ := hflags w
    obtain ⟨inLink', sawImage', hwriter⟩ := hg.writer (f w).writer
    refine ⟨inLink', sawImage', ?_⟩
    rw [Step.andThen_of_ok (hf.ok w), perform_append]
    dsimp only
    rw [hwriter, h]

/-- A program that writes nothing and changes no more than flags for links performs no move. -/
theorem performs_nil (hok : ∀ w, (f w).failure = none) (htokens : ∀ w, (f w).tokens = [])
    (hwriter : ∀ w, ∃ inLink sawImage, (f w).writer = { w with inLink, sawImage }) :
    Performs f [] :=
  ⟨hok, htokens, hwriter⟩

/-- A program that does just what some moves do. -/
theorem performs_of_eq (h : ∀ w, f w = .wrote (perform ms w)) : Performs f ms :=
  ⟨fun w => by rw [h, Step.failure_wrote], fun w => by rw [h, Step.tokens_wrote],
    fun w => ⟨(perform ms w).2.inLink, (perform ms w).2.sawImage, by rw [h, Step.writer_wrote]⟩⟩

theorem performs_word (t : List Char) : Performs (fun w => .wrote (write t w)) [.word t] :=
  performs_of_eq fun w => by rw [perform_singleton, Move.perform]

theorem performs_keepApart : Performs (fun w => .pure w.keepApart) [.keepApart] :=
  performs_of_eq fun _ => rfl

/-! ## Nodes -/

theorem perform_lineMoves (ls : List (List Char)) (w : Writer) :
    perform (lineMoves ls) w = writeLines ls w := by
  induction ls generalizing w with
  | nil => rfl
  | cons line rest ih =>
    cases rest with
    | nil =>
      rw [lineMoves, writeLines_singleton]
      split
      · rw [perform, perform_singleton, Move.perform, Move.perform, List.append_nil]
      · rw [perform_singleton, Move.perform]
    | cons next rest => rw [lineMoves, perform, perform, ih, writeLines_cons_cons]; rfl

theorem performs_visitLeaf {kind : Leaf} (h : kind.isInline = true) :
    Performs (visitLeaf kind) (leafMoves kind) := by
  cases kind with
  | text content =>
    exact performs_of_eq fun w => by rw [leafMoves, perform_lineMoves, visitLeaf]
  | code content => exact performs_word content.toList
  | lineBreak soft =>
    cases soft with
    | true => exact performs_of_eq fun _ => rfl
    | false => exact performs_of_eq fun _ => rfl
  | image url alt title =>
    refine performs_nil (fun _ => rfl) (fun _ => rfl) fun w => ?_
    rw [visitImage_eq rfl]
    exact ⟨w.inLink, w.sawImage || w.inLink, rfl⟩
  | htmlInline => exact performs_nil (fun _ => rfl) (fun _ => rfl) fun w => ⟨_, _, rfl⟩
  | footnoteReference => exact performs_nil (fun _ => rfl) (fun _ => rfl) fun w => ⟨_, _, rfl⟩
  | codeBlock => simp [Leaf.isInline] at h
  | thematicBreak => simp [Leaf.isInline] at h
  | htmlBlock => simp [Leaf.isInline] at h
  | custom => simp [Leaf.isInline] at h

theorem performs_visitEach_of (h : ∀ n ∈ ns, Performs (visit o n) (moves o n)) :
    Performs (visitEach o id ns) (movesAll o ns) := by
  induction ns with
  | nil => exact performs_of_eq fun _ => rfl
  | cons n ns ih =>
    exact (h n List.mem_cons_self).andThen (ih fun m hm => h m (List.mem_cons_of_mem _ hm))

theorem performs_visitMarked (marker : List Char) (hc : Performs content ms) :
    Performs (visitMarked marker content) (markedMoves marker ms) :=
  ((performs_keepApart.andThen (performs_word marker)).andThen hc).andThen (performs_word marker)

theorem performs_visitLinkText (title : Option String) (hc : Performs content ms) :
    Performs (visitLinkText title content) (shownMoves title ms) := by
  cases title with
  | none => exact hc
  | some t =>
    cases ht : t.isEmpty with
    | true =>
      have hempty : (some t).all String.isEmpty = true := ht
      rw [visitLinkText_of_isEmpty hempty, shownMoves, if_pos ht]
      exact hc
    | false =>
      rw [visitLinkText_of_title ht, shownMoves, if_neg (by simp [ht])]
      exact (performs_word t.toList).andThen (performs_keepApart.andThen hc)

theorem performs_visitAddress (url : String) :
    Performs (visitAddress url) (addressMoves url) := by
  cases hu : url.isEmpty with
  | true =>
    rw [visitAddress_of_isEmpty hu, addressMoves, if_pos hu]
    exact performs_of_eq fun _ => rfl
  | false =>
    rw [visitAddress_of_ne hu, addressMoves, if_neg (by simp [hu])]
    exact performs_keepApart.andThen (performs_word _)

/-- A link performs what it shows and its address, unless it is a suppressed badge. -/
theorem performs_visitLink {p q : Bool} (hf : Fluent true p q content) (hc : Performs content ms)
    (o : Options) (url : String) (title : Option String) :
    Performs (visitLink o url title content)
      (if o.suppressBadges && p then [] else shownMoves title ms ++ addressMoves url) := by
  have hok := failure_visitLink hf.ok o url title
  rw [Bool.and_comm]
  cases hb : p && o.suppressBadges with
  | true =>
    have hbadge := visitLink_of_pictured hf hb url title
    refine performs_nil hok (fun w => (hbadge w).1) fun w => ⟨false, false, ?_⟩
    rw [(hbadge w).2, Writer.leaveLink]
  | false =>
    have hshown := visitLink_of_plain hf hb url title
    have hprog := (performs_visitLinkText title hc).andThen (performs_visitAddress url)
    rw [if_neg Bool.false_ne_true]
    refine ⟨hok, fun w => ?_, fun w => ⟨false, false, ?_⟩⟩
    · rw [(hshown w).1, hprog.tokens, Writer.enterLink, perform_flags]
    · obtain ⟨inLink, sawImage, hwriter⟩ := hprog.writer w.enterLink
      rw [(hshown w).2, hwriter, Writer.enterLink, perform_flags, Writer.leaveLink]

/-- Running text without a node that lacks a rule performs its moves. -/
theorem performs_of_fits {place : Position} (h : n.Fits place) (hplace : place = .inline linked)
    (hok : n.unsupported? = none) (o : Options) : Performs (visit o n) (moves o n) := by
  induction h generalizing linked with
  | inlineLeaf h => exact performs_visitLeaf h
  | emphasis h ih =>
    exact performs_visitMarked _ <| performs_visitEach_of fun n hn =>
      ih n hn rfl (Node.unsupported?_of_mem hok rfl n hn)
  | strong h ih =>
    exact performs_visitMarked _ <| performs_visitEach_of fun n hn =>
      ih n hn rfl (Node.unsupported?_of_mem hok rfl n hn)
  | strikethrough => simp [Node.unsupported?, Container.isDropped] at hok
  | link h ih =>
    have hns := Node.unsupported?_of_mem hok rfl
    have hfluent := fluent_visitEach (o := o) fun n hn => behaves_of_fits (h n hn) (hns n hn)
    have hcontent := performs_visitEach_of fun n hn => ih n hn rfl (hns n hn)
    exact performs_visitLink hfluent hcontent o _ _
  | _ => simp at hplace

/-- Running text that can be written performs its moves one after another. -/
theorem performs_visitEach (hns : ∀ n ∈ ns, n.Fits (.inline linked))
    (hok : (visitEach o id ns w).failure = none) :
    Performs (visitEach o id ns) (movesAll o ns) := by
  rw [failure_visitEach (fun n _ => failure_visit o n), unsupportedAmong?_eq_none] at hok
  exact performs_visitEach_of fun n hn => performs_of_fits (hns n hn) rfl (hok n hn) o

end PackageDoc.Comment
