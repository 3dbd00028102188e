import PackageDoc.Text.Blank

/-!
# Writing a doc comment token by token

A doc comment opens with the words `Package p is the`, and the first token written completes that
sentence: the words of a heading do so themselves, anything else is preceded by a period and a
blank comment line. Line breaks are requested and written together with the token that follows
them, so requests at the end of a document write nothing.

    write t w = the tokens that writing t from the state w adds, and the state after it
    text (ts ++ us) = text ts ++ text us                        (text_append)

A `Step` is a stretch of writing that may fail: what it wrote, the state it left, what it has to
report, and the kind of node that stopped it. Steps are joined by `andThen`, and the tokens of a
joined step are those of its parts one after the other.
-/

namespace PackageDoc.Comment

/-! ## Tokens -/

/-- What stands between a token and the one before it: nothing, a space, or one or more line
breaks, each of which begins a comment line. -/
inductive Gap where
  | none
  | space
  | breaks (count : Nat)
  deriving Repr, DecidableEq, Inhabited

/-- A written token with the gap before it. -/
structure Token where
  gap : Gap
  text : List Char
  deriving Repr, DecidableEq, Inhabited

/-- The characters of a gap; a space separates a comment marker from the words after it. -/
def Gap.chars : Gap → List Char
  | .none => []
  | .space => [' ']
  | .breaks count => (List.replicate count ['\n', '/', '/']).flatten ++ [' ']

/-- The characters of a token together with its gap. -/
def Token.chars (t : Token) : List Char :=
  t.gap.chars ++ t.text

/-- The characters of a sequence of tokens. -/
def text (ts : List Token) : List Char :=
  ts.flatMap Token.chars

/-! ## The state of the writer -/

/-- Where the writer stands. -/
structure Writer where
  /-- Nothing has completed the opening sentence yet. -/
  sentenceOpen : Bool
  /-- The words being written are those of the heading that completes the sentence. -/
  completing : Bool := false
  /-- The token written last, empty before the first. It stands for the text of this token and for
  its length, which are always set together. -/
  last : List Char := []
  /-- A comment marker or the opening words have been written with nothing after them. -/
  lineStart : Bool := true
  /-- Line breaks requested and not yet written. -/
  breaks : Nat := 0
  /-- The next token on this line is to be kept apart from the one before it. -/
  softSpace : Bool := false
  /-- The writer is inside a link. -/
  inLink : Bool := false
  /-- An image has turned up inside the link. -/
  sawImage : Bool := false
  deriving Repr, DecidableEq, Inhabited

/-- The most line breaks that stand between two tokens: one blank comment line. -/
def maxBreaks : Nat := 2

namespace Writer

/-- The state after the opening words, with the sentence open or not. -/
def start (sentenceOpen : Bool) : Writer :=
  { sentenceOpen }

/-- Requests a line break. None is requested before the first token, and none beyond a blank
comment line. -/
def requestBreak (w : Writer) : Writer :=
  { w with
    breaks := if !w.last.isEmpty && w.breaks < maxBreaks then w.breaks + 1 else w.breaks
    softSpace := false }

/-- Requests a blank comment line. -/
def requestParagraph (w : Writer) : Writer :=
  w.requestBreak.requestBreak

/-- Whether the next token comes first on its comment line. -/
def atLineStart (w : Writer) : Bool :=
  0 < w.breaks || w.lineStart

/-- The gap before a token written in a state. -/
def gapBefore (t : List Char) (w : Writer) : Gap :=
  if 0 < w.breaks then .breaks w.breaks
  else if w.lineStart then .space
  else if w.softSpace && w.last.getLast? != some ' ' && t.head? != some ' ' then .space
  else .none

/-- The state after writing a token. -/
def wrote (t : List Char) (w : Writer) : Writer :=
  { w with last := t, lineStart := false, breaks := 0, softSpace := false }

/-- Asks for the next token on this line to be kept apart. -/
def keepApart (w : Writer) : Writer :=
  { w with softSpace := true }

/-- The state of `before`, as far as text and layout go, with the flags of the present one. -/
def rewindTo (before w : Writer) : Writer :=
  { before with completing := w.completing, inLink := w.inLink, sawImage := w.sawImage }

end Writer

/-- Writes a token that is not empty when the sentence is not open. -/
def put (t : List Char) (w : Writer) : List Token × Writer :=
  ([⟨w.gapBefore t, t⟩], w.wrote t)

/-- Writes a token. An empty one writes nothing. The first one completes the opening sentence:
unless it belongs to a heading that does so, a period and a blank line come before it. -/
def write (t : List Char) (w : Writer) : List Token × Writer :=
  if t.isEmpty then ([], w)
  else if w.sentenceOpen then
    let w := { w with sentenceOpen := false }
    if w.completing then put t w
    else
      let (ts, w) := put ['.'] w
      let (us, w) := put t w.requestParagraph
      (ts ++ us, w)
  else put t w

/-- Completes the opening sentence with a period. -/
def closeSentence (w : Writer) : List Token × Writer :=
  let (ts, w) := put ['.'] { w with sentenceOpen := false }
  (ts, w.requestParagraph)

/-! ## Steps -/

/-- What a writer has to report about a document. -/
inductive Notice where
  /-- A node of this kind has no counterpart in a doc comment. -/
  | dropped (kind : String)
  /-- A link to this address holds an image. -/
  | badge (url : String)
  deriving Repr, DecidableEq, Inhabited

/-- What a notice says. -/
def Notice.message : Notice → String
  | dropped kind => String.join ["Dropping unsupported ", kind, " from Go doc output"]
  | badge url => String.join ["Suppressing badge link to ", url]

/-- A stretch of writing. A failed one keeps what it wrote and the state it failed in. -/
structure Step where
  tokens : List Token := []
  writer : Writer
  notices : List Notice := []
  failure : Option String := none
  deriving Repr, DecidableEq, Inhabited

namespace Step

/-- Changes the state and writes nothing. -/
def pure (w : Writer) : Step :=
  { writer := w }

/-- A step from what was written and the state after it. -/
def wrote (r : List Token × Writer) : Step :=
  { tokens := r.1, writer := r.2 }

/-- Drops a node of a kind. -/
def drop (kind : String) (w : Writer) : Step :=
  { writer := w, notices := [.dropped kind] }

/-- Stops at a node of a kind. -/
def fail (kind : String) (w : Writer) : Step :=
  { writer := w, failure := some kind }

/-- One step and, unless it failed, another from the state it left. -/
def andThen (s : Step) (next : Writer → Step) : Step :=
  match s.failure with
  | some _ => s
  | none =>
    let t := next s.writer
    { tokens := s.tokens ++ t.tokens
      writer := t.writer
      notices := s.notices ++ t.notices
      failure := t.failure }

/-- Changes the state that a step leaves, whether it failed or not. -/
def adjust (s : Step) (f : Writer → Writer) : Step :=
  { s with writer := f s.writer }

end Step

/-! ## Lemmas -/

@[simp] theorem text_nil : text [] = [] := rfl

@[simp] theorem text_append (ts us : List Token) : text (ts ++ us) = text ts ++ text us := by
  simp [text]

@[simp] theorem write_nil (w : Writer) : write [] w = ([], w) := by
  simp [write]

theorem Step.andThen_pure (s : Step) : s.andThen Step.pure = s := by
  obtain ⟨ts, w, ns, f⟩ := s
  cases f <;> simp [Step.andThen, Step.pure]

theorem Step.andThen_assoc (s : Step) (f g : Writer → Step) :
    (s.andThen f).andThen g = s.andThen fun w => (f w).andThen g := by
  obtain ⟨ts, w, ns, e⟩ := s
  cases e with
  | some => simp [Step.andThen]
  | none =>
    simp only [Step.andThen]
    cases h : (f w).failure <;> simp [h]

theorem Step.failure_andThen (s : Step) (f : Writer → Step) :
    (s.andThen f).failure = s.failure.or (f s.writer).failure := by
  unfold Step.andThen
  cases h : s.failure <;> simp [h]

end PackageDoc.Comment
