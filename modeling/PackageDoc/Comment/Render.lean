import PackageDoc.Comment.Writer
import PackageDoc.Node
import PackageDoc.Options
import PackageDoc.Text.Lines

/-!
# Rendering a document as a doc comment

A document becomes a doc comment followed by the package clause.

* The first heading completes the opening sentence if nothing was written before it.
* Paragraphs, headings and code blocks are separated by one blank comment line.
* Code blocks are indented, list items start with a bullet, and emphasis keeps its asterisks.
* A link is written as its title, its text and its address. A link that holds an image is a badge
  and leaves no trace while badges are suppressed. Images are never written.
* Tables, quotes, raw HTML, rules and footnotes are dropped; a node without a rule is an error.

`visit` writes one node, and `render` the whole text.
-/

namespace PackageDoc.Comment

/-! ## Leaves -/

/-- What starts a list item. -/
def bullet : List Char := ['•', ' ']

/-- What starts a line of code. -/
def indent : List Char := [' ', ' ']

/-- Writes the lines of a text, each without the space it may end with. That space keeps the next
token apart from the last line. A line that starts a comment line loses its leading blanks, since
an indented comment line would be taken for code. -/
def writeLines : List (List Char) → Writer → List Token × Writer
  | [], w => ([], w)
  | line :: rest, w =>
    let spaced := line.getLast? == some ' '
    let line := if spaced then line.dropLast else line
    let (ts, w) := write (if w.atLineStart then Text.trimStart line else line) w
    match rest with
    | [] => (ts, if spaced then w.keepApart else w)
    | _ :: _ =>
      let (us, w) := writeLines rest w.requestBreak
      (ts ++ us, w)

/-- The lines of a code block: each without the blanks it ends with, and none empty at either
end. -/
def codeLines (content : List Char) : List (List Char) :=
  let ls := (Text.bareLines content).map Text.trimEnd
  ((ls.dropWhile List.isEmpty).reverse.dropWhile List.isEmpty).reverse

/-- Writes lines of code. Every line asks for one more break, so empty ones are kept. -/
def writeCode : List (List Char) → Writer → List Token × Writer
  | [], w => ([], w)
  | line :: rest, w =>
    let (ts, w) := if line.isEmpty then ([], w) else write (indent ++ line) w
    let (us, w) := writeCode rest { w with breaks := w.breaks + 1 }
    (ts ++ us, w)

/-- Writes a leaf. -/
def visitLeaf (kind : Leaf) (w : Writer) : Step :=
  match kind with
  | .text content => .wrote (writeLines (Text.splitAt '\n' content.toList) w)
  | .code content => .wrote (write content.toList w)
  | .codeBlock content _ =>
    (Step.wrote (writeCode (codeLines content.toList) w.requestParagraph)).adjust
      Writer.requestBreak
  | .lineBreak soft => .pure (if soft then w.requestBreak else w.requestParagraph)
  | .image .. => .pure (if w.inLink then { w with sawImage := true } else w)
  | .thematicBreak => .drop kind.name w
  | .htmlBlock _ => .drop kind.name w
  | .htmlInline _ => .drop kind.name w
  | .footnoteReference _ => .drop kind.name w
  | .custom name => .fail name w

/-! ## Containers -/

/-- Writes a marker that is kept apart from the token before it, then some content, then the
marker again. -/
def visitMarked (marker : List Char) (content : Writer → Step) (w : Writer) : Step :=
  ((Step.wrote (write marker w.keepApart)).andThen content).andThen fun w =>
    .wrote (write marker w)

/-- Writes a heading. It stands in a paragraph of its own, or completes the opening sentence. -/
def visitHeading (content : Writer → Step) (w : Writer) : Step :=
  let s :=
    if w.sentenceOpen then
      (content { w with completing := true }).adjust fun w => { w with completing := false }
    else content w.requestParagraph
  s.andThen fun w => .pure w.requestParagraph

/-- Writes what a link shows: its title, kept apart from its text. -/
def visitLinkText (title : Option String) (content : Writer → Step) (w : Writer) : Step :=
  match title with
  | none => content w
  | some t =>
    if t.isEmpty then content w
    else (Step.wrote (write t.toList w)).andThen fun w => content w.keepApart

/-- Writes a link. What it shows is written first; if an image turned up in it and badges are
suppressed, the tokens are discarded and the state is taken back to where it was. -/
def visitLink (o : Options) (url : String) (title : Option String) (content : Writer → Step)
    (w : Writer) : Step :=
  let s := (visitLinkText title content { w with inLink := true, sawImage := false }).adjust
    fun w => { w with inLink := false }
  match s.failure with
  | some _ => { s with tokens := [] }
  | none =>
    if s.writer.sawImage && o.suppressBadges then
      { writer := { w.rewindTo s.writer with sawImage := false }
        notices := s.notices ++ [.badge url] }
    else
      let s := if url.isEmpty then s else
        s.andThen fun w => .wrote (write (('(' :: url.toList) ++ [')']) w.keepApart)
      s.adjust fun w => { w with sawImage := false }

mutual

/-- Writes a node. -/
def visit (o : Options) : Node → Writer → Step
  | .leaf kind _, w => visitLeaf kind w
  | .table .., w => .drop "Table" w
  | .container kind children _, w =>
    match kind with
    | .document => (visitEach o id children w).andThen fun w =>
        if w.sentenceOpen then .wrote (closeSentence w) else .pure w
    | .heading _ => visitHeading (visitEach o id children) w
    | .paragraph => (visitEach o id children w).andThen fun w => .pure w.requestParagraph
    | .list .. => (visitItems o children w).andThen fun w => .pure w.requestBreak
    | .listItem =>
      ((Step.wrote (write bullet w)).andThen (visitEach o id children)).andThen fun w =>
        .pure w.requestBreak
    | .emphasis => visitMarked ['*'] (visitEach o id children) w
    | .strong => visitMarked ['*', '*'] (visitEach o id children) w
    | .link url title => visitLink o url title (visitEach o id children) w
    | .strikethrough => .fail kind.name w
    | .blockQuote => .drop kind.name w
    | .tableRow _ => .drop kind.name w
    | .tableCell _ => .drop kind.name w
    | .footnoteDefinition _ => .drop kind.name w
termination_by structural n => n

/-- Writes nodes one after another, changing the state before each. -/
def visitEach (o : Options) (before : Writer → Writer) : List Node → Writer → Step
  | [], w => .pure w
  | n :: ns, w => (visit o n (before w)).andThen (visitEach o before ns)
termination_by structural ns => ns

/-- Writes the items of a list, every one after the first on a line of its own. -/
def visitItems (o : Options) : List Node → Writer → Step
  | [], w => .pure w
  | n :: ns, w => (visit o n w).andThen (visitEach o Writer.requestBreak ns)
termination_by structural ns => ns

end

/-! ## Whole documents -/

/-- The opening words of the comment. -/
def header (o : Options) : String :=
  "// Package " ++ o.packageName ++ " is the"

/-- The package clause on a line of its own. -/
def footer (o : Options) : String :=
  "\npackage " ++ o.packageName ++ "\n"

/-- Writes a whole tree. Anything but a document goes on with the opening sentence directly. -/
def visitRoot (o : Options) (n : Node) : Step :=
  visit o n (Writer.start n.isDocument)

/-- The doc comment and package clause for a tree, or the kind of the node that has no rule. -/
def render (o : Options) (n : Node) : Except String String :=
  let s := visitRoot o n
  match s.failure with
  | some kind => .error kind
  | none => .ok (header o ++ String.ofList (text s.tokens) ++ footer o)

/-! ## Lemmas -/

@[simp] theorem visitEach_nil (o : Options) (before : Writer → Writer) (w : Writer) :
    visitEach o before [] w = .pure w := rfl

theorem visitEach_cons (o : Options) (before : Writer → Writer) (n : Node) (ns : List Node)
    (w : Writer) :
    visitEach o before (n :: ns) w = (visit o n (before w)).andThen (visitEach o before ns) := rfl

/-- Two lists of nodes are written one after the other. -/
theorem visitEach_append (o : Options) (before : Writer → Writer) (ns ms : List Node)
    (w : Writer) :
    visitEach o before (ns ++ ms) w =
      (visitEach o before ns w).andThen (visitEach o before ms) := by
  induction ns generalizing w with
  | nil => simp [Step.andThen, Step.pure]
  | cons n ns ih =>
    rw [List.cons_append, visitEach_cons, visitEach_cons, Step.andThen_assoc]
    congr 1
    funext v
    exact ih v

/-- Rendering fails exactly when writing the tree does. -/
theorem render_eq_error_iff (o : Options) (n : Node) (kind : String) :
    render o n = .error kind ↔ (visitRoot o n).failure = some kind := by
  unfold render
  cases h : (visitRoot o n).failure <;> simp [h]

end PackageDoc.Comment
