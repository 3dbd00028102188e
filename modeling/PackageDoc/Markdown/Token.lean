import PackageDoc.Node

/-!
# Markdown tokens

What reading Markdown finds, before it becomes a document tree: a tree of tokens, each with the raw
text, the attributes and the tokens inside it that its kind calls for. Nothing but the kind is
certain to be there.
-/

namespace PackageDoc.Markdown

/-- The kinds of tokens, blocks first. -/
inductive TokenKind where
  | heading
  | paragraph
  /-- The text of an item in a list without blank lines. -/
  | blockText
  | blockCode
  | blockQuote
  | list
  | listItem
  | table
  | tableHead
  | tableBody
  | tableRow
  | tableCell
  | thematicBreak
  | blockHtml
  /-- All footnotes of a document. -/
  | footnotes
  | footnoteItem
  | blankLine
  | text
  | strong
  | emphasis
  | codeSpan
  | link
  | image
  | hardBreak
  | softBreak
  | strikethrough
  | inlineHtml
  | footnoteReference
  | other (name : String)
  deriving Repr, DecidableEq, Inhabited

/-- The attributes of a token, as far as they are known. -/
structure Attributes where
  level : Option Int := none
  info : Option String := none
  ordered : Option Bool := none
  start : Option Int := none
  tight : Option Bool := none
  align : Option Alignment := none
  key : Option String := none
  label : Option String := none
  url : Option String := none
  title : Option String := none
  deriving Repr, DecidableEq, Inhabited

/-- A token. Whether a list is tight can be said of the token itself and among its attributes. -/
inductive Token where
  | mk (kind : TokenKind) (raw : String) (tight : Option Bool) (attributes : Attributes)
      (children : List Token)
  deriving Repr, Inhabited

namespace Token

def kind : Token → TokenKind
  | mk kind _ _ _ _ => kind

def raw : Token → String
  | mk _ raw _ _ _ => raw

def attributes : Token → Attributes
  | mk _ _ _ attributes _ => attributes

def children : Token → List Token
  | mk _ _ _ _ children => children

/-- A token that holds text. -/
def leaf (kind : TokenKind) (raw : String) : Token :=
  .mk kind raw none {} []

/-- A token that holds tokens. -/
def branch (kind : TokenKind) (children : List Token) : Token :=
  .mk kind "" none {} children

end Token

end PackageDoc.Markdown
