import PackageDoc.Markdown.Cursor

/-!
# HTML in Markdown

Where raw HTML starts and ends. A piece of inline HTML is a tag, a comment, a processing
instruction, a declaration or a section of character data. A block of HTML is recognised by the
beginning of its first line, and this also says how it ends.

    inline? s       the rest of the text after the piece of HTML that s is the inside of
    ending? s       how the block ends whose first line is s
-/

namespace PackageDoc.Markdown.Html

/-! ## Characters -/

def isLetter (c : Char) : Bool :=
  ('a' ≤ c && c ≤ 'z') || ('A' ≤ c && c ≤ 'Z')

def isNamePart (c : Char) : Bool :=
  isLetter c || ('0' ≤ c && c ≤ '9') || c == '-'

def isSpace (c : Char) : Bool :=
  c == ' ' || (9 ≤ c.toNat && c.toNat ≤ 13)

def isAttributeStart (c : Char) : Bool :=
  isLetter c || c == '_' || c == ':'

def isAttributePart (c : Char) : Bool :=
  isNamePart c || c == '_' || c == ':' || c == '.'

/-! ## Tags -/

/-- Where the reading of an opening tag stands. -/
inductive TagState where
  | name
  /-- White space before an attribute or the end. -/
  | gap
  | attribute
  /-- White space after the name of an attribute. -/
  | named
  /-- After an equals sign. -/
  | equals
  | quoted (close : Char)
  | bare
  /-- After a quoted value. -/
  | valued
  /-- After a slash. -/
  | slash
  deriving Repr, DecidableEq, Inhabited

/-- The state after one more character, unless it cannot stand there. The closing bracket is not
among the characters given. -/
def TagState.next? (state : TagState) (c : Char) : Option TagState :=
  match state with
  | .name =>
    if isNamePart c then some .name else if isSpace c then some .gap
    else if c = '/' then some .slash else none
  | .gap =>
    if isSpace c then some .gap else if c = '/' then some .slash
    else if isAttributeStart c then some .attribute else none
  | .attribute =>
    if isAttributePart c then some .attribute else if isSpace c then some .named
    else if c = '=' then some .equals else if c = '/' then some .slash else none
  | .named =>
    if isSpace c then some .named else if c = '=' then some .equals
    else if c = '/' then some .slash else if isAttributeStart c then some .attribute else none
  | .equals =>
    if isSpace c then some .equals
    else if c = '"' || c = '\'' then some (.quoted c)
    else if c = '=' || c = '<' || c.toNat = 96 then none else some .bare
  | .quoted close => if c = close then some .valued else some (.quoted close)
  | .bare =>
    if isSpace c then some .gap
    else if c = '"' || c = '\'' || c = '=' || c = '<' || c.toNat = 96 then none else some .bare
  | .valued => if isSpace c then some .gap else if c = '/' then some .slash else none
  | .slash => none

/-- What one more character does to an opening tag. -/
inductive TagStep where
  | ends
  | goesOn (state : TagState)
  | breaks
  deriving Repr, DecidableEq, Inhabited

/-- What a closing bracket does: between quotes it is a character like any other. -/
def TagState.atBracket (state : TagState) : TagStep :=
  match state with
  | .equals => .breaks
  | .quoted close => .goesOn (.quoted close)
  | _ => .ends

/-- What one more character does. -/
def TagState.step (state : TagState) (c : Char) : TagStep :=
  if c = '>' then state.atBracket
  else match state.next? c with
    | some state => .goesOn state
    | none => .breaks

/-- The rest of a text after the end of an opening tag. -/
def tagEnd? (state : TagState) : List Char → Option (List Char)
  | [] => none
  | c :: s =>
    match state.step c with
    | .ends => some s
    | .goesOn state => tagEnd? state s
    | .breaks => none

/-- The rest after an opening tag, given what stands behind its bracket. -/
def openingTag? : List Char → Option (List Char)
  | c :: s => if isLetter c then tagEnd? .name s else none
  | [] => none

/-- The rest after a closing tag, given what stands behind its slash. -/
def closingTag? : List Char → Option (List Char)
  | c :: s =>
    if isLetter c then
      match (s.dropWhile isNamePart).dropWhile isSpace with
      | '>' :: rest => some rest
      | _ => none
    else none
  | [] => none

/-! ## Other pieces -/

/-- The rest of a text after the first occurrence of a word. -/
def after? (word : List Char) : List Char → Option (List Char)
  | [] => if word.isEmpty then some [] else none
  | c :: s => if word.isPrefixOf (c :: s) then some ((c :: s).drop word.length) else after? word s

/-- The rest after a piece of HTML, given what stands behind its opening bracket. -/
def inline? (s : List Char) : Option (List Char) :=
  match s with
  | '/' :: t => closingTag? t
  | '?' :: t => after? ['?', '>'] t
  | '!' :: '-' :: '-' :: t =>
    match t with
    | '>' :: rest => some rest
    | '-' :: '>' :: rest => some rest
    | _ => after? ['-', '-', '>'] t
  | '!' :: t =>
    if "[CDATA[".toList.isPrefixOf t then after? [']', ']', '>'] (t.drop 7)
    else match t with
      | c :: u => if isLetter c then after? ['>'] u else none
      | [] => none
  | t => openingTag? t

/-! ## Blocks -/

/-- How a block of HTML ends. -/
inductive Ending where
  /-- With the line that holds one of these texts in any case of letters. -/
  | line (words : List String)
  /-- Before a blank line; a tag of any name cannot interrupt a paragraph. -/
  | blank (interrupts : Bool)
  deriving Repr, DecidableEq, Inhabited

/-- The tags whose content is not read as HTML. -/
def verbatimTags : List String :=
  ["script", "pre", "style", "textarea"]

/-- The tags that start a block. -/
def blockTags : List String :=
  ["address", "article", "aside", "base", "basefont", "blockquote", "body", "caption", "center",
    "col", "colgroup", "dd", "details", "dialog", "dir", "div", "dl", "dt", "fieldset",
    "figcaption", "figure", "footer", "form", "frame", "frameset", "h1", "h2", "h3", "h4", "h5",
    "h6", "head", "header", "hr", "html", "iframe", "legend", "li", "link", "main", "menu",
    "menuitem", "nav", "noframes", "ol", "optgroup", "option", "p", "param", "search", "section",
    "summary", "table", "tbody", "td", "tfoot", "th", "thead", "title", "tr", "track", "ul"]

/-- A text with the letters of ASCII in lower case. -/
def lower (s : List Char) : List Char :=
  s.map Char.toLower

/-- The name that a tag starts with, in lower case, and what follows it. -/
def tagName (s : List Char) : List Char × List Char :=
  (lower (s.takeWhile isNamePart), s.dropWhile isNamePart)

/-- Whether the name of a tag can end here. -/
def endsName (s : List Char) : Bool :=
  match s with
  | [] => true
  | c :: _ => isSpace c || c == '>'

/-- Whether nothing but white space follows. -/
def onlySpace (rest : Option (List Char)) : Bool :=
  match rest with
  | some s => s.all isSpace
  | none => false

/-- How the block ends whose first line, from its text on, is given; none if it is no HTML. -/
def ending? (line : List Char) : Option Ending :=
  match line with
  | '<' :: s =>
    let (name, rest) := tagName s
    if verbatimTags.contains (String.ofList name) && endsName rest then
      some (.line ["</script>", "</pre>", "</style>", "</textarea>"])
    else if ['!', '-', '-'].isPrefixOf s then some (.line ["-->"])
    else if ['?'].isPrefixOf s then some (.line ["?>"])
    else if "![CDATA[".toList.isPrefixOf s then some (.line ["]]>"])
    else if (match s with | '!' :: c :: _ => isLetter c | _ => false) then some (.line [">"])
    else
      let (closing, t) := match s with
        | '/' :: t => (true, t)
        | t => (false, t)
      let (name, rest) := tagName t
      if blockTags.contains (String.ofList name) &&
          (endsName rest || ['/', '>'].isPrefixOf rest) then some (.blank true)
      else if onlySpace (if closing then closingTag? t else openingTag? t) &&
          !verbatimTags.contains (String.ofList name) then some (.blank false)
      else none
  | _ => none

/-- Whether a line is the last of a block. -/
def Ending.closedBy (e : Ending) (line : List Char) : Bool :=
  match e with
  | .line words => words.any fun w => (after? w.toList (lower line)).isSome
  | .blank _ => false

/-- Whether a block ends before a blank line. -/
def Ending.atBlank : Ending → Bool
  | .line _ => false
  | .blank _ => true

end PackageDoc.Markdown.Html
