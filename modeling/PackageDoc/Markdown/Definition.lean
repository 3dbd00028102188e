import PackageDoc.Markdown.Address
import PackageDoc.Text.Blank
import PackageDoc.Unicode.Casing

/-!
# Link labels, addresses, titles and definitions

The parts that links and link definitions are made of. Each reader takes the text from where its
part should start, and gives what it read with the rest of the text.

    label? s          a label and its closing bracket
    destination? s    an address, plain or between angle brackets
    title? s          a title between quotes or parentheses
    target? s         address and title of an inline link, up to its closing parenthesis
    definition? s     a link definition at the start of a paragraph
-/

namespace PackageDoc.Markdown

/-- What a link leads to. -/
structure Target where
  url : String
  title : Option String
  deriving Repr, DecidableEq, Inhabited

/-- A link definition, by its label in normal form. -/
structure Definition where
  label : List Char
  target : Target
  deriving Repr, DecidableEq, Inhabited

/-! ## Labels -/

/-- The most characters of a label. -/
def maxLabel : Nat := 999

/-- The normal form of a label: labels that differ in case or white space alone are the same. -/
def normalLabel (s : List Char) : List Char :=
  Unicode.caseless ((List.intersperse [' '] (Text.words s)).flatten)

/-- Reads a label of at most so many characters up to its closing bracket. An opening bracket
inside must be escaped. -/
def labelWithin : Nat → List Char → Option (List Char × List Char)
  | _, [] => none
  | 0, c :: s => if c = ']' then some ([], s) else none
  | n + 1, c :: s =>
    if c = ']' then some ([], s)
    else if c = '[' then none
    else if c = '\\' then
      match n, s with
      | m + 1, d :: t => (labelWithin m t).map fun (l, rest) => (c :: d :: l, rest)
      | _, _ => none
    else (labelWithin n s).map fun (l, rest) => (c :: l, rest)

/-- Reads the label after an opening bracket. -/
def label? (s : List Char) : Option (List Char × List Char) :=
  labelWithin maxLabel s

/-- Whether a text between brackets is a label. -/
def isLabel (s : List Char) : Bool :=
  match label? (s ++ [']']) with
  | some (_, rest) => rest.isEmpty && !(normalLabel s).isEmpty
  | none => false

/-! ## White space -/

/-- Drops white space with at most one line ending. -/
def dropGap (s : List Char) : List Char :=
  match s.dropWhile fun c => c == ' ' || c == '\t' with
  | '\n' :: t => t.dropWhile fun c => c == ' ' || c == '\t'
  | t => t

/-! ## Addresses -/

/-- Reads an address up to its closing angle bracket. -/
def angled : List Char → Option (List Char × List Char)
  | [] => none
  | [c] => if c = '>' then some ([], []) else none
  | c :: d :: s =>
    if c = '>' then some ([], d :: s)
    else if c = '<' || c = '\n' then none
    else if c = '\\' && isEscapable d then
      (angled s).map fun (l, rest) => (c :: d :: l, rest)
    else (angled (d :: s)).map fun (l, rest) => (c :: l, rest)

/-- Whether a character ends a plain address. -/
def endsAddress (c : Char) : Bool :=
  c.toNat ≤ 32 || c.toNat == 127

/-- Reads a plain address inside so many open parentheses; all of them must be closed. -/
def plainAddress : Nat → List Char → Option (List Char × List Char)
  | depth, [] => if depth = 0 then some ([], []) else none
  | depth, [c] =>
    if endsAddress c || (c = ')' && depth = 0) then
      if depth = 0 then some ([], [c]) else none
    else if c = ')' && depth = 1 || (c ≠ '(' && depth = 0) then some ([c], [])
    else none
  | depth, c :: d :: s =>
    if endsAddress c then if depth = 0 then some ([], c :: d :: s) else none
    else if c = '\\' && isEscapable d then
      (plainAddress depth s).map fun (l, rest) => (c :: d :: l, rest)
    else if c = '(' then (plainAddress (depth + 1) (d :: s)).map fun (l, rest) => (c :: l, rest)
    else if c = ')' then
      match depth with
      | 0 => some ([], c :: d :: s)
      | n + 1 => (plainAddress n (d :: s)).map fun (l, rest) => (c :: l, rest)
    else (plainAddress depth (d :: s)).map fun (l, rest) => (c :: l, rest)

/-- Reads an address. -/
def destination? : List Char → Option (List Char × List Char)
  | '<' :: s => angled s
  | s => plainAddress 0 s

/-! ## Titles -/

/-- Reads a title up to its closing character; an opening parenthesis inside must be escaped. -/
def titleUpTo (close : Char) : List Char → Option (List Char × List Char)
  | [] => none
  | [c] => if c = close then some ([], []) else none
  | c :: d :: s =>
    if c = close then some ([], d :: s)
    else if c = '(' && close = ')' then none
    else if c = '\\' && isEscapable d then
      (titleUpTo close s).map fun (l, rest) => (c :: d :: l, rest)
    else (titleUpTo close (d :: s)).map fun (l, rest) => (c :: l, rest)

/-- Reads a title. -/
def title? : List Char → Option (List Char × List Char)
  | '"' :: s => titleUpTo '"' s
  | '\'' :: s => titleUpTo '\'' s
  | '(' :: s => titleUpTo ')' s
  | _ => none

/-- The title of a link from its source; an empty one is none. -/
def titleOf (source : List Char) : Option String :=
  if source.isEmpty then none else some (String.ofList (unescape source))

/-! ## Inline links -/

/-- Reads address and title of a link after its opening parenthesis, up to the closing one. -/
def target? (s : List Char) : Option (Target × List Char) := do
  let (address, afterAddress) ← destination? (dropGap s)
  let rest := dropGap afterAddress
  let url := Address.ofSource address
  match rest with
  | ')' :: t => some (⟨url, none⟩, t)
  | _ =>
    if rest.length = afterAddress.length then none
    else
      let (title, afterTitle) ← title? rest
      match dropGap afterTitle with
      | ')' :: t => some (⟨url, titleOf title⟩, t)
      | _ => none

/-! ## Definitions -/

/-- The text after the end of a line on which nothing but white space is left. -/
def lineEnd? (s : List Char) : Option (List Char) :=
  match s.dropWhile fun c => c == ' ' || c == '\t' with
  | [] => some []
  | '\n' :: t => some t
  | _ => none

/-- Reads the title of a definition, which must be the last on its line. -/
def definitionTitle? (afterAddress : List Char) : Option (List Char × List Char) := do
  let rest := dropGap afterAddress
  if rest.length = afterAddress.length then none
  else
    let (title, afterTitle) ← title? rest
    let next ← lineEnd? afterTitle
    some (title, next)

/-- Reads a link definition. A title that is not the last on its line is no title, and then the
definition must end before it. -/
def definition? (s : List Char) : Option (Definition × List Char) := do
  match s.dropWhile fun c => c == ' ' || c == '\t' with
  | '[' :: t =>
    let (label, afterLabel) ← label? t
    if (normalLabel label).isEmpty then none
    else match afterLabel with
      | ':' :: u =>
        let u := dropGap u
        let (address, afterAddress) ← destination? u
        if address.isEmpty && u.head? ≠ some '<' then none
        else
          let url := Address.ofSource address
          match definitionTitle? afterAddress with
          | some (title, next) => some (⟨normalLabel label, ⟨url, titleOf title⟩⟩, next)
          | none =>
            let next ← lineEnd? afterAddress
            some (⟨normalLabel label, ⟨url, none⟩⟩, next)
      | _ => none
  | _ => none

/-- Reads at most so many definitions from the start of a paragraph. -/
def definitionsWithin : Nat → List Char → List Definition × List Char
  | 0, s => ([], s)
  | n + 1, s =>
    match definition? s with
    | some (d, rest) =>
      let (ds, rest) := definitionsWithin n rest
      (d :: ds, rest)
    | none => ([], s)

/-- Reads the definitions that a paragraph starts with. -/
def definitions (s : List Char) : List Definition × List Char :=
  definitionsWithin s.length s

/-- The target of a label among definitions; the first one counts. -/
def targetOf? (ds : List Definition) (label : List Char) : Option Target :=
  (ds.find? fun d => d.label = normalLabel label).map Definition.target

end PackageDoc.Markdown
