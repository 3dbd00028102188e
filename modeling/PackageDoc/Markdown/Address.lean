import PackageDoc.Markdown.Entity

/-!
# Link addresses

How the address of a link is read from its source: backslash escapes lose their backslash,
character references are replaced by the characters they stand for, and every byte outside a fixed
set of characters is written as a percent sign with two hexadecimal digits. What was written so
before stays as it is.
-/

namespace PackageDoc.Markdown

/-! ## Escapes -/

/-- The characters that a backslash escapes. -/
def isEscapable (c : Char) : Bool :=
  ('!' ≤ c && c ≤ '/') || (':' ≤ c && c ≤ '@') || ('[' ≤ c && c.toNat ≤ 96) ||
    (123 ≤ c.toNat && c ≤ '~')

/-- A text without the backslashes of its escapes. -/
def unescape : List Char → List Char
  | [] => []
  | [c] => [c]
  | '\\' :: c :: s => if isEscapable c then c :: unescape s else '\\' :: unescape (c :: s)
  | c :: d :: s => c :: unescape (d :: s)

/-! ## Character references -/

namespace Entity

/-- The code points from 80 to 9F stand for the characters that an old encoding has there. -/
def replacements : List (Nat × Nat) :=
  [(0x00, 0xFFFD), (0x0D, 0x0D), (0x80, 0x20AC), (0x81, 0x81), (0x82, 0x201A), (0x83, 0x0192),
    (0x84, 0x201E), (0x85, 0x2026), (0x86, 0x2020), (0x87, 0x2021), (0x88, 0x02C6),
    (0x89, 0x2030), (0x8A, 0x0160), (0x8B, 0x2039), (0x8C, 0x0152), (0x8D, 0x8D), (0x8E, 0x017D),
    (0x8F, 0x8F), (0x90, 0x90), (0x91, 0x2018), (0x92, 0x2019), (0x93, 0x201C), (0x94, 0x201D),
    (0x95, 0x2022), (0x96, 0x2013), (0x97, 0x2014), (0x98, 0x02DC), (0x99, 0x2122),
    (0x9A, 0x0161), (0x9B, 0x203A), (0x9C, 0x0153), (0x9D, 0x9D), (0x9E, 0x017E), (0x9F, 0x0178)]

/-- Whether a code point stands for no character: most controls, and the noncharacters. -/
def isNothing (n : Nat) : Bool :=
  (1 ≤ n && n ≤ 8) || n == 0x0B || (0x0E ≤ n && n ≤ 0x1F) || (0x7F ≤ n && n ≤ 0x9F) ||
    (0xFDD0 ≤ n && n ≤ 0xFDEF) || 0xFFFE ≤ n % 0x10000

/-- The characters that a reference by number stands for. -/
def numbered (n : Nat) : List Char :=
  match replacements.lookup n with
  | some m => [Char.ofNat m]
  | none =>
    if (0xD800 ≤ n && n ≤ 0xDFFF) || 0x10FFFF < n then ['\uFFFD']
    else if isNothing n then []
    else [Char.ofNat n]

/-- What the longest beginning of a name that needs no semicolon stands for, and the rest of the
name. -/
def openBeginning? (name : List Char) : Nat → Option (List Char)
  | 0 => none
  | n + 1 =>
    if isOpen (name.take (n + 1)) then
      (named? (name.take (n + 1))).map fun cs => cs ++ name.drop (n + 1)
    else openBeginning? name n

/-- The characters that a reference by name stands for; an unknown name stands for itself. -/
def ofName (name : List Char) : List Char :=
  match named? name with
  | some cs => cs
  | none => (openBeginning? name name.length).getD ('&' :: name) ++ [';']

/-- Whether a character may be in the name of a reference. -/
def isNamePart (c : Char) : Bool :=
  !(c == '\t' || c == '\n' || c == '\x0c' || c == ' ' || c == '<' || c == '&' || c == '#' ||
    c == ';')

/-- What the reference after an ampersand stands for, and the characters it takes. -/
def reference? (s : List Char) : Option (List Char × Nat) :=
  let closed (taken : Nat) (cs : List Char) : Option (List Char × Nat) :=
    match s.drop taken with
    | ';' :: _ => some (cs, taken + 1)
    | _ => none
  match s with
  | '#' :: x :: ds =>
    if x = 'x' ∨ x = 'X' then
      let hs := ds.takeWhile Text.isHexDigit
      if hs.isEmpty then none else closed (2 + hs.length) (numbered (Text.ofHexadecimal hs))
    else
      let hs := (x :: ds).takeWhile Text.isDigit
      if hs.isEmpty || 7 < hs.length then none
      else closed (1 + hs.length) (numbered (Text.ofDigits 10 hs))
  | s =>
    let name := s.takeWhile isNamePart
    if name.isEmpty || 32 < name.length then none else closed name.length (ofName name)

/-- A text with its references replaced, less the characters at its start that were accounted for
before. -/
def decodeFrom : Nat → List Char → List Char
  | _, [] => []
  | n + 1, _ :: s => decodeFrom n s
  | 0, c :: s =>
    if c = '&' then
      match reference? s with
      | some (cs, taken) => cs ++ decodeFrom taken s
      | none => '&' :: decodeFrom 0 s
    else c :: decodeFrom 0 s

/-- A text with its character references replaced. -/
def decode (s : List Char) : List Char :=
  decodeFrom 0 s

end Entity

/-! ## Percent encoding -/

namespace Address

/-- The characters that stand for themselves in an address. -/
def isPlain (c : Char) : Bool :=
  ('a' ≤ c && c ≤ 'z') || ('A' ≤ c && c ≤ 'Z') || Text.isDigit c ||
    "_.-~:/?#@!$&()*+,;=%".toList.contains c

/-- A byte as a percent sign and two hexadecimal digits. -/
def percent (b : UInt8) : List Char :=
  '%' :: (Text.hexadecimal 2 b.toNat).map Char.toUpper

/-- A text with all but plain characters encoded. -/
def encode (s : List Char) : List Char :=
  s.flatMap fun c => if isPlain c then [c] else (String.ofList [c]).toUTF8.toList.flatMap percent

/-- The address that an unescaped text stands for. -/
def ofText (s : List Char) : String :=
  String.ofList (encode (Entity.decode s))

/-- The address of a link from its source. -/
def ofSource (s : List Char) : String :=
  ofText (unescape s)

end Address

end PackageDoc.Markdown
