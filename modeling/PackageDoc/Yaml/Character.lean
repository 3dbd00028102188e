import PackageDoc.Text.Hexadecimal
import PackageDoc.Yaml.Fault

/-!
# Characters of YAML

Which characters a YAML text may hold, what ends a line in it, and what stands for an escape.
-/

namespace PackageDoc.Yaml

/-- Whether a text may hold a character: tabs, line ends, and what is neither a control character
nor a noncharacter. -/
def isAllowed (c : Char) : Bool :=
  let n := c.toNat
  n == 9 || n == 10 || n == 13 || (0x20 ≤ n && n ≤ 0x7E) || n == 0x85 ||
    (0xA0 ≤ n && n ≤ 0xFFFD) || 0x10000 ≤ n

/-- Whether a character ends a line. -/
def isBreak (c : Char) : Bool :=
  c == '\n' || c == '\r' || c == '\x85' || c == '\u2028' || c == '\u2029'

/-- Whether a character separates tokens. -/
def isGap (c : Char) : Bool :=
  c == ' ' || c == '\t' || isBreak c

/-- Whether a text is at its end or before a gap. -/
def startsGap (s : List Char) : Bool :=
  match s with
  | [] => true
  | c :: _ => isGap c

/-- Whether a text is at its end, or before a space or the end of a line. -/
def startsSpace (s : List Char) : Bool :=
  match s with
  | [] => true
  | c :: _ => c == ' ' || isBreak c

/-- The line end that a text starts with, in the form that it has in values, and the rest. -/
def lineBreak? : List Char → Option (List Char × List Char)
  | '\r' :: '\n' :: s => some (['\n'], s)
  | c :: s =>
    if c == '\n' || c == '\r' || c == '\x85' then some (['\n'], s)
    else if c == '\u2028' || c == '\u2029' then some ([c], s)
    else none
  | [] => none

/-- Whether a line starts with three of a character and a gap. -/
def startsMarker (mark : Char) (s : List Char) : Bool :=
  s.take 3 == [mark, mark, mark] && startsGap (s.drop 3)

/-- Whether a line separates documents. -/
def startsSeparator (s : List Char) : Bool :=
  startsMarker '-' s || startsMarker '.' s

/-- Whether a character may be in the name of an anchor or a handle. -/
def isNamePart (c : Char) : Bool :=
  ('0' ≤ c && c ≤ '9') || ('A' ≤ c && c ≤ 'Z') || ('a' ≤ c && c ≤ 'z') || c == '-' || c == '_'

/-- The characters that single letters stand for behind a backslash. -/
def escapes : List (Char × Char) :=
  [('0', '\x00'), ('a', '\x07'), ('b', '\x08'), ('t', '\t'), ('\t', '\t'), ('n', '\n'),
    ('v', '\x0b'), ('f', '\x0c'), ('r', '\r'), ('e', '\x1b'), (' ', ' '), ('"', '"'),
    ('\\', '\\'), ('/', '/'), ('N', '\x85'), ('_', '\xa0'), ('L', '\u2028'), ('P', '\u2029')]

/-- The letters behind a backslash that are followed by hexadecimal digits, and how many. -/
def numericEscapes : List (Char × Nat) :=
  [('x', 2), ('u', 4), ('U', 8)]

/-- The character that hexadecimal digits name. Half of a surrogate pair is none; the replacement
character stands for it. -/
def characterOf (n : Nat) : Except Fault Char :=
  if 0x10FFFF < n then .error (.codePoint n)
  else if 0xD800 ≤ n && n ≤ 0xDFFF then .ok '\uFFFD'
  else .ok (Char.ofNat n)

end PackageDoc.Yaml
