/-!
# Blank characters

Which characters count as white space when a text is trimmed, and trimming at either end.

    trimStart s is the longest end of s that does not begin with a blank character
    trimEnd s is the longest beginning of s that does not end with one
    trim s does both
-/

namespace PackageDoc.Text

/-- White space of Unicode, together with the four information separators. -/
def isBlank (c : Char) : Bool :=
  let n := c.toNat
  (9 ≤ n && n ≤ 13) || (28 ≤ n && n ≤ 32) || n == 0x85 || n == 0xA0 || n == 0x1680 ||
    (0x2000 ≤ n && n ≤ 0x200A) || n == 0x2028 || n == 0x2029 || n == 0x202F || n == 0x205F ||
    n == 0x3000

/-- The text without the blank characters it begins with. -/
def trimStart (s : List Char) : List Char :=
  s.dropWhile isBlank

/-- The text without its last characters as long as they satisfy a test. -/
def dropEndWhile (p : Char → Bool) (s : List Char) : List Char :=
  (s.reverse.dropWhile p).reverse

/-- The text without the blank characters it ends with. -/
def trimEnd (s : List Char) : List Char :=
  dropEndWhile isBlank s

/-- The text without blank characters at either end. -/
def trim (s : List Char) : List Char :=
  trimEnd (trimStart s)

/-- The first word of a text, words being separated by blank characters. -/
def firstWord (s : List Char) : List Char :=
  (trimStart s).takeWhile fun c => !isBlank c

/-- Puts a character in front of the first word. -/
def consToWord (c : Char) : List (List Char) → List (List Char)
  | [] => [[c]]
  | w :: ws => (c :: w) :: ws

/-- The pieces of a text between its blank characters, of which some can be empty. -/
def blankPieces : List Char → List (List Char)
  | [] => [[]]
  | c :: s => if isBlank c then [] :: blankPieces s else consToWord c (blankPieces s)

/-- The words of a text, words being separated by blank characters. -/
def words (s : List Char) : List (List Char) :=
  (blankPieces s).filter fun w => !w.isEmpty

/-! ## Lemmas -/

/-- Nothing blank is left at the beginning of a trimmed text. -/
theorem isBlank_head_trimStart {s r : List Char} {c : Char} (h : trimStart s = c :: r) :
    isBlank c = false := by
  have := List.head?_dropWhile_not isBlank s
  rw [trimStart] at h
  simpa [h] using this

end PackageDoc.Text
