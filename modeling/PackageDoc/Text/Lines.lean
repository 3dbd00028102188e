import PackageDoc.Text.Blank

/-!
# Lines

A text is cut into lines in two ways. `lines` cuts at every line boundary that Unicode knows, and
keeps each line's ending, so that nothing is lost:

    the wholes of lines s, joined, are s                        (flatten_lines)
    no body holds a line boundary                               (isBoundary_of_mem_lines)

`splitAt` cuts at one character and keeps the empty pieces on either side of it.
-/

namespace PackageDoc.Text

/-! ## Cutting at line boundaries -/

/-- Line feed, carriage return, vertical tab, form feed, the separators 1C to 1E, next line, and
the line and paragraph separators. -/
def isBoundary (c : Char) : Bool :=
  let n := c.toNat
  (10 ≤ n && n ≤ 13) || (28 ≤ n && n ≤ 30) || n == 0x85 || n == 0x2028 || n == 0x2029

/-- A line: what stands on it and the boundary that ends it, empty for an unfinished last line. -/
structure Line where
  body : List Char
  ending : List Char
  deriving Repr, DecidableEq, Inhabited

/-- The line with its ending. -/
def Line.whole (l : Line) : List Char :=
  l.body ++ l.ending

/-- Puts a character in front of the first line. -/
def Line.consTo (c : Char) : List Line → List Line
  | [] => [⟨[c], []⟩]
  | l :: ls => ⟨c :: l.body, l.ending⟩ :: ls

/-- The lines of a text; a carriage return and the line feed after it are one boundary. -/
def lines : List Char → List Line
  | [] => []
  | '\r' :: '\n' :: s => ⟨[], ['\r', '\n']⟩ :: lines s
  | c :: s => if isBoundary c then ⟨[], [c]⟩ :: lines s else Line.consTo c (lines s)

/-- The lines of a text without their endings. -/
def bareLines (s : List Char) : List (List Char) :=
  (lines s).map Line.body

/-! ## Cutting at a character -/

/-- The pieces between the occurrences of a character, one more than there are occurrences. -/
def splitAt (sep : Char) : List Char → List (List Char)
  | [] => [[]]
  | c :: s =>
    if c = sep then [] :: splitAt sep s
    else match splitAt sep s with
      | [] => [[c]]
      | p :: ps => (c :: p) :: ps

/-! ## Lemmas -/

theorem whole_consTo (c : Char) (ls : List Line) :
    ((Line.consTo c ls).map Line.whole).flatten = c :: (ls.map Line.whole).flatten := by
  cases ls <;> simp [Line.consTo, Line.whole]

/-- Cutting loses nothing. -/
theorem flatten_lines (s : List Char) : ((lines s).map Line.whole).flatten = s := by
  fun_induction lines s with
  | case1 => rfl
  | case2 s ih => simp [Line.whole, ih]
  | case3 c s _ _ ih => simp [Line.whole, ih]
  | case4 c s _ _ ih => rw [whole_consTo, ih]

/-- No line holds a boundary in its body. -/
theorem isBoundary_of_mem_lines {s : List Char} {l : Line} (hl : l ∈ lines s) {c : Char}
    (hc : c ∈ l.body) : isBoundary c = false := by
  fun_induction lines s generalizing l c with
  | case1 => simp at hl
  | case2 s ih =>
    rcases List.mem_cons.1 hl with rfl | hl
    · simp at hc
    · exact ih hl hc
  | case3 c' s _ _ ih =>
    rcases List.mem_cons.1 hl with rfl | hl
    · simp at hc
    · exact ih hl hc
  | case4 c' s _ hb ih =>
    cases hls : lines s with
    | nil =>
      simp only [hls, Line.consTo, List.mem_singleton] at hl
      subst hl
      simp at hc
      simpa [hc] using hb
    | cons k ks =>
      simp only [hls, Line.consTo, List.mem_cons] at hl
      rcases hl with rfl | hl
      · rcases List.mem_cons.1 hc with rfl | hc
        · simpa using hb
        · exact ih (by simp [hls]) hc
      · exact ih (by simp [hls, hl]) hc

theorem splitAt_ne_nil (sep : Char) (s : List Char) : splitAt sep s ≠ [] := by
  cases s with
  | nil => simp [splitAt]
  | cons c s =>
    simp only [splitAt]
    split
    · simp
    · split <;> simp

end PackageDoc.Text
