import PackageDoc.Proofs.Comment.Containment
import PackageDoc.Proofs.Comment.Reach

/-!
# Code blocks

Once something has been written, a code block is laid out the same in every state: a bare comment
line, and a comment line for each of its lines, bare if the line is empty and indented otherwise.
So its lines can be read back from what it adds.

    text (writeCode ls w).1 = (w.breaks - 1) bare lines ++ ls.flatMap codeLine   (text_writeCode)
    readCode (codeText ls) = ls                                            (readCode_codeText)
    a code block of lines L adds codeText L and leaves two breaks  (visitCodeBlock_layout)
-/

namespace PackageDoc.Comment

variable {w : Writer} {ls : List (List Char)}

/-- A line of code in a comment, with the line feed before it. -/
def codeLine (l : List Char) : List Char :=
  if l.isEmpty then "\n//".toList else "\n//   ".toList ++ l

/-- Lines of code in a comment, with a blank comment line before them. -/
def codeText (ls : List (List Char)) : List Char :=
  if ls.isEmpty then [] else "\n//".toList ++ ls.flatMap codeLine

/-- The lines of code that a comment shows: what follows the line feed and the blank comment line,
without the marker and the indentation. -/
def readCode (s : List Char) : List (List Char) :=
  ((Text.splitAt '\n' s).drop 2).map fun line => line.drop 5

/-! ## Layout -/

/-- Breaks before a line of code that is not empty: a bare line for all but the last of them. -/
theorem chars_breaks_code {l : List Char} (hl : l ≠ []) (c : Nat) :
    (Gap.breaks (c + 1)).chars ++ (indent ++ l) =
      (List.replicate c "\n//".toList).flatten ++ codeLine l := by
  have hline : codeLine l = "\n//   ".toList ++ l := by
    rw [codeLine, if_neg (by simpa using hl)]
  rw [hline, Gap.chars, List.replicate_succ', List.flatten_append]
  simp [indent]

/-- Lines of code, of which the last is not empty, follow all the bare lines but one that have been
requested. -/
theorem text_writeCode {last : List Char} (hlast : ls.getLast? = some last) (hne : last ≠ [])
    {c : Nat} (ho : w.sentenceOpen = false) (hb : w.breaks = c + 1) :
    text (writeCode ls w).1 =
      (List.replicate c "\n//".toList).flatten ++ ls.flatMap codeLine := by
  -- an empty line adds to the breaks that the next one finds requested
  induction ls generalizing w c with
  | nil => simp at hlast
  | cons l rest ih =>
    by_cases hl : l = []
    · have hrest : rest ≠ [] := by
        rintro rfl
        rw [hl] at hlast
        exact hne (Option.some.inj hlast).symm
      rw [List.getLast?_cons_of_ne_nil hrest] at hlast
      have hmore : w.breaks + 1 = c + 1 + 1 := by rw [hb]
      rw [hl, writeCode_nil_cons, ih (w := { w with breaks := w.breaks + 1 }) hlast ho hmore,
        List.flatMap_cons, List.replicate_succ', List.flatten_append, List.append_assoc]
      rfl
    · have hword : (write (indent ++ l) w).1 = [⟨.breaks (c + 1), indent ++ l⟩] := by
        rw [write_of_closed (indent_append_ne_nil l) ho, put, Writer.gapBefore, hb,
          if_pos (Nat.succ_pos c)]
      rw [writeCode_cons hl, text_append, hword, text_cons, text_nil, List.append_nil,
        chars_breaks_code hl, List.flatMap_cons, List.append_assoc]
      congr 2
      cases rest with
      | nil => rfl
      | cons next rest =>
        rw [write_snd (indent_append_ne_nil l)]
        exact ih (c := 0) hlast rfl rfl

/-- Below a blank comment line, lines of code are laid out as they are. -/
theorem text_writeCode_of_framed (hf : Framed ls) (ho : w.sentenceOpen = false)
    (hb : w.breaks = maxBreaks) : text (writeCode ls w).1 = codeText ls := by
  rcases hf.cases with rfl | ⟨l, rest, last, rfl, hlast, -, hne⟩
  · rfl
  · rw [text_writeCode (c := 1) hlast hne ho hb]
    rfl

/-- Lines of code leave a blank comment line requested. -/
theorem breaks_requestBreak_writeCode (hf : Framed ls) (hw : w.Sound)
    (hb : w.breaks = maxBreaks) : (writeCode ls w).2.requestBreak.breaks = maxBreaks := by
  have hsound := hw.writeCode hf
  rcases hf.cases with rfl | ⟨-, -, last, -, hlast, -, hne⟩
  · have hlast : w.last ≠ [] := by
      intro hnil
      rw [hw.breaks_eq_zero hnil] at hb
      contradiction
    show w.requestBreak.breaks = maxBreaks
    rw [hw.breaks_requestBreak hlast, hb]
    rfl
  · rw [writeCode_snd hlast hne] at hsound ⊢
    rw [hsound.breaks_requestBreak (indent_append_ne_nil last)]
    rfl

/-! ## Reading back -/

/-- A text of lines that begin with a separator each is cut into these lines. -/
theorem splitAt_flatMap_cons {sep : Char} {a : List Char} {f : List Char → List Char}
    (ha : sep ∉ a) (hf : ∀ l ∈ ls, sep ∉ f l) :
    Text.splitAt sep (a ++ ls.flatMap fun l => sep :: f l) = a :: ls.map f := by
  induction ls generalizing a with
  | nil => simp [Text.splitAt_of_not_mem ha]
  | cons l ls ih =>
    obtain ⟨hl, hls⟩ := List.forall_mem_cons.1 hf
    rw [List.flatMap_cons, List.cons_append, Text.splitAt_append_cons, Text.splitAt_of_not_mem ha,
      ih hl hls]
    rfl

/-- The comment line of a line of code. -/
def codeMark (l : List Char) : List Char :=
  if l.isEmpty then marker else "//   ".toList ++ l

theorem codeLine_eq (l : List Char) : codeLine l = '\n' :: codeMark l := by
  unfold codeLine codeMark
  split <;> rfl

theorem drop_codeMark (l : List Char) : (codeMark l).drop 5 = l := by
  unfold codeMark
  split
  · next h =>
    rw [List.isEmpty_iff.1 h]
    rfl
  · rfl

/-- Lines of code without line feeds can be read back. -/
theorem readCode_codeText (h : ∀ l ∈ ls, '\n' ∉ l) : readCode (codeText ls) = ls := by
  cases ls with
  | nil => rfl
  | cons l rest =>
    have hmark : ∀ m ∈ l :: rest, '\n' ∉ codeMark m := by
      intro m hm
      unfold codeMark
      split
      · decide
      · rw [List.mem_append, not_or]
        exact ⟨by decide, h m hm⟩
    have htext : codeText (l :: rest) =
        [] ++ '\n' :: (marker ++ (l :: rest).flatMap fun m => '\n' :: codeMark m) := by
      rw [← funext codeLine_eq]
      rfl
    rw [readCode, htext, Text.splitAt_append_cons, splitAt_flatMap_cons (by decide) hmark]
    simp [Text.splitAt, drop_codeMark, Function.comp_def]

/-! ## Code blocks -/

theorem visit_codeBlock (o : Options) (content : String) (language : Option String) (info : Info)
    (w : Writer) :
    visit o (.leaf (.codeBlock content language) info) w =
      (Step.wrote (writeCode (codeLines content.toList) w.requestParagraph)).adjust
        Writer.requestBreak :=
  rfl

/-- **Code blocks are laid out as they are, and can be read back.** Let something have been written.
Then a code block adds a bare comment line and a comment line for each of its lines, without the
blanks at their ends and the empty ones at either end of the block, or nothing if none is left. It
leaves a blank comment line requested. What it adds tells its lines. -/
theorem visitCodeBlock_layout (hw : w.Reachable) (hlast : w.last ≠ []) (o : Options)
    (content : String) (language : Option String) (info : Info) :
    let s := visit o (.leaf (.codeBlock content language) info) w
    s.failure = none ∧ text s.tokens = codeText (codeLines content.toList) ∧
      s.writer.breaks = 2 ∧ readCode (text s.tokens) = codeLines content.toList := by
  have hframed := framed_codeLines content.toList
  have hbreaks : w.requestParagraph.breaks = maxBreaks := hw.sound.breaks_requestParagraph hlast
  have htext : text (writeCode (codeLines content.toList) w.requestParagraph).1 =
      codeText (codeLines content.toList) :=
    text_writeCode_of_framed hframed (hw.sound.sentenceOpen_eq_false hlast) hbreaks
  have hfeed : ∀ l ∈ codeLines content.toList, '\n' ∉ l := fun l hl hn =>
    absurd (isBoundary_of_mem_codeLines hl hn) (by decide)
  dsimp only
  rw [visit_codeBlock, Step.failure_adjust, Step.tokens_adjust, Step.writer_adjust,
    Step.failure_wrote, Step.tokens_wrote, Step.writer_wrote, htext]
  refine ⟨rfl, rfl, ?_, readCode_codeText hfeed⟩
  exact breaks_requestBreak_writeCode hframed hw.sound.requestParagraph hbreaks

/-- The state after words that end in a space. -/
def pastWords : Writer :=
  ((Draft.start {}).visits {} [.text "a "]).writer

/-- Indented code with empty lines in it and around it. -/
def looseCode : Node :=
  .leaf (.codeBlock "\n  a\n\n \n b \n" none) {}

theorem visitCodeBlock_layout_looseCode :
    pastWords.Reachable ∧ pastWords.last ≠ [] ∧
      text (visit {} looseCode pastWords).tokens = "\n//\n//     a\n//\n//\n//    b".toList ∧
      (visit {} looseCode pastWords).writer.breaks = 2 ∧
      readCode (text (visit {} looseCode pastWords).tokens) =
        ["  a".toList, [], [], " b".toList] := by
  have hreach : pastWords.Reachable := reachable_visits {} [.text "a "]
  have hlast : pastWords.last ≠ [] := by decide
  have hlines : codeLines "\n  a\n\n \n b \n".toList = ["  a".toList, [], [], " b".toList] := by
    decide
  obtain ⟨-, htext, hbreaks, hread⟩ :=
    visitCodeBlock_layout hreach hlast {} "\n  a\n\n \n b \n" none {}
  rw [hlines] at htext hread
  exact ⟨hreach, hlast, htext, hbreaks, hread⟩

end PackageDoc.Comment
