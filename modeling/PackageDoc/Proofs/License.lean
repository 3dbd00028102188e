import PackageDoc.License
import PackageDoc.Proofs.Comment.Containment
import PackageDoc.Proofs.Text.Utf8

/-!
# The license above a doc comment

No line of a license holds a line feed, whatever the bytes of its file, so each becomes one comment
line and can be read back. One empty line stands between the last of them and the doc comment.

    l ∈ linesOf data → c ∈ l → isBoundary c = false                   (isBoundary_of_mem_linesOf)
    splitAt '\n' (header ls ++ s) = ls.map comment ++ [] :: splitAt '\n' s  (splitAt_header_append)
    readHeader (header ls) = ls                                               (readHeader_header)
    a license file above any rendered text                                     (header_separated)
-/

namespace PackageDoc.License

open Text (splitAt isBoundary)

variable {sep : Char} {ls : List (List Char)}

/-! ## Comment lines -/

/-- A comment line is a bare marker, or the marker, a space and the line. -/
theorem comment_cases (l : List Char) :
    l = [] ∧ comment l = "//".toList ∨ l ≠ [] ∧ comment l = "// ".toList ++ l := by
  cases l with
  | nil => exact .inl ⟨rfl, rfl⟩
  | cons c l => exact .inr ⟨List.cons_ne_nil c l, rfl⟩

theorem feed_not_mem_comment {l : List Char} (h : '\n' ∉ l) : '\n' ∉ comment l := by
  rcases comment_cases l with ⟨-, hl⟩ | ⟨-, hl⟩
  · rw [hl]
    decide
  · rw [hl, List.mem_append, not_or]
    exact ⟨by decide, h⟩

/-- The line that a comment line stands for. -/
theorem drop_comment (l : List Char) : (comment l).drop 3 = l := by
  rcases comment_cases l with ⟨rfl, hl⟩ | ⟨-, hl⟩
  · rw [hl]
    rfl
  · rw [hl]
    rfl

/-! ## The block -/

/-- Lines that are each ended by a separator are cut apart again. -/
theorem splitAt_flatMap_append {f : List Char → List Char} (hf : ∀ l ∈ ls, sep ∉ f l)
    (s : List Char) :
    splitAt sep ((ls.flatMap fun l => f l ++ [sep]) ++ s) = ls.map f ++ splitAt sep s := by
  induction ls with
  | nil => rfl
  | cons l ls ih =>
    obtain ⟨hl, hls⟩ := List.forall_mem_cons.1 hf
    rw [List.flatMap_cons, List.append_assoc, List.append_assoc, List.singleton_append,
      Text.splitAt_append_cons, Text.splitAt_of_not_mem hl, ih hls]
    rfl

/-- What follows the block is an empty line and then the rest. -/
theorem splitAt_header_append (hls : ∀ l ∈ ls, '\n' ∉ l) (s : List Char) :
    splitAt '\n' (header ls ++ s) = ls.map comment ++ [] :: splitAt '\n' s := by
  rw [header, List.append_assoc, splitAt_flatMap_append fun l hl => feed_not_mem_comment (hls l hl)]
  rfl

/-- The lines that a block was made of: those before the two empty ones, without the markers. -/
def readHeader (h : List Char) : List (List Char) :=
  (splitAt '\n' h).dropLast.dropLast.map (List.drop 3)

theorem splitAt_header (hls : ∀ l ∈ ls, '\n' ∉ l) :
    splitAt '\n' (header ls) = ls.map comment ++ [[], []] := by
  simpa [splitAt] using splitAt_header_append hls []

theorem readHeader_header (hls : ∀ l ∈ ls, '\n' ∉ l) : readHeader (header ls) = ls := by
  have hpieces : splitAt '\n' (header ls) = (ls.map comment ++ [[]]) ++ [[]] := by
    rw [splitAt_header hls, List.append_assoc]
    rfl
  have hdrop : (List.drop 3) ∘ comment = id := funext drop_comment
  rw [readHeader, hpieces, List.dropLast_concat, List.dropLast_concat, List.map_map, hdrop,
    List.map_id]

/-! ## The file -/

/-- No line of a license holds a line boundary, whatever the bytes of its file. -/
theorem isBoundary_of_mem_linesOf {data : ByteArray} {l : List Char} (hl : l ∈ linesOf data)
    {c : Char} (hc : c ∈ l) : isBoundary c = false := by
  obtain ⟨line, hline, rfl⟩ := List.mem_map.1 hl
  exact Text.isBoundary_of_mem_lines hline hc

theorem feed_not_mem_linesOf {data : ByteArray} : ∀ l ∈ linesOf data, '\n' ∉ l :=
  fun _ hl hfeed => absurd (isBoundary_of_mem_linesOf hl hfeed) (by decide)

/-- The first line of a rendered text opens the doc comment. -/
theorem splitAt_render {o : Comment.Options} {n : Node} {body : String}
    (h : Comment.render o n = .ok body) :
    ∃ first rest, splitAt '\n' body.toList = first :: rest ∧ "// Package ".toList <+: first := by
  obtain ⟨t, ht⟩ : ∃ t, body.toList = "// Package ".toList ++ t := by
    rw [Comment.toList_of_render h, Comment.commentText, Comment.toList_header]
    exact ⟨_, by simp [Comment.marker]; rfl⟩
  obtain ⟨p, ps, hp⟩ := List.exists_cons_of_ne_nil (Text.splitAt_ne_nil '\n' t)
  exact ⟨_, ps, by rw [ht, Text.splitAt_append_of_not_mem (by decide) hp], List.prefix_append _ p⟩

/-- **The license is a block of its own, and none of it is lost.** Whatever the bytes of a license
file, its block has one comment line for each line, a bare marker if and only if the line is empty,
and then an empty line. The lines can be read back from it. With a rendered text after it, the
block and the doc comment have exactly this empty line between them. -/
theorem header_separated (data : ByteArray) :
    splitAt '\n' (header (linesOf data)) = (linesOf data).map comment ++ [[], []] ∧
      (∀ l ∈ linesOf data,
        l = [] ∧ comment l = "//".toList ∨ l ≠ [] ∧ comment l = "// ".toList ++ l) ∧
      readHeader (header (linesOf data)) = linesOf data ∧
      ∀ (o : Comment.Options) (n : Node) (body : String), Comment.render o n = .ok body →
        ∃ first rest, splitAt '\n' (String.ofList (header (linesOf data)) ++ body).toList =
            (linesOf data).map comment ++ [] :: first :: rest ∧
          splitAt '\n' body.toList = first :: rest ∧ "// Package ".toList <+: first := by
  have hls : ∀ l ∈ linesOf data, '\n' ∉ l := feed_not_mem_linesOf
  refine ⟨splitAt_header hls, fun l _ => comment_cases l, readHeader_header hls, ?_⟩
  intro o n body h
  obtain ⟨first, rest, hbody, hfirst⟩ := splitAt_render h
  refine ⟨first, rest, ?_, hbody, hfirst⟩
  rw [String.toList_append, String.toList_ofList, splitAt_header_append hls, hbody]

/-- Two lines with one empty line between them, ended in three ways, and a byte that is no UTF-8. -/
theorem header_separated_mixedEndings :
    let data : ByteArray := ⟨#[0x61, 0x0D, 0x0A, 0x0B, 0xFF, 0x0D]⟩
    linesOf data = [['a'], [], ['ÿ']] ∧
      readHeader "// a\n//\n// ÿ\n\n".toList = [['a'], [], ['ÿ']] ∧
      ∃ body, Comment.render {} (.document [.paragraph [.text "x"]]) = .ok body ∧
        ∃ first rest, splitAt '\n' (String.ofList (header (linesOf data)) ++ body).toList =
          ["// a".toList, "//".toList, "// ÿ".toList] ++ [] :: first :: rest := by
  intro data
  have hlines : linesOf data = [['a'], [], ['ÿ']] := by
    have hinvalid : String.fromUTF8? data = none := by decide
    rw [linesOf, Text.decode, hinvalid]
    dsimp only
    rw [Text.ofLatin1, Text.toList_eq, String.toList_ofList]
    decide
  have hrender : Comment.render {} (.document [.paragraph [.text "x"]]) =
      .ok "// Package main is the .\n//\n// x\npackage main\n" := rfl
  obtain ⟨-, -, hread, hbody⟩ := header_separated data
  obtain ⟨first, rest, hsplit, -, -⟩ := hbody _ _ _ hrender
  rw [hlines] at hread hsplit
  exact ⟨hlines, hread, _, hrender, first, rest, hlines ▸ hsplit⟩

end PackageDoc.License
