import PackageDoc.FrontMatter
import PackageDoc.Proofs.Lines

/-!
# Front matter as a part of a text

A text with front matter is an opening line, the content of the block, a closing line and the rest,
one after another. The content and the rest are made of whole lines, so cutting them into lines
again gives the lines that they have in the text:

    split f s = some (raw, rest) ↔ lines s = opening :: (lines raw ++ closing :: lines rest)
                                                                              (split_eq_some_iff)

where no line of the content closes the block. What is found that way is unique, and nothing of the
text is lost or shifted, however its lines end.
-/

namespace PackageDoc.FrontMatter

variable {f : Format} {s raw rest : List Char}

/-! ## Lines of a block -/

theorem closes_iff {l : Text.Line} : closes f l = true ↔ Text.trim l.whole = f.delimiter := by
  rw [closes, beq_iff_eq]

theorem joined_lines (s : List Char) : joined (Text.lines s) = s :=
  Text.flatten_lines s

/-- A line that opens a block: the delimiter, and one of two line ends. -/
def IsOpening (f : Format) (l : Text.Line) : Prop :=
  l = ⟨f.delimiter, ['\n']⟩ ∨ l = ⟨f.delimiter, ['\r', '\n']⟩

theorem opens_iff :
    opens f s = true ↔ f.delimiter ++ ['\n'] <+: s ∨ f.delimiter ++ ['\r', '\n'] <+: s := by
  rw [opens, Bool.or_eq_true, List.isPrefixOf_iff_prefix, List.isPrefixOf_iff_prefix]

/-- A text that starts with an opening line has it as its first line, and the others are those of
the text after it. -/
theorem lines_of_opens (h : opens f s = true) :
    ∃ opening t, IsOpening f opening ∧ Text.lines s = opening :: Text.lines t := by
  rcases opens_iff.1 h with ⟨t, rfl⟩ | ⟨t, rfl⟩
  · refine ⟨⟨f.delimiter, ['\n']⟩, t, .inl rfl, ?_⟩
    cases f <;> simp [Format.delimiter, Text.lines, Text.isBoundary, Text.Line.consTo]
  · refine ⟨⟨f.delimiter, ['\r', '\n']⟩, t, .inr rfl, ?_⟩
    cases f <;> simp [Format.delimiter, Text.lines, Text.isBoundary, Text.Line.consTo]

/-- A text whose first line opens a block starts with the delimiter and a line end. -/
theorem opens_of_lines {opening : Text.Line} {ls : List Text.Line} (ho : IsOpening f opening)
    (h : Text.lines s = opening :: ls) : opens f s = true := by
  have hs : s = opening.whole ++ joined ls := by
    rw [← joined_lines s, h]
    rfl
  rw [opens_iff, hs]
  rcases ho with rfl | rfl
  · exact .inl (List.prefix_append _ _)
  · exact .inr (List.prefix_append _ _)

/-! ## Cutting -/

/-- What a cut gives is exactly what stands on either side of the first closing line. -/
theorem cut_eq_some_iff {ls before after : List Text.Line} :
    cut f ls = some (before, after) ↔
      ∃ l, closes f l = true ∧ (∀ k ∈ before, closes f k = false) ∧ ls = before ++ l :: after := by
  refine ⟨joined_cut, ?_⟩
  rintro ⟨l, hl, hbefore, rfl⟩
  induction before with
  | nil => rw [List.nil_append, cut, if_pos hl]
  | cons k before ih =>
    obtain ⟨hk, hbefore⟩ := List.forall_mem_cons.1 hbefore
    rw [List.cons_append, cut, if_neg (by simp [hk]), ih hbefore]
    rfl

theorem isSome_cut_iff {ls : List Text.Line} :
    (cut f ls).isSome = true ↔ ∃ l ∈ ls, closes f l = true := by
  induction ls with
  | nil => simp [cut]
  | cons k ls ih =>
    by_cases hk : closes f k = true
    · simp [cut, hk]
    · simp [cut, hk, ih]

/-- A text splits exactly into the content of its block and the text after it if these are what
stands on either side of the first closing line after an opening line. -/
theorem split_eq_some_iff :
    split f s = some (raw, rest) ↔
      ∃ opening closing, IsOpening f opening ∧ closes f closing = true ∧
        (∀ l ∈ Text.lines raw, closes f l = false) ∧
        Text.lines s = opening :: (Text.lines raw ++ closing :: Text.lines rest) := by
  constructor
  · intro h
    rw [split] at h
    split at h
    · next hopen =>
      obtain ⟨opening, t, ho, hs⟩ := lines_of_opens hopen
      obtain ⟨⟨before, after⟩, hcut, he⟩ := Option.map_eq_some_iff.1 h
      obtain ⟨rfl, rfl⟩ := Prod.mk.inj he
      rw [hs, List.tail_cons] at hcut
      obtain ⟨closing, hclose, hbefore, ht⟩ := cut_eq_some_iff.1 hcut
      -- the parts are made of whole lines, so these are their lines
      have hraw : Text.lines (joined before) = before := Text.lines_flatten_of_prefix ht
      have hrest : Text.lines (joined after) = after := by
        rw [List.append_cons] at ht
        exact Text.lines_flatten_of_suffix ht
      exact ⟨opening, closing, ho, hclose, by rwa [hraw], by rw [hs, ht, hraw, hrest]⟩
    · cases h
  · rintro ⟨opening, closing, ho, hclose, hbefore, hs⟩
    have hcut : cut f (Text.lines s).tail = some (Text.lines raw, Text.lines rest) := by
      rw [hs, List.tail_cons, cut_eq_some_iff]
      exact ⟨closing, hclose, hbefore, rfl⟩
    rw [split, if_pos (opens_of_lines ho hs), hcut, Option.map_some]
    simp only [joined_lines]

theorem isSome_split_iff : (split f s).isSome = true ↔
    opens f s = true ∧ ∃ l ∈ (Text.lines s).tail, closes f l = true := by
  rw [split]
  split
  · next h => rw [Option.isSome_map, isSome_cut_iff, and_iff_right h]
  · next h => simp [h]

/-- A text does not open a block of either format. -/
theorem split_yaml_or_toml (s : List Char) : split .yaml s = none ∨ split .toml s = none := by
  cases hy : opens .yaml s with
  | false => exact .inl (by rw [split, hy]; rfl)
  | true =>
    right
    have ht : opens .toml s = false := by
      rcases opens_iff.1 hy with ⟨t, rfl⟩ | ⟨t, rfl⟩ <;> rfl
    rw [split, ht]
    rfl

theorem extract_of_split_eq_none [Host] {o : Markdown.Options}
    (h : o.frontMatter = false ∨ (split .yaml s = none ∧ split .toml s = none)) :
    extract o s = .ok ⟨[], s, false⟩ := by
  rw [extract]
  rcases h with h | ⟨hy, ht⟩
  · rw [h]
    rfl
  · split
    · rfl
    · rw [hy, ht]

/-- **Splitting is an exact partition.** A text has a block exactly if it starts with a delimiter
and a line end, and one of its later lines holds nothing else. The block and the rest are then what
stands before and behind the first such line: with the opening and that closing line they make up
the text. No text has blocks of both formats, and one without a block, or whose block is not wanted,
is left as it is. -/
theorem split_partition [Host] (s : List Char) :
    (∀ f : Format, (∃ raw rest, split f s = some (raw, rest)) ↔
      (f.delimiter ++ ['\n'] <+: s ∨ f.delimiter ++ ['\r', '\n'] <+: s) ∧
        ∃ l ∈ (Text.lines s).tail, Text.trim l.whole = f.delimiter) ∧
    (∀ (f : Format) (raw rest : List Char), split f s = some (raw, rest) ↔
      ∃ opening closing, IsOpening f opening ∧ Text.trim closing.whole = f.delimiter ∧
        (∀ l ∈ Text.lines raw, Text.trim l.whole ≠ f.delimiter) ∧
        Text.lines s = opening :: (Text.lines raw ++ closing :: Text.lines rest) ∧
        s = opening.whole ++ raw ++ closing.whole ++ rest) ∧
    (split .yaml s = none ∨ split .toml s = none) ∧
    (∀ o : Markdown.Options,
      o.frontMatter = false ∨ (split .yaml s = none ∧ split .toml s = none) →
        extract o s = .ok { fields := [], rest := s, found := false }) := by
  refine ⟨fun f => ?_, fun f raw rest => ?_, split_yaml_or_toml s,
    fun o h => extract_of_split_eq_none h⟩
  · have hpair : (∃ raw rest, split f s = some (raw, rest)) ↔ (split f s).isSome = true := by
      rw [Option.isSome_iff_exists, Prod.exists]
    simp only [hpair, isSome_split_iff, opens_iff, closes_iff]
  · simp only [split_eq_some_iff, closes_iff, ← Bool.not_eq_true]
    constructor
    · rintro ⟨opening, closing, ho, hclose, hraw, hs⟩
      refine ⟨opening, closing, ho, hclose, hraw, hs, ?_⟩
      calc s = joined (opening :: (Text.lines raw ++ closing :: Text.lines rest)) := by
            rw [← hs, joined_lines]
        _ = opening.whole ++ joined (Text.lines raw) ++ closing.whole ++
              joined (Text.lines rest) := by simp [joined]
        _ = _ := by rw [joined_lines, joined_lines]
    · rintro ⟨opening, closing, ho, hclose, hraw, hs, -⟩
      exact ⟨opening, closing, ho, hclose, hraw, hs⟩

/-- A block between lines that end in different ways, with a form feed in it and an unfinished line
behind it. -/
def mixedBlock : List Char :=
  "---\r\na: 1\x0cb: --- \x85 ---\n---".toList

theorem split_partition_mixedBlock :
    (∃ raw rest, split .yaml mixedBlock = some (raw, rest)) ∧
      split .yaml mixedBlock = some ("a: 1\x0cb: --- \x85".toList, "---".toList) ∧
      split .toml mixedBlock = none ∧
      extract { frontMatter := false } mixedBlock =
        .ok { fields := [], rest := mixedBlock, found := false } := by
  obtain ⟨hany, hsplit, hone, hoff⟩ := split_partition mixedBlock
  have h : split .yaml mixedBlock = some ("a: 1\x0cb: --- \x85".toList, "---".toList) :=
    (hsplit .yaml _ _).2 ⟨⟨"---".toList, "\r\n".toList⟩, ⟨" ---".toList, "\n".toList⟩,
      .inr rfl, by decide, by decide, by decide, by decide⟩
  refine ⟨(hany .yaml).2 ⟨.inr (by decide), ⟨" ---".toList, "\n".toList⟩, by decide, by decide⟩, h,
    ?_, hoff { frontMatter := false } (.inl rfl)⟩
  rcases hone with hnone | hnone
  · rw [h] at hnone
    cases hnone
  · exact hnone

end PackageDoc.FrontMatter
