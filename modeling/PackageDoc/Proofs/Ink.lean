import Mathlib.Data.List.DropRight
import PackageDoc.Proofs.Lines

/-!
# What can be seen of a text

`ink s` is a text without its blank characters. Trimming a text and cutting it into lines, at line
feeds or at every boundary, leave its ink as it is.

    ink (trimStart s) = ink s = ink (trimEnd s)
    the ink of the lines of s, joined, is ink s         (flatMap_ink_splitAt, flatMap_ink_bareLines)
-/

namespace PackageDoc.Text

/-- The characters of a text that are not blank. -/
def ink (s : List Char) : List Char :=
  s.filter fun c => !isBlank c

variable {s : List Char}

@[simp] theorem ink_nil : ink [] = [] := rfl

@[simp] theorem ink_append (s t : List Char) : ink (s ++ t) = ink s ++ ink t :=
  List.filter_append s t

theorem ink_cons_of_blank {c : Char} (h : isBlank c = true) (s : List Char) :
    ink (c :: s) = ink s := by
  unfold ink
  rw [List.filter_cons_of_neg (by simp [h])]

theorem ink_eq_nil : ink s = [] ↔ ∀ c ∈ s, isBlank c = true := by
  unfold ink
  rw [List.filter_eq_nil_iff]
  simp

/-- Blank characters at the beginning do not matter. -/
theorem ink_trimStart (s : List Char) : ink (trimStart s) = ink s := by
  induction s with
  | nil => rfl
  | cons c s ih =>
    by_cases hc : isBlank c = true
    · have htrim : trimStart (c :: s) = trimStart s := by
        unfold trimStart
        rw [List.dropWhile_cons_of_pos hc]
      rw [htrim, ih, ink_cons_of_blank hc]
    · have htrim : trimStart (c :: s) = c :: s := by
        unfold trimStart
        rw [List.dropWhile_cons_of_neg hc]
      rw [htrim]

theorem ink_reverse (s : List Char) : ink s.reverse = (ink s).reverse := by
  unfold ink
  rw [List.filter_reverse]

/-- Blank characters at the end do not matter. -/
theorem ink_trimEnd (s : List Char) : ink (trimEnd s) = ink s := by
  have h : trimEnd s = (trimStart s.reverse).reverse := rfl
  rw [h, ink_reverse, ink_trimStart, ink_reverse, List.reverse_reverse]

theorem ink_flatten (ls : List (List Char)) : ink ls.flatten = ls.flatMap ink := by
  unfold ink
  rw [List.filter_flatten, List.flatMap_def]

/-! ## Lines -/

/-- A blank separator can be left out. -/
theorem flatMap_ink_splitAt {sep : Char} (hsep : isBlank sep = true) (s : List Char) :
    (splitAt sep s).flatMap ink = ink s := by
  induction s using splitAt_induction sep with
  | single s hs => rw [splitAt_of_not_mem hs, List.flatMap_singleton]
  | more a b ha ih =>
    rw [splitAt_append_cons, splitAt_of_not_mem ha, List.flatMap_append, List.flatMap_singleton,
      ih, ink_append, ink_cons_of_blank hsep]

theorem flatMap_ink_bareLines (s : List Char) : (bareLines s).flatMap ink = ink s := by
  have hline : ∀ l ∈ lines s, ink l.whole = ink l.body := by
    intro l hl
    have hending : ink l.ending = [] :=
      ink_eq_nil.2 fun c hc => isBlank_of_isBoundary (isBoundary_of_mem_ending hl hc)
    rw [Line.whole, ink_append, hending, List.append_nil]
  calc (bareLines s).flatMap ink
      = (lines s).flatMap fun l => ink l.body := List.flatMap_map ..
    _ = (lines s).flatMap fun l => ink l.whole := (List.flatMap_congr hline).symm
    _ = ink ((lines s).map Line.whole).flatten := by rw [ink_flatten, List.flatMap_map]
    _ = ink s := by rw [flatten_lines]

/-- Lines that are empty can be left out at the beginning. -/
theorem flatMap_ink_dropWhile (ls : List (List Char)) :
    (ls.dropWhile List.isEmpty).flatMap ink = ls.flatMap ink := by
  induction ls with
  | nil => rfl
  | cons l ls ih =>
    cases l with
    | nil => exact ih
    | cons => rfl

/-- Lines that are empty can be left out at the end. -/
theorem flatMap_ink_rdropWhile (ls : List (List Char)) :
    (ls.rdropWhile List.isEmpty).flatMap ink = ls.flatMap ink := by
  induction ls using List.reverseRecOn with
  | nil => rfl
  | append_singleton ls l ih =>
    by_cases hl : l.isEmpty = true
    · rw [List.rdropWhile_concat_pos _ _ _ hl, ih, List.isEmpty_iff.1 hl]
      simp
    · rw [List.rdropWhile_concat_neg _ _ _ hl]

end PackageDoc.Text
