import Mathlib.Data.List.TakeWhile
import PackageDoc.Text.Lines

/-!
# Lines of a text

Cutting a text at a character and at line boundaries, seen from the pieces.

    splitAt sep (a ++ sep :: b) = splitAt sep a ++ splitAt sep b               (splitAt_append_cons)
    every piece begins with q iff the text does and q follows every sep      (forall_splitAt_prefix)
    a text is blank iff its lines are                                        (all_isBlank_bareLines)
    lines at the beginning or end of a text are the lines of that part     (lines_flatten_of_prefix)
-/

namespace PackageDoc.Text

/-- An element of two lists one after the other stands in the first or in the second. -/
theorem append_eq_append_cons {α : Type} {as bs xs ys : List α} {k : α} :
    as ++ bs = xs ++ k :: ys ↔
      (∃ zs, as = xs ++ k :: zs ∧ ys = zs ++ bs) ∨ ∃ zs, xs = as ++ zs ∧ bs = zs ++ k :: ys := by
  constructor
  · intro h
    rcases List.append_eq_append_iff.1 h with ⟨zs, hxs, hbs⟩ | ⟨zs, has, hys⟩
    · exact .inr ⟨zs, hxs, hbs⟩
    · cases zs with
      | nil => exact .inr ⟨[], by simpa using has.symm, by simpa using hys.symm⟩
      | cons z zs =>
        rw [List.cons_append, List.cons.injEq] at hys
        obtain ⟨rfl, hys⟩ := hys
        exact .inl ⟨zs, has, hys⟩
  · rintro (⟨zs, rfl, rfl⟩ | ⟨zs, rfl, rfl⟩) <;> simp

/-! ## Cutting at a character -/

variable {sep : Char} {s : List Char}

theorem splitAt_of_not_mem (h : sep ∉ s) : splitAt sep s = [s] := by
  induction s with
  | nil => rfl
  | cons c s ih =>
    rw [List.mem_cons, not_or] at h
    rw [splitAt, if_neg (Ne.symm h.1), ih h.2]

theorem splitAt_append_cons (a b : List Char) :
    splitAt sep (a ++ sep :: b) = splitAt sep a ++ splitAt sep b := by
  induction a with
  | nil => simp [splitAt]
  | cons c a ih =>
    by_cases hc : c = sep
    · simp [splitAt, hc, ih]
    · obtain ⟨p, ps, hp⟩ := List.exists_cons_of_ne_nil (splitAt_ne_nil sep a)
      simp [splitAt, hc, ih, hp]

/-- A beginning without separators belongs to the first piece. -/
theorem splitAt_append_of_not_mem {a b p : List Char} {ps : List (List Char)} (ha : sep ∉ a)
    (hb : splitAt sep b = p :: ps) : splitAt sep (a ++ b) = (a ++ p) :: ps := by
  induction a with
  | nil => exact hb
  | cons c a ih =>
    rw [List.mem_cons, not_or] at ha
    rw [List.cons_append, splitAt, if_neg (Ne.symm ha.1), ih ha.2]
    rfl

/-- A text either holds no separator or has one after a first piece. -/
@[elab_as_elim]
theorem splitAt_induction {motive : List Char → Prop} (sep : Char)
    (single : ∀ s, sep ∉ s → motive s)
    (more : ∀ a b, sep ∉ a → motive b → motive (a ++ sep :: b)) (s : List Char) : motive s := by
  by_cases h : sep ∈ s
  · obtain ⟨a, b, hs, ha⟩ := List.eq_append_cons_of_mem h
    have hlt : b.length < s.length := by
      rw [hs, List.length_append, List.length_cons]
      omega
    rw [hs]
    exact more a b ha (splitAt_induction sep single more b)
  · exact single s h
termination_by s.length

theorem not_mem_of_mem_splitAt {l : List Char} (h : l ∈ splitAt sep s) : sep ∉ l := by
  induction s using splitAt_induction sep with
  | single s hs =>
    rw [splitAt_of_not_mem hs, List.mem_singleton] at h
    exact h ▸ hs
  | more a b ha ih =>
    rw [splitAt_append_cons, splitAt_of_not_mem ha, List.mem_append, List.mem_singleton] at h
    rcases h with rfl | h
    · exact ha
    · exact ih h

/-- A word without separators at the end of a text stands at the end of its last piece. -/
theorem getLast?_splitAt_append {z : List Char} (hz : sep ∉ z) (s : List Char) :
    ∃ l, (splitAt sep (s ++ z)).getLast? = some (l ++ z) := by
  induction s using splitAt_induction sep with
  | single s hs =>
    have hsz : sep ∉ s ++ z := by
      rw [List.mem_append, not_or]
      exact ⟨hs, hz⟩
    exact ⟨s, by rw [splitAt_of_not_mem hsz]; rfl⟩
  | more a b ha ih =>
    obtain ⟨l, hl⟩ := ih
    refine ⟨l, ?_⟩
    rw [List.append_assoc, List.cons_append, splitAt_append_cons, List.getLast?_append, hl]
    rfl

theorem infix_of_mem_splitAt {l : List Char} (h : l ∈ splitAt sep s) : l <:+: s := by
  induction s using splitAt_induction sep with
  | single s hs =>
    rw [splitAt_of_not_mem hs, List.mem_singleton] at h
    exact h ▸ List.infix_rfl
  | more a b ha ih =>
    rw [splitAt_append_cons, splitAt_of_not_mem ha, List.mem_append, List.mem_singleton] at h
    rcases h with rfl | h
    · exact (List.prefix_append _ _).isInfix
    · exact (ih h).trans ((List.suffix_cons _ _).trans (List.suffix_append _ _)).isInfix

/-- A separator other than those of the text is between no two pieces. -/
theorem mem_iff_mem_splitAt {c : Char} (hc : c ≠ sep) :
    c ∈ s ↔ ∃ l ∈ splitAt sep s, c ∈ l := by
  induction s using splitAt_induction sep with
  | single s hs => simp [splitAt_of_not_mem hs]
  | more a b ha ih =>
    rw [splitAt_append_cons, splitAt_of_not_mem ha]
    simp [hc, ih]

/-- Every separator in a text is followed by a certain word. -/
def FollowedBy (sep : Char) (q s : List Char) : Prop :=
  ∀ a b, s = a ++ sep :: b → q <+: b

theorem followedBy_of_not_mem {q : List Char} (h : sep ∉ s) : FollowedBy sep q s := by
  rintro a b rfl
  simp at h

theorem followedBy_append {q a b : List Char} :
    FollowedBy sep q (a ++ b) ↔
      (∀ x y, a = x ++ sep :: y → q <+: y ++ b) ∧ FollowedBy sep q b := by
  constructor
  · intro h
    refine ⟨?_, ?_⟩
    · rintro x y rfl
      exact h x (y ++ b) (by simp)
    · rintro x y rfl
      exact h (a ++ x) y (by simp)
  · rintro ⟨ha, hb⟩ x y h
    rcases append_eq_append_cons.1 h with ⟨z, rfl, rfl⟩ | ⟨z, -, rfl⟩
    · exact ha x z rfl
    · exact hb z y rfl

/-- A beginning without separators can be dropped. -/
theorem followedBy_append_of_not_mem {q a b : List Char} (ha : sep ∉ a) :
    FollowedBy sep q (a ++ b) ↔ FollowedBy sep q b := by
  rw [followedBy_append, and_iff_right]
  rintro x y rfl
  simp at ha

theorem followedBy_cons_self {q b : List Char} :
    FollowedBy sep q (sep :: b) ↔ q <+: b ∧ FollowedBy sep q b := by
  constructor
  · exact fun h => ⟨h [] b rfl, fun x y hxy => h (sep :: x) y (by simp [hxy])⟩
  · rintro ⟨hb, h⟩ x y hxy
    cases x with
    | nil =>
      obtain rfl : b = y := by simpa using hxy
      exact hb
    | cons c x =>
      rw [List.cons_append, List.cons.injEq] at hxy
      exact h x y hxy.2

theorem prefix_append_cons_iff {q a b : List Char} (hq : sep ∉ q) :
    q <+: a ++ sep :: b ↔ q <+: a := by
  refine ⟨fun ⟨r, h⟩ => ?_, fun h => h.trans (List.prefix_append _ _)⟩
  rcases append_eq_append_cons.1 h with ⟨z, rfl, -⟩ | ⟨z, rfl, -⟩
  · simp at hq
  · exact List.prefix_append _ _

/-- Every piece of a text begins with a word that holds no separator iff the text does and the word
follows every separator. -/
theorem forall_splitAt_prefix {q : List Char} (hq : sep ∉ q) :
    (∀ l ∈ splitAt sep s, q <+: l) ↔ q <+: s ∧ FollowedBy sep q s := by
  induction s using splitAt_induction sep with
  | single s hs => simp [splitAt_of_not_mem hs, followedBy_of_not_mem hs]
  | more a b ha ih =>
    rw [splitAt_append_cons, splitAt_of_not_mem ha, List.forall_mem_append, ih,
      prefix_append_cons_iff hq, followedBy_append_of_not_mem ha, followedBy_cons_self]
    simp only [List.mem_singleton, forall_eq]

/-! ## Blank lines -/

theorem trimStart_eq_nil {s : List Char} : trimStart s = [] ↔ ∀ c ∈ s, isBlank c = true := by
  rw [trimStart, List.dropWhile_eq_nil_iff]

theorem trimEnd_eq_nil {s : List Char} : trimEnd s = [] ↔ ∀ c ∈ s, isBlank c = true := by
  simp [trimEnd, dropEndWhile, List.dropWhile_eq_nil_iff]

/-- A text is blank iff its pieces between line feeds are. -/
theorem all_isBlank_splitAt (s : List Char) :
    (∀ l ∈ splitAt '\n' s, ∀ c ∈ l, isBlank c = true) ↔ ∀ c ∈ s, isBlank c = true := by
  constructor
  · intro h c hc
    by_cases hfeed : c = '\n'
    · rw [hfeed]
      decide
    · obtain ⟨l, hl, hcl⟩ := (mem_iff_mem_splitAt hfeed).1 hc
      exact h l hl c hcl
  · intro h l hl c hc
    exact h c ((infix_of_mem_splitAt hl).subset hc)

theorem isBlank_of_isBoundary {c : Char} (h : isBoundary c = true) : isBlank c = true := by
  simp only [isBoundary, isBlank, Bool.or_eq_true, Bool.and_eq_true, decide_eq_true_eq,
    beq_iff_eq] at h ⊢
  omega

theorem isBoundary_of_mem_ending {s : List Char} {l : Line} (hl : l ∈ lines s) {c : Char}
    (hc : c ∈ l.ending) : isBoundary c = true := by
  fun_induction lines s generalizing l with
  | case1 => simp at hl
  | case2 s ih =>
    rcases List.mem_cons.1 hl with rfl | hl
    · simp only [List.mem_cons, List.not_mem_nil, or_false] at hc
      rcases hc with rfl | rfl <;> decide
    · exact ih hl hc
  | case3 d s _ hd ih =>
    rcases List.mem_cons.1 hl with rfl | hl
    · rw [List.mem_singleton.1 hc]
      exact hd
    · exact ih hl hc
  | case4 d s _ _ ih =>
    cases hls : lines s with
    | nil =>
      simp only [hls, Line.consTo, List.mem_singleton] at hl
      subst hl
      simp at hc
    | cons k ks =>
      simp only [hls, Line.consTo, List.mem_cons] at hl
      rcases hl with rfl | hl
      · exact ih (l := k) (by simp [hls]) hc
      · exact ih (by simp [hls, hl]) hc

/-- A text is blank iff its lines are. -/
theorem all_isBlank_bareLines (s : List Char) :
    (∀ l ∈ bareLines s, ∀ c ∈ l, isBlank c = true) ↔ ∀ c ∈ s, isBlank c = true := by
  constructor
  · intro h c hc
    rw [← flatten_lines s] at hc
    simp only [List.mem_flatten, List.mem_map] at hc
    obtain ⟨_, ⟨l, hl, rfl⟩, hc⟩ := hc
    rcases List.mem_append.1 hc with hc | hc
    · exact h l.body (List.mem_map.2 ⟨l, hl, rfl⟩) c hc
    · exact isBlank_of_isBoundary (isBoundary_of_mem_ending hl hc)
  · intro h l hl c hc
    obtain ⟨k, hk, rfl⟩ := List.mem_map.1 hl
    refine h c ?_
    rw [← flatten_lines s]
    exact List.mem_flatten.2 ⟨k.whole, List.mem_map.2 ⟨k, hk, rfl⟩, List.mem_append_left _ hc⟩

/-! ## Lines of a part -/

/-- Cutting off the first line leaves the other ones as they are. -/
theorem lines_flatten_of_cons {l : Line} {ls : List Line} (h : lines s = l :: ls) :
    lines (ls.map Line.whole).flatten = ls := by
  fun_induction lines s generalizing l with
  | case1 => cases h
  | case2 s ih =>
    obtain ⟨-, rfl⟩ := List.cons.inj h
    rw [flatten_lines]
  | case3 c s _ _ ih =>
    obtain ⟨-, rfl⟩ := List.cons.inj h
    rw [flatten_lines]
  | case4 c s _ _ ih =>
    cases hls : lines s with
    | nil =>
      rw [hls] at h
      obtain ⟨-, rfl⟩ := List.cons.inj h
      rfl
    | cons k ks =>
      rw [hls] at h
      obtain ⟨-, rfl⟩ := List.cons.inj h
      exact ih hls

/-- Lines at the end of a text are the lines of that end. -/
theorem lines_flatten_of_suffix {as bs : List Line} (h : lines s = as ++ bs) :
    lines (bs.map Line.whole).flatten = bs := by
  induction as generalizing s with
  | nil => rw [← show lines s = bs from h, flatten_lines]
  | cons a as ih => exact ih (lines_flatten_of_cons h)

/-- Lines at the beginning of a text are the lines of that beginning. -/
theorem lines_flatten_of_prefix {as bs : List Line} (h : lines s = as ++ bs) :
    lines (as.map Line.whole).flatten = as := by
  fun_induction lines s generalizing as with
  | case1 =>
    rw [(List.nil_eq_append_iff.1 h).1]
    rfl
  | case2 s ih =>
    cases as with
    | nil => rfl
    | cons a as =>
      rw [List.cons_append, List.cons.injEq] at h
      obtain ⟨rfl, h⟩ := h
      simp [Line.whole, lines, ih h]
  | case3 c s hc hb ih =>
    cases as with
    | nil => rfl
    | cons a as =>
      rw [List.cons_append, List.cons.injEq] at h
      obtain ⟨rfl, h⟩ := h
      -- what is left of `s` begins no boundary that `s` does not begin
      have hs : (as.map Line.whole).flatten ++ (bs.map Line.whole).flatten = s := by
        rw [← flatten_lines s, h, List.map_append, List.flatten_append]
      have hfeed : ∀ t, c = '\r' → (as.map Line.whole).flatten = '\n' :: t → False := by
        intro t hr ht
        rw [ht] at hs
        exact hc _ hr hs.symm
      simp only [List.map_cons, List.flatten_cons, Line.whole, List.nil_append, List.cons_append]
      rw [lines, if_pos hb, ih h]
      exact hfeed
  | case4 c s hc hb ih =>
    cases as with
    | nil => rfl
    | cons a as =>
      cases hls : lines s with
      | nil =>
        rw [hls, Line.consTo, List.cons_append, List.cons.injEq] at h
        obtain ⟨rfl, h⟩ := h
        obtain ⟨rfl, -⟩ := List.nil_eq_append_iff.1 h
        simp [Line.whole, lines, Line.consTo, hb]
      | cons k ks =>
        rw [hls, Line.consTo, List.cons_append, List.cons.injEq] at h
        obtain ⟨rfl, rfl⟩ := h
        have hk := ih (show lines s = (k :: as) ++ bs from hls)
        simp only [List.map_cons, List.flatten_cons, Line.whole, List.cons_append] at hk ⊢
        rw [lines, if_neg hb, hk]
        · rfl
        · rintro t rfl -
          exact hb (by decide)

end PackageDoc.Text
