import PackageDoc.Proofs.Comment.Containment

/-!
# The grammar of a rendered text

A rendered document whose verbatim words hold no line feed is, line by line:

    // Package p is the x            x not empty
    //                               or  // x  with x not empty, any number of times
    // x                             the last line of the comment is never a bare marker
    package p

Gaps of breaks begin blank lines and the line of the token after them; every gap is followed by a
word, so none is left at the end. The opening words stand before all tokens, and every token is
the period or a word of a node.
-/

namespace PackageDoc.Comment

/-- A line of a comment with something on it. -/
def IsFilled (l : List Char) : Prop :=
  ∃ c r, l = marker ++ ' ' :: c :: r

/-- The lines of a comment below its first: each is a bare marker or has something on it, and the
last one has. -/
structure IsBody (ls : List (List Char)) : Prop where
  bare_or_filled : ∀ l ∈ ls, l = marker ∨ IsFilled l
  filled_of_last : ∀ l, ls.getLast? = some l → IsFilled l

theorem isBody_nil : IsBody [] :=
  ⟨by simp, by simp⟩

/-- A filled line, after any number of bare ones, before a body. -/
theorem IsBody.cons_filled {l : List Char} {ls : List (List Char)} (hl : IsFilled l)
    (h : IsBody ls) (k : Nat) : IsBody (List.replicate k marker ++ l :: ls) := by
  constructor
  · intro m hm
    rcases List.mem_append.1 hm with hm | hm
    · exact .inl (List.eq_of_mem_replicate hm)
    · rcases List.mem_cons.1 hm with rfl | hm
      · exact .inr hl
      · exact h.bare_or_filled m hm
  · intro m hm
    rw [List.getLast?_append_of_ne_nil _ (by simp)] at hm
    cases ls with
    | nil =>
      obtain rfl : l = m := by simpa using hm
      exact hl
    | cons k ks => exact h.filled_of_last m (by simpa using hm)

/-- Breaks end the line they stand on and begin one line each. -/
theorem splitAt_breaks {l : List Char} (hl : '\n' ∉ l) (k : Nat) (rest : List Char) :
    Text.splitAt '\n' (l ++ ((Gap.breaks (k + 1)).chars ++ rest)) =
      l :: (List.replicate k marker ++ Text.splitAt '\n' (marker ++ ' ' :: rest)) := by
  induction k generalizing l with
  | zero =>
    rw [show (Gap.breaks (0 + 1)).chars ++ rest = '\n' :: (marker ++ ' ' :: rest) by
      simp [Gap.chars, marker], Text.splitAt_append_cons, Text.splitAt_of_not_mem hl]
    rfl
  | succ k ih =>
    have hchars : (Gap.breaks (k + 1 + 1)).chars ++ rest =
        '\n' :: (marker ++ ((Gap.breaks (k + 1)).chars ++ rest)) := by
      simp [Gap.chars, List.replicate_succ, marker]
    rw [hchars, Text.splitAt_append_cons, Text.splitAt_of_not_mem hl, ih (by decide),
      List.replicate_succ]
    rfl

/-- A token below breaks ends the line so far and begins another. -/
theorem splitAt_text_cons {l : List Char} {k : Token} {j : Nat} (hl : '\n' ∉ l)
    (hk : k.gap = .breaks (j + 1)) (ts : List Token) :
    Text.splitAt '\n' (l ++ text (k :: ts)) =
      l :: (List.replicate j marker ++
        Text.splitAt '\n' (marker ++ ' ' :: k.text ++ text ts)) := by
  rw [text_cons, hk, splitAt_breaks hl, List.append_assoc]
  rfl

/-- Tokens continue a line and then form a body. -/
theorem lines_of_text {ts : List Token} (h : ∀ t ∈ ts, t.Proper ∧ '\n' ∉ t.text)
    {l : List Char} (hl : '\n' ∉ l) :
    ∃ x body, Text.splitAt '\n' (l ++ text ts) = (l ++ x) :: body ∧ IsBody body ∧
      ∀ t, ts.head? = some t → t.gap = .space → ∃ c r, x = ' ' :: c :: r := by
  -- `l` is the line so far; a gap of breaks ends it and begins another
  induction ts generalizing l with
  | nil => exact ⟨[], [], by simp [Text.splitAt_of_not_mem hl], isBody_nil, by simp⟩
  | cons t ts ih =>
    obtain ⟨ht, hn⟩ := h t List.mem_cons_self
    have hts : ∀ u ∈ ts, u.Proper ∧ '\n' ∉ u.text := fun u hu => h u (List.mem_cons_of_mem _ hu)
    obtain ⟨c, r, hcr⟩ := List.exists_cons_of_ne_nil ht.text_ne_nil
    rcases ht.gap_cases with hg | hg | ⟨k, hg⟩
    · obtain ⟨x, body, hx, hbody, -⟩ := ih hts (l := l ++ t.text) (by simp [hl, hn])
      refine ⟨t.text ++ x, body, ?_, hbody, ?_⟩
      · simpa [text_cons, hg, Gap.chars] using hx
      · intro u hu hspace
        obtain rfl : t = u := by simpa using hu
        simp [hg] at hspace
    · obtain ⟨x, body, hx, hbody, -⟩ := ih hts (l := l ++ ' ' :: t.text) (by simp [hl, hn])
      refine ⟨' ' :: (t.text ++ x), body, ?_, hbody, fun u _ _ => ⟨c, r ++ x, by simp [hcr]⟩⟩
      simpa [text_cons, hg, Gap.chars] using hx
    · obtain ⟨x, body, hx, hbody, -⟩ :=
        ih hts (l := marker ++ ' ' :: t.text) (by simp [hn, marker])
      refine ⟨[], List.replicate k marker ++ (marker ++ ' ' :: t.text ++ x) :: body, ?_,
        hbody.cons_filled ⟨c, r ++ x, by simp [hcr]⟩ k, ?_⟩
      · rw [splitAt_text_cons hl hg, List.append_nil, hx]
      · intro u hu hspace
        obtain rfl : t = u := by simpa using hu
        simp [hg] at hspace

/-! ## Top theorem -/

/-- The lines of a rendered document whose verbatim words hold no line feed. The opening words come
first, and nothing after them but the period, the words of the nodes and the clause is written. -/
theorem lines_of_render {o : Options} {n : Node} {s : String} (hn : n.isDocument = true)
    (hp : '\n' ∉ o.packageName.toList)
    (hfree : ∀ m ∈ n.nodes, ∀ v ∈ m.verbatim, '\n' ∉ v.toList) (h : render o n = .ok s) :
    (∃ c x body, Text.splitAt '\n' s.toList =
        (("// Package " ++ o.packageName ++ " is the ").toList ++ c :: x) ::
          (body ++ [("package " ++ o.packageName).toList, []]) ∧
      IsBody body) ∧
    ∃ ts, s = header o ++ String.ofList (text ts) ++ footer o ∧
      ∀ t ∈ ts, t.text = ['.'] ∨ WordOf n t.text := by
  obtain ⟨hok, hs⟩ := render_eq_ok_iff.1 h
  have hrun := runs_visitRoot hok
  have hone : ∀ t ∈ (visitRoot o n).tokens, t.Proper ∧ '\n' ∉ t.text :=
    fun t ht => ⟨(hrun.proper_of_mem ht).1, feed_not_mem_tokens hok hfree t ht⟩
  refine ⟨?_, _, hs, fun t ht => (hrun.proper_of_mem ht).2⟩
  obtain ⟨x, body, hlines, hbody, hx⟩ := lines_of_text hone (feed_not_mem_header hp)
  obtain ⟨t, ts, hts⟩ := List.exists_cons_of_ne_nil (tokens_ne_nil_of_document hn hok)
  have hhead : (visitRoot o n).tokens.head? = some t := by rw [hts]; rfl
  obtain ⟨c, r, rfl⟩ := hx t hhead (hrun.gap_of_head (resting_start _) hhead)
  refine ⟨c, r, body, ?_, hbody⟩
  have hopening : ("// Package " ++ o.packageName ++ " is the ").toList =
      (header o).toList ++ [' '] := by
    unfold header
    simp only [String.toList_append, List.append_assoc]
    rfl
  rw [splitAt_of_render hp h, commentText, hlines, hopening]
  simp

/-- A document with a list, a link and a code block of which nothing holds a line feed. -/
def plainDocument : Node :=
  .document [.container (.list false 1 true) [.container .listItem [.paragraph
    [.text "see ", .container (.link "u" (some "t")) [.leaf (.code "x") {}] {}]] {}] {},
    .leaf (.codeBlock "a\n\nb" none) {}]

theorem lines_of_render_plainDocument :
    ∃ s c x body, render {} plainDocument = .ok s ∧ Text.splitAt '\n' s.toList =
        (("// Package " ++ "main" ++ " is the ").toList ++ c :: x) ::
          (body ++ [("package " ++ "main").toList, []]) ∧ IsBody body := by
  have hfree : ∀ m ∈ plainDocument.nodes, ∀ v ∈ m.verbatim, '\n' ∉ v.toList := by
    decide
  have h : render {} plainDocument = .ok
      "// Package main is the .\n//\n// • see t x (u)\n//\n//   a\n//\n//   b\npackage main\n" :=
    rfl
  obtain ⟨⟨c, x, body, hlines, hbody⟩, -⟩ := lines_of_render rfl (by decide) hfree h
  exact ⟨_, c, x, body, h, hlines, hbody⟩

end PackageDoc.Comment
