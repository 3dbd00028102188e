import PackageDoc.PackageName
import PackageDoc.Proofs.Comment.Sound

/-!
# Nothing but the package clause stands outside the comment

The lines of a rendered text are those of its comment, the package clause and an empty one. The
gaps between tokens begin every line they begin with a comment marker, so a line that does not
begin with one comes from a line feed inside a token. Texts and code blocks are cut at line feeds;
inline code, link titles and addresses are written as they are.

    every line of the comment begins with // iff
      every line feed inside a token is followed by // in the text             (mem_lines_render)
-/

namespace PackageDoc

/-- An accepted package name stands on one line. -/
theorem PackageName.not_mem_of_validate {name r : String} (h : validate name = .ok r) :
    '\n' ∉ name.toList := by
  have hpart : isPart '\n' = false := by decide +kernel
  unfold validate at h
  split at h
  · simp at h
  · next c rest hname =>
    split at h
    · simp at h
    · next hstart =>
      split at h
      · simp at h
      · next hrest =>
        rw [hname, List.mem_cons, not_or]
        constructor
        · rintro rfl
          simp [isPart, show isStart '\n' = true by simpa using hstart] at hpart
        · intro hmem
          have := List.find?_eq_none.1 hrest _ hmem
          simp [hpart] at this

namespace Comment

/-! ## The comment marker -/

/-- What begins every line of a comment. -/
def marker : List Char := ['/', '/']

/-- Every line feed inside a token is followed by a comment marker in the text from there on. -/
def FeedsMarked : List Token → Prop
  | [] => True
  | t :: ts => (∀ a b, t.text = a ++ '\n' :: b → marker <+: b ++ text ts) ∧ FeedsMarked ts

/-- Line feeds of a gap are followed by a marker each. -/
theorem followedBy_gap (g : Gap) (b : List Char) :
    Text.FollowedBy '\n' marker (g.chars ++ b) ↔ Text.FollowedBy '\n' marker b := by
  cases g with
  | none => rfl
  | space => exact Text.followedBy_append_of_not_mem (a := [' ']) (by decide)
  | breaks count =>
    induction count with
    | zero => exact Text.followedBy_append_of_not_mem (a := [' ']) (by decide)
    | succ count ih =>
      have hchars : (Gap.breaks (count + 1)).chars ++ b =
          '\n' :: (marker ++ ((Gap.breaks count).chars ++ b)) := by
        simp [Gap.chars, List.replicate_succ, marker]
      rw [hchars, Text.followedBy_cons_self, Text.followedBy_append_of_not_mem (by decide),
        and_iff_right (List.prefix_append _ _)]
      exact ih

theorem followedBy_text (ts : List Token) :
    Text.FollowedBy '\n' marker (text ts) ↔ FeedsMarked ts := by
  induction ts with
  | nil => simp [FeedsMarked, Text.followedBy_of_not_mem]
  | cons t ts ih =>
    rw [text_cons, followedBy_gap, Text.followedBy_append, ih]
    rfl

/-- A word with a line feed is one that its node gives verbatim. -/
theorem Word.exists_verbatim {m : Node} {t : List Char} (h : Word m t) (hn : '\n' ∈ t) :
    ∃ v ∈ m.verbatim, t = v.toList ∨ t = ('(' :: v.toList) ++ [')'] := by
  cases h with
  | text _ hpiece => exact absurd hn hpiece
  | code => exact ⟨_, by simp [Node.verbatim], .inl rfl⟩
  | codeBlock hline =>
    rcases List.mem_append.1 hn with hn | hn
    · exact absurd hn (by decide)
    · exact absurd (isBoundary_of_mem_codeLines hline hn) (by decide)
  | bullet => exact absurd hn (by decide)
  | emphasis => simp at hn
  | strong => simp at hn
  | title => exact ⟨_, by simp [Node.verbatim], .inl rfl⟩
  | url => exact ⟨_, by simp [Node.verbatim], .inr rfl⟩

/-- A token with a line feed is a word that a node of the tree gives verbatim. -/
theorem exists_verbatim_of_mem {o : Options} {n : Node} (h : (visitRoot o n).failure = none)
    {t : Token} (ht : t ∈ (visitRoot o n).tokens) (hn : '\n' ∈ t.text) :
    ∃ m ∈ n.nodes, ∃ v ∈ m.verbatim, t.text = v.toList ∨ t.text = ('(' :: v.toList) ++ [')'] := by
  rcases ((runs_visitRoot h).proper_of_mem ht).2 with hdot | ⟨m, hm, hword⟩
  · simp [hdot] at hn
  · obtain ⟨v, hv, hvt⟩ := hword.exists_verbatim hn
    exact ⟨m, hm, v, hv, hvt⟩

/-- Without line feeds in its verbatim words a tree is written in tokens on one line each. -/
theorem feed_not_mem_tokens {o : Options} {n : Node} (h : (visitRoot o n).failure = none)
    (hfree : ∀ m ∈ n.nodes, ∀ v ∈ m.verbatim, '\n' ∉ v.toList) :
    ∀ t ∈ (visitRoot o n).tokens, '\n' ∉ t.text := by
  intro t ht hn
  obtain ⟨m, hm, v, hv, hvt | hvt⟩ := exists_verbatim_of_mem h ht hn
  · exact hfree m hm v hv (hvt ▸ hn)
  · rw [hvt] at hn
    exact hfree m hm v hv (by simpa using hn)

/-- Tokens on one line each have nothing to be marked. -/
theorem feedsMarked_of_not_mem {ts : List Token} (h : ∀ t ∈ ts, '\n' ∉ t.text) :
    FeedsMarked ts := by
  induction ts with
  | nil => trivial
  | cons t ts ih =>
    refine ⟨fun a b hab => ?_, ih fun u hu => h u (List.mem_cons_of_mem _ hu)⟩
    exact absurd (by simp [hab]) (h t List.mem_cons_self)

/-! ## The lines of a rendered text -/

theorem toList_header (o : Options) :
    (header o).toList = marker ++ (" Package ".toList ++ o.packageName.toList ++
      " is the".toList) := by
  unfold header
  rw [String.toList_append, String.toList_append]
  rfl

theorem feed_not_mem_header {o : Options} (hp : '\n' ∉ o.packageName.toList) :
    '\n' ∉ (header o).toList := by
  simp only [toList_header, List.mem_append, not_or]
  exact ⟨by decide, ⟨by decide, hp⟩, by decide⟩

theorem toList_footer (o : Options) :
    (footer o).toList = '\n' :: ("package " ++ o.packageName).toList ++ ['\n'] := by
  unfold footer
  simp only [String.toList_append]
  rfl

/-- The text of a comment: the opening words and the tokens. -/
def commentText (o : Options) (ts : List Token) : List Char :=
  (header o).toList ++ text ts

theorem toList_of_render {o : Options} {n : Node} {s : String} (h : render o n = .ok s) :
    s.toList = commentText o (visitRoot o n).tokens ++
      '\n' :: ("package " ++ o.packageName).toList ++ ['\n'] := by
  obtain ⟨-, rfl⟩ := render_eq_ok_iff.1 h
  rw [String.toList_append, String.toList_append, toList_footer, String.toList_ofList, commentText]
  simp

/-- The lines of a rendered text are those of its comment, the package clause and an empty one. -/
theorem splitAt_of_render {o : Options} {n : Node} {s : String} (hp : '\n' ∉ o.packageName.toList)
    (h : render o n = .ok s) :
    Text.splitAt '\n' s.toList =
      Text.splitAt '\n' (commentText o (visitRoot o n).tokens) ++
        [("package " ++ o.packageName).toList, []] := by
  have hclause : '\n' ∉ ("package " ++ o.packageName).toList := by
    rw [String.toList_append, List.mem_append, not_or]
    exact ⟨by decide, hp⟩
  rw [toList_of_render h, List.append_assoc, List.cons_append, Text.splitAt_append_cons,
    Text.splitAt_append_cons, Text.splitAt_of_not_mem hclause]
  rfl

/-- **The lines of a comment.** A rendered text is the lines of the comment and the package clause.
Each line of the comment begins with the marker exactly when every line feed inside a token is
followed by one, and the only words that hold line feeds are inline code, link titles and
addresses: without line feeds in those the comment is never left. -/
theorem mem_lines_render {o : Options} {n : Node} {s : String}
    (hp : PackageName.validate o.packageName = .ok o.packageName) (h : render o n = .ok s) :
    ("\npackage " ++ o.packageName ++ "\n").toList <:+ s.toList ∧
    ∃ ls, Text.splitAt '\n' s.toList = ls ++ [("package " ++ o.packageName).toList, []] ∧
      ((∀ l ∈ ls, marker <+: l) ↔ FeedsMarked (visitRoot o n).tokens) ∧
      (∀ t ∈ (visitRoot o n).tokens, '\n' ∈ t.text → ∃ m ∈ n.nodes, ∃ v ∈ m.verbatim,
        t.text = v.toList ∨ t.text = ('(' :: v.toList) ++ [')']) ∧
      ((∀ m ∈ n.nodes, ∀ v ∈ m.verbatim, '\n' ∉ v.toList) → ∀ l ∈ ls, marker <+: l) := by
  have hname := PackageName.not_mem_of_validate hp
  have hok := (render_eq_ok_iff.1 h).1
  have hlines : (∀ l ∈ Text.splitAt '\n' (commentText o (visitRoot o n).tokens), marker <+: l) ↔
      FeedsMarked (visitRoot o n).tokens := by
    have hmarker : marker <+: commentText o (visitRoot o n).tokens := by
      rw [commentText, toList_header, List.append_assoc]
      exact List.prefix_append _ _
    rw [Text.forall_splitAt_prefix (by decide), and_iff_right hmarker, commentText,
      Text.followedBy_append_of_not_mem (feed_not_mem_header hname), followedBy_text]
  refine ⟨?_, _, splitAt_of_render hname h, hlines, fun t ht => exists_verbatim_of_mem hok ht,
    fun hfree => hlines.2 (feedsMarked_of_not_mem (feed_not_mem_tokens hok hfree))⟩
  show (footer o).toList <:+ s.toList
  rw [toList_of_render h, toList_footer, List.append_assoc]
  exact List.suffix_append _ _

/-- A link whose title goes over two lines. -/
def titledLink : Node :=
  .document [.paragraph [.container (.link "u" (some "a\nb")) [.text "x"] {}]]

/-- The comment around a link whose title goes over two lines. -/
def titledComment : String :=
  "// Package main is the .\n//\n// a\nb x (u)\npackage main\n"

theorem render_titledLink : render {} titledLink = .ok titledComment := rfl

theorem mem_lines_render_titledLink :
    PackageName.validate "main" = .ok "main" ∧ render {} titledLink = .ok titledComment ∧
    ∃ ls, Text.splitAt '\n' titledComment.toList = ls ++ [("package " ++ "main").toList, []] ∧
      ((∀ l ∈ ls, marker <+: l) ↔ FeedsMarked (visitRoot {} titledLink).tokens) := by
  have hp : PackageName.validate ({} : Options).packageName = .ok ({} : Options).packageName := rfl
  obtain ⟨-, ls, hls, hiff, -⟩ := mem_lines_render hp render_titledLink
  exact ⟨hp, render_titledLink, ls, hls, hiff⟩

/-- The second line of such a title is left to the compiler. -/
theorem exists_line_outside :
    ¬ ∀ (o : Options) (n : Node) (s : String), n.isDocument = true →
      PackageName.validate o.packageName = .ok o.packageName → render o n = .ok s →
      ∀ l ∈ (Text.splitAt '\n' s.toList).dropLast.dropLast, marker <+: l := by
  intro h
  have hline := h {} titledLink titledComment rfl rfl render_titledLink "b x (u)".toList (by decide)
  exact absurd hline (by decide)

end Comment

end PackageDoc
