import PackageDoc.Disk
import PackageDoc.Proofs.Lines

/-!
# Tidy paths

Leaving out the empty and single-dot parts of a path makes it no longer, and the names in it stay in
their order. So the tidy form of a path leads to the file that the path itself leads to. The other
way round it need not: a path that ends in a slash leads to no file.

    locate_tidy           d.locate p = .file place data → d.locate (Path.tidy p) = .file place data
    target_tidy           d.target p = .ok place → d.target (Path.tidy p) = .ok place
    tooLong_of_locate     the system refuses no path for its length but one that is too long
-/

namespace PackageDoc

namespace Text

/-- Cutting at a character is splitting a list at an element. -/
theorem splitAt_eq_splitOn (sep : Char) (s : List Char) : splitAt sep s = s.splitOn sep := by
  induction s with
  | nil => rfl
  | cons c s ih =>
    rw [List.splitOn_eq_splitOnP] at ih ⊢
    rw [List.splitOnP_cons_eq_if_modifyHead, splitAt, ih]
    by_cases hc : c = sep
    · simp [hc]
    · rw [if_neg hc, if_neg (by simpa using hc)]
      cases h : s.splitOnP (· == sep) with
      | nil => exact absurd h (by rw [← ih]; exact splitAt_ne_nil sep s)
      | cons p ps => rfl

/-- Pieces that are left out leave a part of the text, in its order. -/
theorem intercalate_filter_sublist (sep : List Char) (keep : List Char → Bool)
    (ls : List (List Char)) :
    (sep.intercalate (ls.filter keep)).Sublist (sep.intercalate ls) := by
  induction ls with
  | nil => exact List.Sublist.refl _
  | cons l ls ih =>
    cases ls with
    | nil =>
      rw [List.filter_cons]
      split
      · exact List.Sublist.refl _
      · exact List.nil_sublist _
    | cons m ms =>
      rw [List.intercalate_cons_cons, List.filter_cons]
      split
      · cases hrest : (m :: ms).filter keep with
        | nil => simp
        | cons k ks =>
          rw [List.intercalate_cons_cons]
          exact (List.Sublist.refl _).append (hrest ▸ ih)
      · exact ih.trans (List.sublist_append_right _ _)

/-- A part of a text takes up no more room than the text. -/
theorem utf8ByteSize_le_of_sublist {s t : String} (h : s.toList.Sublist t.toList) :
    s.utf8ByteSize ≤ t.utf8ByteSize := by
  have key {l m : List Char} (h : l.Sublist m) :
      (String.ofList l).utf8ByteSize ≤ (String.ofList m).utf8ByteSize := by
    induction h with
    | slnil => exact Nat.le_refl _
    | cons c _ ih =>
      rw [String.ofList_cons, String.utf8ByteSize_append]
      omega
    | cons_cons c _ ih =>
      rw [String.ofList_cons, String.ofList_cons, String.utf8ByteSize_append,
        String.utf8ByteSize_append]
      omega
  simpa using key h

end Text

namespace Path

variable {p : String}

/-! ## The names in a path -/

/-- Whether a part of a path is kept. -/
def isName (s : String) : Bool :=
  s != "" && s != "."

/-- The parts of a path that are kept. -/
def names (p : String) : List String :=
  (parts p).filter isName

theorem slash_not_mem_of_mem_names {s : String} (h : s ∈ names p) : '/' ∉ s.toList := by
  obtain ⟨l, hl, rfl⟩ := List.mem_map.1 (List.mem_filter.1 h).1
  simpa using Text.not_mem_of_mem_splitAt hl

theorem toList_ne_nil_of_mem_names {s : String} (h : s ∈ names p) : s.toList ≠ [] := by
  have hs : s ≠ "" := by
    have := (List.mem_filter.1 h).2
    simp only [isName, Bool.and_eq_true, bne_iff_ne] at this
    exact this.1
  simpa using hs

theorem isEmpty_tidy (p : String) : (tidy p).isEmpty = false := by
  unfold tidy
  dsimp only
  split
  · rfl
  · exact Bool.eq_false_iff.2 ‹_›

/-- The tidy form of a path with names in it is these behind the root. -/
theorem toList_tidy (h : names p ≠ []) :
    (tidy p).toList = (root p).toList ++ ['/'].intercalate ((names p).map String.toList) := by
  have hjoined : (root p ++ String.intercalate "/" (names p)).toList =
      (root p).toList ++ ['/'].intercalate ((names p).map String.toList) := by
    rw [String.toList_append, String.toList_intercalate]
    rfl
  have hne : (root p ++ String.intercalate "/" (names p)).isEmpty = false := by
    obtain ⟨s, ss, hs⟩ := List.exists_cons_of_ne_nil h
    have hempty : s.toList ≠ [] := toList_ne_nil_of_mem_names (hs ▸ List.mem_cons_self)
    rw [Bool.eq_false_iff, ne_eq, String.isEmpty_iff, ← String.toList_eq_nil_iff, hjoined, hs]
    cases ss <;> simp [hempty]
  have htidy : tidy p = root p ++ String.intercalate "/" (names p) :=
    if_neg (Bool.eq_false_iff.1 hne)
  rw [htidy, hjoined]

/-- A path is its root, which is made of slashes, and the rest. -/
theorem exists_root (p : String) : ∃ k rest, p.toList = List.replicate k '/' ++ rest ∧
    (root p).toList = List.replicate k '/' ∧ (isAbsolute p = true ↔ 0 < k) := by
  unfold root isAbsolute
  split
  · rename_i rest hp
    exact ⟨1, '/' :: '/' :: rest, hp, rfl, by simp [hp]⟩
  · rename_i rest _ hp
    exact ⟨2, rest, hp, rfl, by simp [hp]⟩
  · rename_i rest _ _ hp
    exact ⟨1, rest, hp, rfl, by simp [hp]⟩
  · rename_i _ _ hp
    refine ⟨0, p.toList, rfl, rfl, ?_⟩
    cases hl : p.toList with
    | nil => simp
    | cons c s =>
      have hc : c ≠ '/' := fun hc => hp s (by rw [hl, hc])
      simp [hc]

theorem splitAt_replicate_append (k : Nat) (s : List Char) :
    Text.splitAt '/' (List.replicate k '/' ++ s) = List.replicate k [] ++ Text.splitAt '/' s := by
  induction k with
  | zero => rfl
  | succ k ih => rw [List.replicate_succ, List.cons_append, Text.splitAt, if_pos rfl, ih]; rfl

/-- The parts of a tidy path are its names, behind empty parts for the root. -/
theorem parts_tidy (h : names p ≠ []) :
    ∃ k, parts (tidy p) = List.replicate k "" ++ names p := by
  obtain ⟨k, rest, -, hroot, -⟩ := exists_root p
  refine ⟨k, ?_⟩
  rw [parts, toList_tidy h, hroot, splitAt_replicate_append, Text.splitAt_eq_splitOn,
    List.splitOn_intercalate]
  · simp
  · intro l hl
    obtain ⟨s, hs, rfl⟩ := List.mem_map.1 hl
    exact slash_not_mem_of_mem_names hs
  · simpa using h

/-- The tidy form of a path with names in it is a part of the path. -/
theorem toList_tidy_sublist (h : names p ≠ []) : (tidy p).toList.Sublist p.toList := by
  obtain ⟨k, rest, hp, hroot, -⟩ := exists_root p
  rw [toList_tidy h, hp, hroot]
  refine (List.Sublist.refl _).append ?_
  have hnames : (names p).map String.toList =
      (rest.splitOn '/').filter fun l => isName (String.ofList l) := by
    have hroot : (List.replicate k []).filter (isName ∘ String.ofList) = [] :=
      List.filter_replicate_of_neg (by decide)
    rw [names, parts, hp, splitAt_replicate_append, Text.splitAt_eq_splitOn, List.filter_map,
      List.filter_append, hroot, List.nil_append, List.map_map]
    simp [Function.comp_def]
  have hsub := Text.intercalate_filter_sublist ['/'] (fun l => isName (String.ofList l))
    (rest.splitOn '/')
  rw [List.intercalate_splitOn] at hsub
  rw [hnames]
  exact hsub

/-- The tidy form of a path with names in it is absolute if the path is. -/
theorem isAbsolute_tidy (h : names p ≠ []) : isAbsolute (tidy p) = isAbsolute p := by
  obtain ⟨k, rest, hp, hroot, habs⟩ := exists_root p
  rw [Bool.eq_iff_iff, habs, isAbsolute, toList_tidy h, hroot]
  cases k with
  | succ k => simp [List.replicate_succ]
  | zero =>
    -- a name does not start with a slash
    obtain ⟨s, ss, hs⟩ := List.exists_cons_of_ne_nil h
    have hmem : s ∈ names p := hs ▸ List.mem_cons_self
    obtain ⟨c, cs, hc⟩ := List.exists_cons_of_ne_nil (toList_ne_nil_of_mem_names hmem)
    have hslash : c ≠ '/' := fun h => slash_not_mem_of_mem_names hmem (by simp [hc, h])
    rw [hs]
    cases ss <;> simp [hc, hslash]

/-- A path without slashes is its only part. -/
theorem parts_of_slash_not_mem (h : '/' ∉ p.toList) : parts p = [p] := by
  rw [parts, Text.splitAt_of_not_mem h, List.map_singleton, String.ofList_toList]

end Path

/-- The place that a path leads to, if there is a file or can be one. -/
def Located.place? : Located → Option Place
  | .file place _ => some place
  | .vacant place => some place
  | .directory => none
  | .unreachable _ => none

namespace Disk

variable {d : Disk} {here place : Place} {data : ByteArray} {p name : String}
  {l rest : List String}

theorem follow_replicate_append (d : Disk) (here : Place) (k : Nat) (l : List String) :
    d.follow here (List.replicate k "" ++ l) = d.follow here l := by
  induction k with
  | zero => rfl
  | succ k ih => rw [List.replicate_succ, List.cons_append, follow, if_pos (by rfl), ih]

/-! One part of a path: it is empty, stays, goes up, or is a name. All but the first are looked up
in a directory that must not be closed. -/

theorem follow_empty : d.follow here ("" :: rest) = d.follow here rest := by
  rw [follow, if_pos (by rfl)]

theorem follow_of_closed (hname : name ≠ "") (h : d.access.search here = false) :
    d.follow here (name :: rest) = .unreachable .closed := by
  rw [follow, if_neg (by simpa using hname), if_pos (by simp [h])]

theorem follow_dot (h : d.access.search here = true) :
    d.follow here ("." :: rest) = d.follow here rest := by
  rw [follow, if_neg (by decide), if_neg (by simp [h]), if_pos (by rfl)]

theorem follow_up (h : d.access.search here = true) :
    d.follow here (".." :: rest) = d.follow (parentOf here) rest := by
  rw [follow, if_neg (by decide), if_neg (by simp [h]), if_neg (by decide), if_pos (by rfl)]

theorem follow_of_isName (h : d.access.search here = true) (hname : Path.isName name = true)
    (hup : name ≠ "..") :
    d.follow here (name :: rest) =
      if 255 < name.utf8ByteSize then .unreachable .nameTooLong
      else match d.fileAt? (here ++ [name]) with
        | some data =>
          if rest.isEmpty then .file (here ++ [name]) data else .unreachable .notDirectory
        | none =>
          if d.isDirectoryAt (here ++ [name]) then follow d (here ++ [name]) rest
          else if rest.isEmpty then .vacant (here ++ [name])
          else .unreachable .missing := by
  obtain ⟨hempty, hdot⟩ : name ≠ "" ∧ name ≠ "." := by
    simpa only [Path.isName, Bool.and_eq_true, bne_iff_ne] using hname
  refine (if_neg (by simpa using hempty)).trans ((if_neg (by simp [h])).trans ?_)
  exact (if_neg (by simpa using hdot)).trans (if_neg (by simpa using hup))

/-- A name that leads somewhere was looked up. -/
theorem search_of_follow (hname : name ≠ "")
    (h : (d.follow here (name :: rest)).place? = some place) : d.access.search here = true := by
  cases hsearch : d.access.search here with
  | true => rfl
  | false =>
    rw [follow_of_closed hname hsearch] at h
    cases h

/-- Parts that name nothing are passed over on the way to a file or to where one can be made. -/
theorem follow_filter (h : (d.follow here l).place? = some place) :
    d.follow here (l.filter Path.isName) = d.follow here l := by
  induction l generalizing here with
  | nil => rfl
  | cons name rest ih =>
    by_cases hempty : name = ""
    · subst hempty
      rw [follow_empty] at h ⊢
      exact ih h
    have hsearch := search_of_follow hempty h
    by_cases hdot : name = "."
    · subst hdot
      rw [follow_dot hsearch] at h ⊢
      exact ih h
    have hname : Path.isName name = true := by simp [Path.isName, hempty, hdot]
    rw [List.filter_cons_of_pos hname]
    by_cases hup : name = ".."
    · subst hup
      rw [follow_up hsearch] at h ⊢
      rw [follow_up hsearch]
      exact ih h
    cases rest with
    | nil => rfl
    | cons m more =>
      rw [follow_of_isName hsearch hname hup] at h ⊢
      rw [follow_of_isName hsearch hname hup]
      split at h
      · cases h
      rename_i hshort
      rw [if_neg hshort, if_neg hshort]
      cases hfile : d.fileAt? (here ++ [name]) with
      | some data =>
        rw [hfile] at h
        cases h
      | none =>
        simp only [hfile] at h ⊢
        split at h
        · rw [if_pos ‹_›, if_pos ‹_›]
          exact ih h
        · cases h

/-- A path that leads to a place is not refused, and its parts are followed. -/
theorem locate_eq_follow (h : (d.locate p).place? = some place) :
    ¬ p.toList.contains '\x00' ∧ ¬ 4095 < p.utf8ByteSize ∧
      d.locate p = d.follow (if Path.isAbsolute p then ["/"] else []) (Path.parts p) := by
  unfold locate at h ⊢
  split at h
  · cases h
  split at h
  · cases h
  split at h
  · cases h
  rw [if_neg ‹_›, if_neg ‹_›, if_neg ‹_›]
  exact ⟨‹_›, ‹_›, rfl⟩

/-- The tidy form of a path leads to the place that the path leads to. -/
theorem locate_tidy_of_place? (h : (d.locate p).place? = some place) :
    d.locate (Path.tidy p) = d.locate p := by
  obtain ⟨hnul, hlong, hfollow⟩ := locate_eq_follow h
  rw [hfollow] at h ⊢
  have hfilter := follow_filter h
  have hnames : Path.names p ≠ [] := by
    intro hnil
    rw [show (Path.parts p).filter Path.isName = [] from hnil] at hfilter
    rw [← hfilter] at h
    cases h
  have hsub := Path.toList_tidy_sublist hnames
  obtain ⟨k, hparts⟩ := Path.parts_tidy hnames
  unfold locate
  rw [if_neg, if_neg, if_neg, Path.isAbsolute_tidy hnames, hparts, follow_replicate_append]
  · exact hfilter
  · have := Text.utf8ByteSize_le_of_sublist hsub
    omega
  · simp only [List.contains_eq_mem, decide_eq_true_eq] at hnul ⊢
    exact fun hmem => hnul (hsub.subset hmem)
  · rw [Path.isEmpty_tidy]
    decide

theorem target_eq_ok_iff : d.target p = .ok place ↔
    (d.locate p).place? = some place ∧ d.access.write place = true := by
  unfold target
  dsimp only
  cases d.locate p with
  | file there data | vacant there =>
    simp only [Located.place?, Option.some.injEq]
    split
    · simp only [Except.ok.injEq]
      exact ⟨fun h => ⟨h, h ▸ ‹_›⟩, And.left⟩
    · refine ⟨nofun, fun h => absurd (h.1 ▸ h.2) ‹_›⟩
  | directory | unreachable => simp [Located.place?]

/-- What is written to a path is written to its tidy form. -/
theorem target_tidy (h : d.target p = .ok place) : d.target (Path.tidy p) = .ok place := by
  rw [target_eq_ok_iff] at h ⊢
  rwa [locate_tidy_of_place? h.1]

/-! ## Looking and reading -/

theorem isFile_eq_true_iff : d.isFile p = true ↔ ∃ place data, d.locate p = .file place data := by
  unfold isFile
  cases d.locate p <;> simp

/-- A file is seen wherever one is. -/
theorem probe_eq_true_iff : d.probe p = .ok true ↔ d.isFile p = true := by
  unfold probe isFile
  cases d.locate p with
  | unreachable fault => cases fault <;> simp
  | _ => simp

theorem read_eq_ok_iff : d.read p = .ok data ↔
    ∃ place, d.locate p = .file place data ∧ d.access.read place = true := by
  unfold read
  cases d.locate p with
  | file place found =>
    dsimp only
    split
    · rename_i hread
      refine ⟨fun h => ⟨place, by rw [Except.ok.inj h], hread⟩, ?_⟩
      rintro ⟨_, hplace, -⟩
      rw [(Located.file.inj hplace).2]
    · refine ⟨nofun, ?_⟩
      rintro ⟨_, hplace, hread⟩
      cases hplace
      exact absurd hread ‹_›
  | _ => simp

end Disk

end PackageDoc
