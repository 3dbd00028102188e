import Mathlib.Data.List.DropRight
import PackageDoc.Proofs.Path

/-!
# Directories of paths

The directory part of a path ends in a slash only if it is made of slashes. So a name that is joined
to it comes off again, whatever runs of slashes and single dots there are in the path, and a file of
that name stands in the very directory that the directory part leads to.

    directory (join dir name) = dir, baseName (join dir name) = name          (directory_join)
    names (join dir name) = names dir ++ [name]                                   (names_join)
    d.locate path leads to a place there ++ [name], where the names before the last one of path
    lead to the directory there                                      (exists_enter_of_follow)
-/

namespace PackageDoc

namespace Path

variable {dir name p : String}

/-! ## The two parts of a path -/

/-- What a path has behind its last slash. -/
def baseName (p : String) : String :=
  String.ofList (p.toList.rtakeWhile (· != '/'))

/-- A path that ends in a slash only if it is made of slashes, as directory parts are. -/
def Bare (dir : String) : Prop :=
  dir.toList.getLast? = some '/' → ∀ c ∈ dir.toList, c = '/'

theorem directory_eq (p : String) :
    (directory p).toList =
      let head := p.toList.rdropWhile (· != '/')
      if head.rdropWhile (· == '/') = [] then head else head.rdropWhile (· == '/') := by
  simp only [directory, String.toList_ofList, List.isEmpty_iff]
  rfl

theorem bare_directory (p : String) : Bare (directory p) := by
  intro hlast
  rw [directory_eq] at hlast ⊢
  dsimp only at hlast ⊢
  split
  · rename_i hhead
    intro c hc
    simpa using List.rdropWhile_eq_nil_iff.1 hhead c hc
  · rename_i hhead
    rw [if_neg hhead, List.getLast?_eq_some_getLast hhead] at hlast
    have hslash := List.rdropWhile_last_not (· == '/') _ hhead
    rw [Option.some.inj hlast] at hslash
    exact absurd rfl hslash

theorem bare_directoryOf (p : String) : Bare (directoryOf p) := by
  unfold directoryOf
  dsimp only
  split
  · intro hlast
    cases hlast
  · exact bare_directory p

theorem directoryOf_ne_empty (p : String) : directoryOf p ≠ "" := by
  unfold directoryOf
  dsimp only
  split
  · decide
  · rename_i h
    simpa using h

/-! ## Joining -/

theorem isAbsolute_of_slash_not_mem (h : '/' ∉ name.toList) : isAbsolute name = false := by
  unfold isAbsolute
  cases hl : name.toList with
  | nil => rfl
  | cons c s =>
    have hc : c ≠ '/' := fun hc => h (by simp [hl, hc])
    simpa using hc

theorem toList_join_of_slash (hname : '/' ∉ name.toList) (h : dir.toList.getLast? = some '/') :
    (join dir name).toList = dir.toList ++ name.toList := by
  unfold join
  rw [if_neg (by simp [isAbsolute_of_slash_not_mem hname]), if_pos (by simp [h]),
    String.toList_append]

theorem toList_join_of_no_slash (hname : '/' ∉ name.toList) (hne : dir ≠ "")
    (h : dir.toList.getLast? ≠ some '/') :
    (join dir name).toList = dir.toList ++ '/' :: name.toList := by
  unfold join
  rw [if_neg (by simp [isAbsolute_of_slash_not_mem hname]), if_neg (by simp [h, hne]),
    String.toList_append, String.toList_append, List.append_assoc]
  rfl

theorem ne_slash_of_word {w : List Char} (hw : '/' ∉ w) : ∀ c ∈ w.reverse, (c != '/') = true := by
  intro c hc
  have hslash : c ≠ '/' := fun h => hw (h ▸ List.mem_reverse.1 hc)
  simpa using hslash

/-- A word without slashes comes off a path behind its last slash. -/
theorem rdropWhile_append_word {u w : List Char} (hw : '/' ∉ w) (hu : u.getLast? = some '/') :
    (u ++ w).rdropWhile (· != '/') = u := by
  obtain ⟨v, rfl⟩ := List.getLast?_eq_some_iff.1 hu
  rw [List.rdropWhile, List.reverse_append, List.dropWhile_append_of_pos (ne_slash_of_word hw)]
  simp

theorem rtakeWhile_append_word {u w : List Char} (hw : '/' ∉ w) (hu : u.getLast? = some '/') :
    (u ++ w).rtakeWhile (· != '/') = w := by
  obtain ⟨v, rfl⟩ := List.getLast?_eq_some_iff.1 hu
  rw [List.rtakeWhile, List.reverse_append, List.takeWhile_append_of_pos (ne_slash_of_word hw)]
  simp

/-- A joined path is a name behind its last slash, and what it has before the name is the directory
with a slash at its end. -/
theorem exists_head_of_join (hname : '/' ∉ name.toList) (hne : dir ≠ "") :
    ∃ head, (join dir name).toList = head ++ name.toList ∧ head.getLast? = some '/' ∧
      (head = dir.toList ∨ head = dir.toList ++ ['/'] ∧ dir.toList.getLast? ≠ some '/') := by
  by_cases h : dir.toList.getLast? = some '/'
  · exact ⟨dir.toList, toList_join_of_slash hname h, h, .inl rfl⟩
  · refine ⟨dir.toList ++ ['/'], ?_, by simp, .inr ⟨rfl, h⟩⟩
    rw [toList_join_of_no_slash hname hne h, List.append_assoc]
    rfl

/-- A name comes off the directory that it was joined to. -/
theorem directory_join (hdir : Bare dir) (hname : '/' ∉ name.toList) (hne : dir ≠ "") :
    directory (join dir name) = dir := by
  obtain ⟨head, hjoin, hlast, hhead⟩ := exists_head_of_join hname hne
  rw [← String.toList_inj, directory_eq, hjoin, rdropWhile_append_word hname hlast]
  dsimp only
  rcases hhead with rfl | ⟨rfl, h⟩
  · -- the directory is made of slashes
    rw [if_pos (List.rdropWhile_eq_nil_iff.2 fun c hc => by simp [hdir hlast c hc])]
  · have hbare : (dir.toList ++ ['/']).rdropWhile (· == '/') = dir.toList := by
      rw [List.rdropWhile_concat_pos _ _ _ (by rfl), List.rdropWhile_eq_self_iff]
      intro hd hslash
      exact h (by rw [List.getLast?_eq_some_getLast hd, beq_iff_eq.1 hslash])
    rw [hbare, if_neg (by simpa using hne)]

theorem baseName_join (hname : '/' ∉ name.toList) (hne : dir ≠ "") :
    baseName (join dir name) = name := by
  obtain ⟨head, hjoin, hlast, -⟩ := exists_head_of_join hname hne
  rw [baseName, hjoin, rtakeWhile_append_word hname hlast, String.ofList_toList]

/-! ## Names -/

theorem parts_append_slash {p q r : String} (h : p.toList = q.toList ++ '/' :: r.toList) :
    parts p = parts q ++ parts r := by
  rw [parts, h, Text.splitAt_append_cons, List.map_append]
  rfl

/-- A name that is joined to a directory comes after the names in it. -/
theorem names_join (hname : '/' ∉ name.toList) (hkept : isName name = true) (hne : dir ≠ "") :
    names (join dir name) = names dir ++ [name] := by
  have hlast : (parts name).filter isName = [name] := by
    rw [parts_of_slash_not_mem hname, List.filter_cons_of_pos hkept, List.filter_nil]
  by_cases h : dir.toList.getLast? = some '/'
  · obtain ⟨front, hdir⟩ := List.getLast?_eq_some_iff.1 h
    have hparts : parts dir = parts (String.ofList front) ++ [""] := by
      rw [parts_append_slash (q := String.ofList front) (r := "") (by simp [hdir])]
      rfl
    have hjoin : parts (join dir name) = parts (String.ofList front) ++ parts name := by
      refine parts_append_slash ?_
      rw [toList_join_of_slash hname h, hdir]
      simp
    rw [names, names, hjoin, hparts, List.filter_append, List.filter_append, hlast]
    simp [isName]
  · rw [names, parts_append_slash (toList_join_of_no_slash hname hne h), List.filter_append, hlast]
    rfl

theorem isAbsolute_join (hname : '/' ∉ name.toList) (hne : dir ≠ "") :
    isAbsolute (join dir name) = isAbsolute dir := by
  obtain ⟨c, s, hdir⟩ := List.exists_cons_of_ne_nil (mt String.toList_eq_nil_iff.1 hne)
  obtain ⟨head, hjoin, -, rfl | ⟨rfl, -⟩⟩ := exists_head_of_join hname hne <;>
    simp [isAbsolute, hjoin, hdir]

end Path

namespace Disk

variable {d : Disk} {here there place : Place} {l : List String} {name : String}

/-! ## The directory that names lead to -/

/-- The directory that names lead to from another one. -/
def enter (d : Disk) (here : Place) : List String → Option Place
  | [] => some here
  | name :: rest =>
    if !Path.isName name then enter d here rest
    else if !d.access.search here then none
    else if name == ".." then enter d (parentOf here) rest
    else if 255 < name.utf8ByteSize then none
    else if (d.fileAt? (here ++ [name])).isSome then none
    else if d.isDirectoryAt (here ++ [name]) then enter d (here ++ [name]) rest
    else none

/-- The directory that a path leads to. -/
def directoryAt? (d : Disk) (path : String) : Option Place :=
  d.enter (if Path.isAbsolute path then ["/"] else []) (Path.parts path)

/-- What comes after names is followed from the directory that they lead to. Nothing comes after
names that lead to none. -/
theorem follow_append (d : Disk) (here : Place) (hl : ∀ s ∈ l, Path.isName s = true) (m : String)
    (more : List String) :
    (∃ there, d.enter here l = some there ∧
      d.follow here (l ++ m :: more) = d.follow there (m :: more)) ∨
    d.enter here l = none ∧ ∃ fault, d.follow here (l ++ m :: more) = .unreachable fault := by
  fun_induction enter d here l with
  | case1 here => exact .inl ⟨here, rfl, rfl⟩
  | case2 here name rest hdot => simp [hl name List.mem_cons_self] at hdot
  | case3 here name rest hkept hclosed =>
    have hempty : name ≠ "" := by
      rintro rfl
      exact hkept (by decide)
    exact .inr ⟨rfl, .closed, follow_of_closed hempty (by simpa using hclosed)⟩
  | case4 here name rest hkept hsearch hup ih =>
    obtain rfl : name = ".." := by simpa using hup
    rw [List.cons_append, follow_up (by simpa using hsearch)]
    exact ih (List.forall_mem_cons.1 hl).2
  | case5 here name rest hkept hsearch hup hlong =>
    rw [List.cons_append, follow_of_isName (by simpa using hsearch) (hl name List.mem_cons_self)
      (by simpa using hup), if_pos hlong]
    exact .inr ⟨rfl, .nameTooLong, rfl⟩
  | case6 here name rest hkept hsearch hup hshort hfile =>
    obtain ⟨data, hdata⟩ := Option.isSome_iff_exists.1 hfile
    rw [List.cons_append, follow_of_isName (by simpa using hsearch) (hl name List.mem_cons_self)
      (by simpa using hup), if_neg hshort]
    exact .inr ⟨rfl, .notDirectory, by simp [hdata]⟩
  | case7 here name rest hkept hsearch hup hshort hfree hdirectory ih =>
    obtain ⟨hname, hrest⟩ := List.forall_mem_cons.1 hl
    rw [List.cons_append, follow_of_isName (by simpa using hsearch) hname (by simpa using hup),
      if_neg hshort]
    simp only [Option.not_isSome_iff_eq_none.1 hfree, hdirectory, if_true]
    exact ih hrest
  | case8 here name rest hkept hsearch hup hshort hfree hdirectory =>
    rw [List.cons_append, follow_of_isName (by simpa using hsearch) (hl name List.mem_cons_self)
      (by simpa using hup), if_neg hshort]
    exact .inr ⟨rfl, .missing, by simp [Option.not_isSome_iff_eq_none.1 hfree, hdirectory]⟩

/-- A place that a last name leads to is in the directory that the names before it lead to. -/
theorem exists_enter_of_follow (hl : ∀ s ∈ l, Path.isName s = true)
    (hname : Path.isName name = true) (hup : name ≠ "..")
    (h : (d.follow here (l ++ [name])).place? = some place) :
    ∃ there, d.enter here l = some there ∧ place = there ++ [name] := by
  have hempty : name ≠ "" := by
    rintro rfl
    cases hname
  rcases follow_append d here hl name [] with ⟨there, henter, hfollow⟩ | ⟨-, fault, hfault⟩
  · rw [hfollow] at h
    rw [follow_of_isName (search_of_follow hempty h) hname hup] at h
    refine ⟨there, henter, ?_⟩
    split at h
    · cases h
    split at h
    · exact (Option.some.inj h).symm
    · split at h
      · cases h
      · exact (Option.some.inj h).symm
  · rw [hfault] at h
    cases h

/-- Parts that name nothing lead nowhere else. -/
theorem enter_filter (d : Disk) (here : Place) (l : List String) :
    d.enter here (l.filter Path.isName) = d.enter here l := by
  induction l generalizing here with
  | nil => rfl
  | cons name rest ih =>
    by_cases hname : Path.isName name = true
    · rw [List.filter_cons_of_pos hname, enter, enter]
      simp only [ih]
    · rw [List.filter_cons_of_neg hname, ih, enter, if_pos (by simpa using hname)]

/-- Paths with the same names lead to the same directory. -/
theorem directoryAt?_congr {p q : String} (hnames : Path.names p = Path.names q)
    (habsolute : Path.isAbsolute p = Path.isAbsolute q) : d.directoryAt? p = d.directoryAt? q := by
  rw [directoryAt?, directoryAt?, ← enter_filter d _ (Path.parts p),
    ← enter_filter d _ (Path.parts q), habsolute]
  exact congrArg (d.enter _) hnames

/-- What is written under a name in a directory comes to the directory that the path leads to. -/
theorem exists_directoryAt?_of_target {dir path : String}
    (hnames : Path.names path = Path.names dir ++ [name])
    (habsolute : Path.isAbsolute path = Path.isAbsolute dir) (hup : name ≠ "..")
    (h : d.target (Path.tidy path) = .ok place) :
    ∃ there, d.directoryAt? dir = some there ∧ place = there ++ [name] := by
  have hname : Path.isName name = true := by
    have hmem : name ∈ Path.names path := by rw [hnames]; exact List.mem_append_right _ (by simp)
    exact (List.mem_filter.1 hmem).2
  have hne : Path.names path ≠ [] := by rw [hnames]; simp
  have hnamed : ∀ s ∈ Path.names dir, Path.isName s = true := fun s hs => (List.mem_filter.1 hs).2
  replace h := (target_eq_ok_iff.1 h).1
  obtain ⟨k, hparts⟩ := Path.parts_tidy hne
  rw [(locate_eq_follow h).2.2, Path.isAbsolute_tidy hne, hparts, follow_replicate_append, hnames,
    habsolute] at h
  obtain ⟨there, henter, hplace⟩ := exists_enter_of_follow hnamed hname hup h
  exact ⟨there, by rw [directoryAt?, ← enter_filter]; exact henter, hplace⟩

/-- A name that a path consists of leads to a place in the working directory. -/
theorem target_of_name (hslash : '/' ∉ name.toList) (hname : Path.isName name = true)
    (hup : name ≠ "..") (h : d.target name = .ok place) : place = [name] := by
  have hnames : Path.names name = Path.names "." ++ [name] := by
    rw [Path.names, Path.parts_of_slash_not_mem hslash, List.filter_cons_of_pos hname]
    rfl
  have habsolute : Path.isAbsolute name = Path.isAbsolute "." :=
    Path.isAbsolute_of_slash_not_mem hslash
  obtain ⟨there, hthere, rfl⟩ :=
    exists_directoryAt?_of_target hnames habsolute hup (target_tidy h)
  cases hthere
  rfl

end Disk

end PackageDoc
