import PackageDoc.Output
import PackageDoc.Proofs.CommandLine.Stages
import PackageDoc.Proofs.Text.Decoding

/-!
# What is written can be read back

A text is written as it stands or as its UTF-8 bytes, whichever its destination takes. Decoding
undoes that, except for a byte order mark at the beginning. Bytes that are no well-formed UTF-8 are
never taken for such: each of them becomes a character of its own.

    d.write path data = .ok d' → d'.locate path = .file place data                   (locate_write)
    (Content.text s).deliver dest = .ok c, and c holds s                             (deliver_text)
    decoding what was written, and decoding whatever bytes there are          (write_and_read_back)
-/

namespace PackageDoc

/-! ## Files -/

namespace Disk

variable {d d' : Disk} {here p q : Place} {names : List String} {path : String}
  {data old : ByteArray}

/-- No directory is lost when a file is written. -/
theorem isDirectoryAt_put_of_isDirectoryAt (h : d.isDirectoryAt p = true) :
    (d.put q data).isDirectoryAt p = true := by
  simp only [isDirectoryAt, Bool.or_eq_true] at h ⊢
  refine h.imp_right fun h => ?_
  obtain ⟨f, hf, hp⟩ := List.any_eq_true.1 h
  by_cases hq : f.1 = q
  · exact List.any_eq_true.2 ⟨(q, data), List.mem_cons_self, hq ▸ hp⟩
  · exact List.any_eq_true.2 ⟨f, List.mem_cons_of_mem _ (List.mem_filter.2 ⟨hf, by simpa⟩), hp⟩

theorem fileAt?_of_follow (h : d.follow here names = .file q old) : d.fileAt? q = some old := by
  fun_induction follow d here names with
  | case2 here name rest _ ih => exact ih h
  | case4 here name rest _ _ _ ih => exact ih h
  | case5 here name rest _ _ _ _ ih => exact ih h
  | case7 here name rest _ _ _ _ _ there data hfile =>
    obtain ⟨rfl, rfl⟩ := Located.file.inj h
    exact hfile
  | case9 here name rest _ _ _ _ _ there _ _ ih => exact ih h
  | _ => cases h

/-- Nothing is at a place that a path leads to but a file can be written to. -/
theorem free_of_follow (h : d.follow here names = .vacant q) :
    d.fileAt? q = none ∧ d.isDirectoryAt q = false := by
  fun_induction follow d here names with
  | case2 here name rest _ ih => exact ih h
  | case4 here name rest _ _ _ ih => exact ih h
  | case5 here name rest _ _ _ _ ih => exact ih h
  | case9 here name rest _ _ _ _ _ there _ _ ih => exact ih h
  | case10 here name rest _ _ _ _ _ there hfile hdirectory =>
    obtain rfl := Located.vacant.inj h
    exact ⟨hfile, Bool.eq_false_iff.2 hdirectory⟩
  | _ => cases h

/-- Names that led to a free place lead to the file that is written there. -/
theorem follow_put_of_vacant (data : ByteArray) (h : d.follow here names = .vacant q) :
    (d.put q data).follow here names = .file q data := by
  have hfree := free_of_follow h
  have haccess : (d.put q data).access = d.access := rfl
  fun_induction follow d here names with
  | case2 here name rest hempty ih => rw [follow, if_pos hempty, ih h]
  | case4 here name rest hempty hsearch hdot ih =>
    rw [follow, haccess, if_neg hempty, if_neg hsearch, if_pos hdot, ih h]
  | case5 here name rest hempty hsearch hdot hup ih =>
    rw [follow, haccess, if_neg hempty, if_neg hsearch, if_neg hdot, if_pos hup, ih h]
  | case9 here name rest hempty hsearch hdot hup hshort there hfile hdirectory ih =>
    -- The place is no directory, so it is none of those on the way to it.
    have hne : there ≠ q := by
      rintro rfl
      rw [hdirectory] at hfree
      exact absurd hfree.2 (by decide)
    have hfile' : (d.put q data).fileAt? there = none := by
      rw [fileAt?_put_of_ne d (by simpa using hne), hfile]
    rw [follow, haccess, if_neg hempty, if_neg hsearch, if_neg hdot, if_neg hup, if_neg hshort,
      show here ++ [name] = there from rfl]
    simp only [hfile', isDirectoryAt_put_of_isDirectoryAt hdirectory, if_true]
    exact ih h
  | case10 here name rest hempty hsearch hdot hup hshort there hfile hdirectory hrest =>
    obtain rfl := Located.vacant.inj h
    rw [follow, haccess, if_neg hempty, if_neg hsearch, if_neg hdot, if_neg hup, if_neg hshort,
      show here ++ [name] = there from rfl]
    simp only [fileAt?_put_self, hrest, if_true]
  | _ => cases h

/-- A path cannot be followed on any disk, or is followed on each by the same names. -/
theorem locate_cases (path : String) :
    (∃ fault, ∀ d : Disk, d.locate path = .unreachable fault) ∨
      ∃ here names, ∀ d : Disk, d.locate path = d.follow here names := by
  unfold locate
  by_cases hempty : path.isEmpty
  · exact .inl ⟨.missing, fun d => if_pos hempty⟩
  by_cases hnul : path.toList.contains '\x00'
  · exact .inl ⟨.badPath, fun d => by rw [if_neg hempty, if_pos hnul]⟩
  by_cases hlong : 4095 < path.utf8ByteSize
  · exact .inl ⟨.nameTooLong, fun d => by rw [if_neg hempty, if_neg hnul, if_pos hlong]⟩
  · exact .inr ⟨_, _, fun d => by rw [if_neg hempty, if_neg hnul, if_neg hlong]⟩

theorem fileAt?_of_locate (h : d.locate path = .file q old) : d.fileAt? q = some old := by
  rcases locate_cases path with ⟨fault, hfault⟩ | ⟨here, names, hnames⟩
  · rw [hfault] at h
    cases h
  · exact fileAt?_of_follow ((hnames d).symm.trans h)

theorem locate_put_of_vacant (data : ByteArray) (h : d.locate path = .vacant q) :
    (d.put q data).locate path = .file q data := by
  rcases locate_cases path with ⟨fault, hfault⟩ | ⟨here, names, hnames⟩
  · rw [hfault] at h
    cases h
  · rw [hnames] at h ⊢
    exact follow_put_of_vacant data h

/-- A path that was written to leads to a file that holds what was written. -/
theorem locate_write (h : d.write path data = .ok d') :
    ∃ place, d'.locate path = .file place data := by
  obtain ⟨place, htarget, rfl⟩ : ∃ place, d.target path = .ok place ∧ d.put place data = d' := by
    cases htarget : d.target path with
    | ok place =>
      rw [write, htarget] at h
      exact ⟨place, rfl, Except.ok.inj h⟩
    | error fault =>
      rw [write, htarget] at h
      cases h
  refine ⟨place, ?_⟩
  have hplace := (target_eq_ok_iff.1 htarget).1
  cases hlocate : d.locate path with
  | file q old =>
    rw [hlocate] at hplace
    obtain rfl := Option.some.inj hplace
    have hfile : (d.fileAt? q).isSome := by rw [fileAt?_of_locate hlocate]; rfl
    simp [locate_put hfile, hlocate, Located.refresh]
  | vacant q =>
    rw [hlocate] at hplace
    obtain rfl := Option.some.inj hplace
    exact locate_put_of_vacant data hlocate
  | directory =>
    rw [hlocate] at hplace
    cases hplace
  | unreachable =>
    rw [hlocate] at hplace
    cases hplace

end Disk

/-! ## What a destination holds -/

/-- Whether a destination takes bytes. -/
def Destination.takesBytes : Destination → Bool
  | .file | .byteStream => true
  | .sink mode => mode.contains 'b'
  | .textStream | .unsupported => false

namespace Content

def isBytes : Content → Bool
  | text _ => false
  | bytes _ => true

/-- Content holds a text if it is that text or the bytes that spell it. -/
def Holds (s : String) : Content → Prop
  | text t => t = s
  | bytes data => Text.Utf8.Spells data.toList s.toList

theorem spells_toUTF8 (s : String) : Text.Utf8.Spells s.toUTF8.toList s.toList :=
  Text.fromUTF8?_eq_some_iff.1 (Text.fromUTF8?_toUTF8 s)

/-- Every destination takes a text, in its own form. -/
theorem deliver_text {dest : Destination} (h : dest ≠ .unsupported) (s : String) :
    ∃ c, (text s).deliver dest = .ok c ∧ c.isBytes = dest.takesBytes ∧ c.Holds s := by
  cases dest with
  | file => exact ⟨bytes s.toUTF8, rfl, rfl, spells_toUTF8 s⟩
  | byteStream => exact ⟨bytes s.toUTF8, rfl, rfl, spells_toUTF8 s⟩
  | textStream => exact ⟨text s, rfl, rfl, rfl⟩
  | sink mode =>
    cases hmode : mode.contains 'b' with
    | true => exact ⟨bytes s.toUTF8, if_pos hmode, hmode.symm, spells_toUTF8 s⟩
    | false =>
      have hmode' : ¬ mode.contains 'b' = true := by rw [hmode]; decide
      exact ⟨text s, if_neg hmode', hmode.symm, rfl⟩
  | unsupported => exact absurd rfl h

/-- Content that holds a text has its bytes. -/
theorem Holds.spells {c : Content} {s : String} (h : c.Holds s) :
    Text.Utf8.Spells c.toBytes.toList s.toList := by
  cases c with
  | text t =>
    obtain rfl : t = s := h
    exact spells_toUTF8 t
  | bytes => exact h

end Content

/-! ## The whole way -/

open Text Utf8

/-- **Writing and reading text are inverse.** Every destination takes a text in its own form, text
or bytes, and then holds that text; a path that was written to leads to a file that holds what was
written, and reading it gives that unless it may not be read. Decoding the bytes gives the text
back, less the byte order mark that it may begin with. Of any bytes one of the attempts at decoding
gives a text: what they spell, less one mark at the beginning, or, if they spell nothing, one
character for each byte. -/
theorem write_and_read_back :
    (∀ (s : String) (dest : Destination), dest ≠ .unsupported →
      ∃ c, (Content.text s).deliver dest = .ok c ∧ c.isBytes = dest.takesBytes ∧ c.Holds s ∧
        (∀ (d d' : Disk) (path : String), d.write path c.toBytes = .ok d' →
          ∃ place, d'.locate path = .file place c.toBytes ∧
            (d'.access.read place = true → d'.read path = .ok c.toBytes)) ∧
        (decode c.toBytes).toList =
          if s.toList.head? = some byteOrderMark then s.toList.tail else s.toList) ∧
    (∀ data, Encoding.attempts.findSome? (Encoding.decode? data) = some (decode data)) ∧
    (∀ data cs, Spells data.toList cs →
      (decode data).toList = if cs.head? = some byteOrderMark then cs.tail else cs) ∧
    (∀ data, (∀ cs, ¬ Spells data.toList cs) →
      (decode data).toList.map Char.toNat = data.toList.map UInt8.toNat) := by
  refine ⟨fun s dest hdest => ?_, findSome?_attempts, fun data cs => decode_of_spells,
    fun data => decode_of_not_spells⟩
  obtain ⟨c, hdeliver, hform, hholds⟩ := Content.deliver_text hdest s
  refine ⟨c, hdeliver, hform, hholds, fun d d' path hwrite => ?_, decode_of_spells hholds.spells⟩
  obtain ⟨place, hplace⟩ := Disk.locate_write hwrite
  exact ⟨place, hplace, fun hread => Disk.read_eq_ok_iff.2 ⟨place, hplace, hread⟩⟩

/-- A text after a mark, written to a file, and an overlong sequence of bytes. -/
theorem write_and_read_back_marked :
    let overlong : ByteArray := ⟨#[0xC0, 0x80]⟩
    Destination.file ≠ .unsupported ∧
      (∃ c, (Content.text "\uFEFFé").deliver .file = .ok c ∧ c.isBytes = true ∧
        (decode c.toBytes).toList = ['é'] ∧
        ∃ d', ({} : Disk).write "doc.go" c.toBytes = .ok d' ∧ d'.read "doc.go" = .ok c.toBytes) ∧
      (∀ cs, ¬ Spells overlong.toList cs) ∧
      (decode overlong).toList.map Char.toNat = [0xC0, 0x80] := by
  intro overlong
  obtain ⟨htext, -, -, hbytes⟩ := write_and_read_back
  have hfile : Destination.file ≠ .unsupported := nofun
  obtain ⟨c, hdeliver, hform, -, hread, hdecode⟩ := htext "\uFEFFé" _ hfile
  have hwrite : ({} : Disk).write "doc.go" c.toBytes =
      .ok { files := [(["doc.go"], c.toBytes)] } := rfl
  obtain ⟨place, -, hfound⟩ := hread _ _ _ hwrite
  have hlist : overlong.toList = [0xC0, 0x80] := toList_eq overlong
  have hnone : ∀ cs, ¬ Spells overlong.toList cs := by
    intro cs h
    have hs := fromUTF8?_eq_some_ofList.2 h
    have hinvalid : String.fromUTF8? overlong = none := by decide
    cases hs.symm.trans hinvalid
  refine ⟨hfile, ⟨c, hdeliver, hform, hdecode.trans (by decide), _, hwrite, hfound rfl⟩,
    hnone, (hbytes overlong hnone).trans ?_⟩
  rw [hlist]
  rfl

end PackageDoc
