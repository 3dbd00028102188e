import PackageDoc.Conversion
import PackageDoc.Proofs.Path

/-!
# One document from every kind of input

A text can be given as it stands, as its bytes, as a stream of either, or by the path of a file that
holds its bytes. Decoding takes back what encoding did, unless the text begins with a byte order
mark, so all of these are read as the same text. A text is taken for a path only if it is short,
stands on one line and leads to a regular file.

    standsForFile d s, if the short line s names a file            (standsForFile_of_isFile)
    not so, if s is long, has a line feed or names no file         (standsForFile_eq_false)
    every kind of input for s is read as s is                      (readSource_alike)
-/

namespace PackageDoc

/-! ## Decoding -/

namespace Text

theorem dropMark_of_head? {s : String} (h : s.toList.head? ≠ some byteOrderMark) :
    dropMark s = s := by
  unfold dropMark
  split
  · next c rest hs => rw [if_neg fun hc => h (by rw [hs, List.head?_cons, hc])]
  · rfl

/-- Only a byte order mark at the beginning is lost on the way to bytes and back. -/
theorem decode_toUTF8_of_head? {s : String} (h : s.toList.head? ≠ some byteOrderMark) :
    decode s.toUTF8 = s := by
  rw [decode_toUTF8, dropMark_of_head? h]

end Text

/-! ## Files -/

namespace Source

variable {d : Disk} {s path : String} {data : ByteArray}

/-- A file that can be read is there. -/
theorem isFile_of_read (h : d.read path = .ok data) : d.isFile path = true := by
  obtain ⟨place, hplace, -⟩ := Disk.read_eq_ok_iff.1 h
  exact Disk.isFile_eq_true_iff.2 ⟨place, data, hplace⟩

theorem readFile_of_read (h : d.read path = .ok data) : readFile d path = .ok data := by
  rw [readFile, h]

theorem readPath_of_read (h : d.read (Path.tidy path) = .ok data) :
    readPath d path = .ok data := by
  have hprobe := Disk.probe_eq_true_iff.2 (isFile_of_read h)
  simp only [readPath, hprobe, readFile_of_read h]

/-- A short line that names a file stands for it. -/
theorem standsForFile_of_isFile (hlength : s.length ≤ maxProbe) (hline : '\n' ∉ s.toList)
    (h : d.isFile (Path.tidy s) = true) : standsForFile d s = true := by
  rw [standsForFile, Disk.probe_eq_true_iff.2 h]
  simp [hlength, hline]

/-- Whatever else the system says of a path, the text does not stand for a file. -/
theorem standsForFile_eq_false
    (h : '\n' ∈ s.toList ∨ maxProbe < s.length ∨ d.isFile (Path.tidy s) = false) :
    standsForFile d s = false := by
  unfold standsForFile
  rcases h with hfeed | hlong | hfile
  · simp [hfeed]
  · simp [Nat.not_le.2 hlong]
  · have hprobe : ¬ d.probe (Path.tidy s) = .ok true := by simp [Disk.probe_eq_true_iff, hfile]
    cases hfound : d.probe (Path.tidy s) with
    | error => simp
    | ok found =>
      cases found with
      | false => simp
      | true => exact absurd hfound hprobe

end Source

/-! ## Documents -/

section Host

variable [Host]

/-- A source counts by its text alone. -/
theorem readSource_of_load {d : Disk} {src : Source} {s : String} (h : src.load d = .ok s)
    (o : Markdown.Options) : readSource d o src = readText o s.toList := by
  rw [readSource, h]
  rfl

/-- **All kinds of input give the same document.** A text that does not begin with a byte order mark
is read alike from its bytes, from a stream of them, from a stream of text, from the path of a file
that holds its bytes, also when that is given as a short line of text, and from the text itself,
provided this has a line feed, is long or names no regular file. -/
theorem readSource_alike (d : Disk) (o : Markdown.Options) {s : String}
    (hs : s.toList.head? ≠ some Text.byteOrderMark) :
    readSource d o (.bytes s.toUTF8) = readText o s.toList ∧
      readSource d o (.byteStream s.toUTF8) = readText o s.toList ∧
      readSource d o (.textStream s) = readText o s.toList ∧
      (∀ path, d.read (Path.tidy path) = .ok s.toUTF8 →
        readSource d o (.path path) = readText o s.toList ∧
          (path.length ≤ 260 → '\n' ∉ path.toList →
            readSource d o (.text path) = readText o s.toList)) ∧
      ('\n' ∈ s.toList ∨ 260 < s.length ∨ d.isFile (Path.tidy s) = false →
        readSource d o (.text s) = readText o s.toList) := by
  have hdecode : Text.decode s.toUTF8 = s := Text.decode_toUTF8_of_head? hs
  refine ⟨?_, ?_, ?_, fun path hread => ⟨?_, fun hlength hline => ?_⟩, fun h => ?_⟩
  · exact readSource_of_load (by rw [Source.load, hdecode]) o
  · exact readSource_of_load (by rw [Source.load, hdecode]) o
  · exact readSource_of_load rfl o
  · apply readSource_of_load
    rw [Source.load, Source.readPath_of_read hread, Except.map, hdecode]
  · apply readSource_of_load
    have hfile := Source.standsForFile_of_isFile hlength hline (Source.isFile_of_read hread)
    rw [Source.load, if_pos hfile, Source.readFile_of_read hread, Except.map, hdecode]
  · apply readSource_of_load
    rw [Source.load, if_neg (by simp [Source.standsForFile_eq_false h])]

end Host

/-- A heading below front matter, and a file that holds it under a path with a detour. -/
theorem readSource_alike_heading :
    let s := "+++\nx = 1\n+++\n# é\n"
    let d : Disk := { files := [(["a", "b.md"], s.toUTF8)] }
    s.toList.head? ≠ some Text.byteOrderMark ∧ d.read (Path.tidy "./a//b.md") = .ok s.toUTF8 ∧
      readSource d {} (.path "./a//b.md") = readSource d {} (.bytes s.toUTF8) ∧
      readSource d {} (.text "./a//b.md") = readSource d {} (.bytes s.toUTF8) ∧
      readSource d {} (.text s) = readSource d {} (.bytes s.toUTF8) := by
  intro s d
  have hs : s.toList.head? ≠ some Text.byteOrderMark := by decide
  have hread : d.read (Path.tidy "./a//b.md") = .ok s.toUTF8 := rfl
  obtain ⟨hbytes, -, -, hpath, htext⟩ := readSource_alike d {} hs
  obtain ⟨hfile, hline⟩ := hpath "./a//b.md" hread
  refine ⟨hs, hread, hfile.trans hbytes.symm, ?_, ?_⟩
  · exact (hline (by decide) (by decide)).trans hbytes.symm
  · exact (htext (.inl (by decide))).trans hbytes.symm

end PackageDoc
