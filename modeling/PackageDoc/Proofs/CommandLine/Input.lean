import PackageDoc.Proofs.CommandLine.Stages
import PackageDoc.Proofs.Source

/-!
# Input from a stream and from a file

A run that prints shows the conversion of its input. Bytes from a file become text once. Bytes from
a stream become text, are encoded again and become text once more, so a text that still begins with
a byte order mark loses a second one. That only happens to bytes that begin with two marks.

    run_shows_convert           a printing run shows what converting its input gives
    head?_decode_eq_mark_iff    text that begins with a mark comes from UTF-8 with two of them
    run_from_stream_or_file     what either run shows, and when the two agree
-/

namespace PackageDoc

/-- An empty name is no package name. -/
theorem PackageName.isEmpty_of_validate {name r : String} (h : validate name = .ok r) :
    name.isEmpty = false := by
  rw [String.isEmpty_eq_false_iff]
  rintro rfl
  cases h

namespace Text

/-- No byte alone stands for the mark. -/
theorem ofNat_ne_byteOrderMark : ∀ n < 256, Char.ofNat n ≠ byteOrderMark := by
  decide +kernel

theorem head?_ofLatin1 (data : ByteArray) : (ofLatin1 data).toList.head? ≠ some byteOrderMark := by
  rw [ofLatin1, String.toList_ofList, List.head?_map]
  intro h
  obtain ⟨b, -, hb⟩ := Option.map_eq_some_iff.1 h
  exact ofNat_ne_byteOrderMark b.toNat b.toNat_lt hb

/-- Decoded text begins with a mark exactly if the bytes are UTF-8 for text that begins with two. -/
theorem head?_decode_eq_mark_iff (data : ByteArray) :
    (decode data).toList.head? = some byteOrderMark ↔
      ∃ rest, String.fromUTF8? data =
        some (String.ofList (byteOrderMark :: byteOrderMark :: rest)) := by
  unfold decode
  cases String.fromUTF8? data with
  | none => simp [head?_ofLatin1]
  | some s =>
    simp only [Option.some.injEq]
    constructor
    · intro h
      unfold dropMark at h
      split at h
      · next c rest hs =>
        split at h
        · next hc =>
          rw [String.toList_ofList] at h
          obtain ⟨rest', rfl⟩ := List.head?_eq_some_iff.1 h
          exact ⟨rest', by rw [← String.ofList_toList (s := s), hs, hc]⟩
        · next hc =>
          rw [hs] at h
          exact absurd (Option.some.inj h) hc
      · next hs => rw [hs] at h; cases h
    · rintro ⟨rest, rfl⟩
      simp [dropMark]

end Text

namespace CommandLine

/-! ## Printing runs -/

/-- A source counts by its text alone. -/
theorem convert_of_load [Host] {d : Disk} {src : Source} {text : String}
    (h : src.load d = .ok text) (packageName : Value) (suppressBadges : Bool)
    (o : Markdown.Options) :
    convert d src packageName suppressBadges o =
      convert d (.textStream text) packageName suppressBadges o := by
  simp only [convert, readSource, h]
  rfl

/-- Arguments that print the doc comment of a package, with no license above it and no log file. -/
structure Arguments.Prints (a : Arguments) (packageName : String) (badges : Bool) : Prop where
  toStdout : a.toStdout = true
  license : a.license = false
  logFile : a.logFile = none
  package : a.package = packageName
  badges : a.badges = badges

/-- An ending shows a result: it has printed the text, or nothing, and the exit code is that of the
problem. -/
def Ending.Shows (ending : Ending) : Except Failure String → Prop
  | .ok text => ∃ s, ending = .ran 0 s ∧ s.out = text
  | .error (.problem p) => ∃ s, ending = .ran p.exitCode s ∧ s.out = ""
  | .error f => ∃ s, ending = .broken f s ∧ s.out = ""

theorem shows_of_error (f : Failure) {s : Session} (hs : s.out = "") :
    (conclude (.error f, s)).Shows (.error f) := by
  cases f with
  | problem p => exact ⟨_, rfl, hs⟩
  | frontMatter | markdown | nesting | disk | toolchain => exact ⟨s, rfl, hs⟩

/-- A stage that fails is what is shown, and one that goes well leaves that to the next. -/
theorem shows_bind {α : Type} {m : Stage α} {f : α → Stage Unit} {s : Session}
    {r : Except Failure α} {q : α → Except Failure String} (hm : Settles m s r) (hs : s.out = "")
    (hf : ∀ x t, t.out = "" → (conclude (exec (f x) t)).Shows (q x)) :
    (conclude (exec (m >>= f) s)).Shows (r.bind q) := by
  obtain ⟨t, ht, hst⟩ := hm
  cases r with
  | error e =>
    rw [exec_bind_error ht]
    exact shows_of_error e (hst.out.trans hs)
  | ok x =>
    rw [exec_bind_ok ht]
    exact hf x t (hst.out.trans hs)

variable {w : World} {args : List String} {a : Arguments} {packageName : String} {badges : Bool}

/-- What is printed in the end is the rendered text. -/
theorem shows_printed (ha : a.Prints packageName badges) (body : String) {s : Session}
    (hs : s.out = "") :
    (conclude (exec (do writeOutput a ((← licenseHeader a) ++ body)) s)).Shows (.ok body) := by
  have hheader : headerOf s.disk a = .ok "" := by simp [headerOf, ha.license]
  obtain ⟨t, ht, hst⟩ := settles_licenseHeader a s
  rw [hheader] at ht
  rw [exec_bind_ok ht, exec_writeOutput_of_toStdout ha.toStdout]
  exact ⟨_, rfl, by simp [hst.out, hs]⟩

/-- What a printing run shows is the conversion of its input. -/
theorem run_shows_convert [Host] {data : ByteArray} (h : parse args = .convert a)
    (ha : a.Prints packageName badges)
    (hname : PackageName.validate packageName = .ok packageName)
    (hin : inputOf w w.disk a = .ok data) (d : Disk) :
    (run w args).Shows (convert d (.bytes data) (.text packageName) (!badges) {}) := by
  have hpackage : packageOf w a = .ok packageName := by
    have hne := PackageName.isEmpty_of_validate hname
    simp only [packageOf, ha.package, hne, Bool.false_eq_true, if_false, Except.bind, hname,
      Except.mapError]
  have hconvert : convert d (.bytes data) (.text packageName) (!badges) {} =
      (readText {} (Text.decode data).toList).bind fun doc =>
        (renderDocument { packageName, suppressBadges := !a.badges } doc).bind .ok := by
    have hvalue : PackageName.validateValue (.text packageName) = .ok packageName := hname
    have hok (r : Except Failure String) : r.bind .ok = r := by cases r <;> rfl
    simp only [convert, hvalue, hok, ha.badges]
    rfl
  have hrun : run w args = conclude (exec (convertInput w a)
      { disk := w.disk, log := logSettings w a }) := by
    simp only [run, h, Session.start, ha.logFile]
    rfl
  obtain ⟨t, ht, h₁⟩ := settles_readInput w a { disk := w.disk, log := logSettings w a }
  obtain ⟨u, hu, h₂⟩ := settles_findPackage w a t
  rw [hin] at ht
  rw [hpackage] at hu
  rw [hrun, hconvert, convertInput, exec_bind_ok ht, exec_bind_ok hu]
  refine shows_bind (settles_readDocument data u) (h₁.trans h₂).out fun doc v hv => ?_
  refine shows_bind (settles_render _ doc v) hv fun body x hx => ?_
  exact shows_printed ha body hx

/-- A run that prints what came in as a stream shows the conversion of the text that is left of it
when it is taken as bytes once more, and one that prints a file shows the conversion of its bytes.
The two agree unless the bytes are UTF-8 for a text that begins with two byte order marks. -/
theorem run_from_stream_or_file [Host] {w' : World} {args' : List String} {a' : Arguments}
    {data : ByteArray}
    (h : parse args = .convert a) (ha : a.Prints packageName badges)
    (hstream : a.fromStdin = true) (hdata : w.stdin = data)
    (h' : parse args' = .convert a') (ha' : a'.Prints packageName badges)
    (hfile : a'.fromStdin = false)
    (hdata' : w'.disk.read (Path.tidy a'.input) = .ok data)
    (hname : PackageName.validate packageName = .ok packageName) (d : Disk) :
    let result (src : Source) := convert d src (.text packageName) (!badges) {}
    (run w' args').Shows (result (.bytes data)) ∧
      (run w args).Shows (result (.textStream (Text.dropMark (Text.decode data)))) ∧
      ((¬ ∃ rest, String.fromUTF8? data =
          some (String.ofList (Text.byteOrderMark :: Text.byteOrderMark :: rest))) →
        (run w args).Shows (result (.bytes data))) := by
  intro result
  have hfrom : (run w' args').Shows (result (.bytes data)) :=
    run_shows_convert h' ha' hname (inputOf_of_read hfile hdata') d
  have hencoded : result (.bytes (Text.decode data).toUTF8) =
      result (.textStream (Text.dropMark (Text.decode data))) :=
    convert_of_load (by rw [Source.load, Text.decode_toUTF8]) _ _ _
  have hagain : (run w args).Shows (result (.textStream (Text.dropMark (Text.decode data)))) :=
    hencoded ▸ run_shows_convert h ha hname (by simp [inputOf, hstream, hdata]) d
  refine ⟨hfrom, hagain, fun hmarks => ?_⟩
  have hhead := mt (Text.head?_decode_eq_mark_iff data).1 hmarks
  rw [Text.dropMark_of_head? hhead] at hagain
  exact hagain

/-! ## The same bytes from a stream and from a file -/

/-- Arguments that print what comes in as a stream. -/
def streamArgs : List String :=
  ["--stdin", "--stdout", "--no-license", "--pkg", "main"]

/-- Arguments that print a file. -/
def fileArgs : List String :=
  ["--input", "in.md", "--stdout", "--no-license", "--pkg", "main"]

/-- What the arguments for a stream are taken for. -/
def fromStream : Arguments :=
  { fromStdin := true, toStdout := true, package := "main", license := false }

/-- What the arguments for a file are taken for. -/
def fromFile : Arguments :=
  { input := "in.md", toStdout := true, package := "main", license := false }

/-- A world that has the same bytes in a file and in the stream. -/
def holding (data : ByteArray) : World :=
  { disk := { files := [(["in.md"], data)] }, stdin := data }

theorem parse_streamArgs : parse streamArgs = .convert fromStream := rfl

theorem parse_fileArgs : parse fileArgs = .convert fromFile := rfl

theorem prints_fromStream : fromStream.Prints "main" false := ⟨rfl, rfl, rfl, rfl, rfl⟩

theorem prints_fromFile : fromFile.Prints "main" false := ⟨rfl, rfl, rfl, rfl, rfl⟩

theorem stdin_holding (data : ByteArray) : (holding data).stdin = data := rfl

theorem read_holding (data : ByteArray) :
    (holding data).disk.read (Path.tidy fromFile.input) = .ok data := rfl

theorem validate_main : PackageName.validate "main" = .ok "main" := rfl

theorem run_from_stream_or_file_oneMark :
    parse streamArgs = .convert fromStream ∧ fromStream.Prints "main" false ∧
      parse fileArgs = .convert fromFile ∧ fromFile.Prints "main" false ∧
      PackageName.validate "main" = .ok "main" ∧
      let data := "\uFEFFx\n".toUTF8
      let result := convert {} (.bytes data) (.text "main") true {}
      (holding data).disk.read (Path.tidy fromFile.input) = .ok data ∧
      (run (holding data) fileArgs).Shows result ∧
      (run (holding data) streamArgs).Shows result := by
  obtain ⟨hfile, -, hstream⟩ := run_from_stream_or_file parse_streamArgs prints_fromStream rfl
    (stdin_holding "\uFEFFx\n".toUTF8) parse_fileArgs prints_fromFile rfl
    (read_holding "\uFEFFx\n".toUTF8) validate_main {}
  refine ⟨parse_streamArgs, prints_fromStream, parse_fileArgs, prints_fromFile, validate_main,
    read_holding _, hfile, hstream ?_⟩
  rintro ⟨rest, hrest⟩
  rw [Text.fromUTF8?_toUTF8, Option.some.injEq] at hrest
  have hlist : ['\uFEFF', 'x', '\n'] = Text.byteOrderMark :: Text.byteOrderMark :: rest := by
    simpa using congrArg String.toList hrest
  cases hlist

set_option maxRecDepth 20000 in
/-- The second of two marks is part of the text in a file, and is lost in a stream. -/
theorem stream_unlike_file :
    let data := "\uFEFF\uFEFF# T\n".toUTF8
    parse streamArgs = .convert fromStream ∧ parse fileArgs = .convert fromFile ∧
      (holding data).stdin = data ∧
      (holding data).disk.read (Path.tidy fromFile.input) = .ok data ∧
      ∃ s t, run (holding data) streamArgs = .ran 0 s ∧ run (holding data) fileArgs = .ran 0 t ∧
        s.out = "// Package main is the T\npackage main\n" ∧
        t.out = "// Package main is the .\n//\n// \uFEFF# T\npackage main\n" := by
  intro data
  have hdata : data = "\uFEFF\uFEFF# T\n".toUTF8 := rfl
  have hinStream : inputOf (holding data) (holding data).disk fromStream =
      .ok (Text.decode data).toUTF8 := rfl
  have hinFile : inputOf (holding data) (holding data).disk fromFile = .ok data := rfl
  have hstream := run_shows_convert parse_streamArgs prints_fromStream validate_main hinStream {}
  have hfile := run_shows_convert parse_fileArgs prints_fromFile validate_main hinFile {}
  have hone : convert {} (.bytes (Text.decode data).toUTF8) (.text "main") true {} =
      .ok "// Package main is the T\npackage main\n" := by
    have hload : Source.load {} (.bytes (Text.decode data).toUTF8) = .ok "# T\n" := by
      simp only [Source.load, hdata, Text.decode_toUTF8]
      rfl
    rw [convert_of_load hload]
    rfl
  have htwo : convert {} (.bytes data) (.text "main") true {} =
      .ok "// Package main is the .\n//\n// \uFEFF# T\npackage main\n" := by
    have hload : Source.load {} (.bytes data) = .ok "\uFEFF# T\n" := by
      simp only [Source.load, hdata, Text.decode_toUTF8]
      rfl
    rw [convert_of_load hload]
    rfl
  obtain ⟨s, hs, hsout⟩ := hone ▸ hstream
  obtain ⟨t, ht, htout⟩ := htwo ▸ hfile
  exact ⟨parse_streamArgs, parse_fileArgs, stdin_holding data, read_holding data, s, t, hs, ht,
    hsout, htout⟩

end CommandLine

end PackageDoc
