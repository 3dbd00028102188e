import PackageDoc.Proofs.CommandLine.Atomic
import PackageDoc.Proofs.CommandLine.Endings
import PackageDoc.Proofs.Directory

/-!
# Where the name of a package comes from and where its output goes

The toolchain is asked about the directory that the input stands in, and output that was given no
other path goes there too. The one is told a path that it takes for a directory, and the other is
joined to a name, but both lead to the same place.

    d.directoryAt? (directoryArgument p) = d.directoryAt? (directoryOf p)
                                                             (directoryAt?_directoryArgument)
    a run that is asked for output writes it at the place of the output path     (writes_of_run)
    a run has asked the toolchain once, or not at all if the package was chosen  (commands_of_run)
-/

namespace PackageDoc

namespace Toolchain

/-! ## What the toolchain is told -/

/-- The toolchain takes an argument that begins with a minus for a flag. -/
def ReadsAsFlag (arg : String) : Prop :=
  arg.toList.head? = some '-'

/-- The toolchain takes an argument for the path of a directory if it is absolute or its first part
is a single or double dot. Any other argument that is no flag is taken for an import path. -/
def ReadsAsDirectory (arg : String) : Prop :=
  Path.isAbsolute arg = true ∨ ∃ first ∈ (Path.parts arg).head?, first = "." ∨ first = ".."

variable {arg p : String}

theorem not_readsAsFlag (h : ReadsAsDirectory arg) : ¬ ReadsAsFlag arg := by
  intro hflag
  obtain ⟨s, hs⟩ := List.head?_eq_some_iff.1 hflag
  rcases h with h | ⟨first, hfirst, h⟩
  · rw [Path.isAbsolute, hs] at h
    exact absurd h (by simp)
  · -- the first part of what begins with a minus does so too
    obtain ⟨l, ls, hl⟩ := List.exists_cons_of_ne_nil (Text.splitAt_ne_nil '/' s)
    have hparts : (Path.parts arg).head? = some (String.ofList ('-' :: l)) := by
      rw [Path.parts, hs, Text.splitAt, if_neg (by decide), hl]
      rfl
    obtain rfl := Option.some.inj (hparts.symm.trans hfirst)
    rcases h with h | h <;> simp [← String.toList_inj] at h

theorem directoryArgument_of_dot (h : Path.directoryOf p = ".") : directoryArgument p = "." := by
  simp [directoryArgument, h]

theorem directoryArgument_of_isAbsolute (h : Path.isAbsolute (Path.directoryOf p) = true) :
    directoryArgument p = Path.directoryOf p := by
  simp [directoryArgument, h]

theorem directoryArgument_of_relative (h : Path.directoryOf p ≠ ".")
    (habs : Path.isAbsolute (Path.directoryOf p) = false) :
    directoryArgument p = "./" ++ Path.directoryOf p := by
  simp [directoryArgument, h, habs]

theorem parts_dot_slash (dir : String) : Path.parts ("./" ++ dir) = "." :: Path.parts dir :=
  Path.parts_append_slash (q := ".") (by simp)

theorem readsAsDirectory_directoryArgument (p : String) :
    ReadsAsDirectory (directoryArgument p) := by
  by_cases hdot : Path.directoryOf p = "."
  · rw [directoryArgument_of_dot hdot]
    exact .inr ⟨".", rfl, .inl rfl⟩
  by_cases habs : Path.isAbsolute (Path.directoryOf p) = true
  · rw [directoryArgument_of_isAbsolute habs]
    exact .inl habs
  · rw [directoryArgument_of_relative hdot (Bool.eq_false_iff.2 habs)]
    exact .inr ⟨".", by rw [parts_dot_slash]; rfl, .inl rfl⟩

/-- What the toolchain is told leads through the same names as the directory itself. -/
theorem names_directoryArgument (p : String) :
    Path.names (directoryArgument p) = Path.names (Path.directoryOf p) := by
  unfold directoryArgument
  dsimp only
  split
  · rfl
  · rw [Path.names, parts_dot_slash, List.filter_cons_of_neg (by decide)]
    rfl

theorem isAbsolute_directoryArgument (p : String) :
    Path.isAbsolute (directoryArgument p) = Path.isAbsolute (Path.directoryOf p) := by
  by_cases hdot : Path.directoryOf p = "."
  · rw [directoryArgument_of_dot hdot, hdot]
  by_cases habs : Path.isAbsolute (Path.directoryOf p) = true
  · rw [directoryArgument_of_isAbsolute habs]
  · rw [directoryArgument_of_relative hdot (Bool.eq_false_iff.2 habs), Bool.eq_false_iff.2 habs]
    simp [Path.isAbsolute]

/-- The toolchain is told a path that leads to the directory itself. -/
theorem directoryAt?_directoryArgument (d : Disk) (p : String) :
    d.directoryAt? (directoryArgument p) = d.directoryAt? (Path.directoryOf p) :=
  Disk.directoryAt?_congr (names_directoryArgument p) (isAbsolute_directoryArgument p)

end Toolchain

namespace CommandLine

/-! ## The default output -/

/-- The output path if none is chosen. -/
def defaultOutput : String := "doc.go"

variable {p output : String}

theorem outputPath_of_dot (h : Path.directoryOf p = ".") (output : String) :
    outputPath p output = output := by
  simp [outputPath, h]

theorem outputPath_of_ne (h : output ≠ defaultOutput) (p : String) :
    outputPath p output = output := by
  unfold outputPath
  dsimp only
  rw [if_neg]
  simpa [defaultOutput] using fun _ => h

theorem outputPath_defaultOutput (h : Path.directoryOf p ≠ ".") :
    outputPath p defaultOutput = Path.join (Path.directoryOf p) defaultOutput := by
  unfold outputPath
  dsimp only
  rw [if_pos]
  simpa [defaultOutput] using h

theorem slash_not_mem_defaultOutput : '/' ∉ defaultOutput.toList := by
  decide

/-- The default output has the names of the directory of the input, and its own. -/
theorem names_outputPath (p : String) : Path.names (outputPath p defaultOutput) =
    Path.names (Path.directoryOf p) ++ [defaultOutput] := by
  by_cases h : Path.directoryOf p = "."
  · rw [outputPath_of_dot h, h]
    rfl
  · rw [outputPath_defaultOutput h]
    exact Path.names_join slash_not_mem_defaultOutput rfl (Path.directoryOf_ne_empty p)

theorem isAbsolute_outputPath (p : String) : Path.isAbsolute (outputPath p defaultOutput) =
    Path.isAbsolute (Path.directoryOf p) := by
  by_cases h : Path.directoryOf p = "."
  · rw [outputPath_of_dot h, h]
    rfl
  · rw [outputPath_defaultOutput h]
    exact Path.isAbsolute_join slash_not_mem_defaultOutput (Path.directoryOf_ne_empty p)

/-- The default output comes to the directory of the input. -/
theorem exists_directory_of_target {d : Disk} {place : Place}
    (h : d.target (Path.tidy (outputPath p defaultOutput)) = .ok place) :
    ∃ there, d.directoryAt? (Path.directoryOf p) = some there ∧
      place = there ++ [defaultOutput] :=
  Disk.exists_directoryAt?_of_target (names_outputPath p) (isAbsolute_outputPath p) (by decide) h

/-! ## Runs that go well -/

section Runs

variable {w : World} {a : Arguments} {args : List String} {e : Session}

/-- A run that ends well is a conversion that went well. -/
theorem convertInput_of_run [Host] (h : parse args = .convert a) (hrun : run w args = .ran 0 e) :
    ∃ s, Session.start w.disk (logSettings w a) a.logFile = .ok s ∧
      exec (convertInput w a) s = (.ok (), e) := by
  rw [run_convert h] at hrun
  cases hs : Session.start w.disk (logSettings w a) a.logFile with
  | error fault =>
    rw [hs] at hrun
    cases hrun
  | ok s =>
    rw [hs] at hrun
    refine ⟨s, rfl, ?_⟩
    dsimp only at hrun
    rcases hconvert : exec (convertInput w a) s with ⟨⟨f⟩ | ⟨⟨⟩⟩, t⟩
    · rw [hconvert] at hrun
      cases f with
      | problem p =>
        have hcode : p.exitCode = 0 := (Ending.ran.inj hrun).1
        exact absurd hcode (Nat.ne_of_gt p.exitCode_pos)
      | frontMatter | markdown | nesting | disk | toolchain => cases hrun
    · rw [hconvert] at hrun
      rw [(Ending.ran.inj hrun).2]

/-- A run has written content at a place, and has left everything else alone but its log. If the
log is kept at that very place, the record of the output follows. -/
structure Writes (w : World) (a : Arguments) (s : Session) (content : String) (place : Place)
    (e : Session) : Prop where
  out : e.out = ""
  leftAlone : LeftAlone w a (some place) e.disk
  fileAt? : e.disk.fileAt? place = some (content.toUTF8 ++
    if s.logFile = some place then (s.log.text [wrote a]).toUTF8 else ByteArray.empty)

theorem not_isLogPlace (h : a.logFile = none) (place : Place) : ¬ IsLogPlace w a place := by
  rintro ⟨path, hpath, -⟩
  rw [h] at hpath
  cases hpath

/-- A run that ends well and is to write to a file writes what it has composed, at the place that
the output path leads to. -/
theorem writes_of_run [Host] (h : parse args = .convert a) (hfile : a.toStdout = false)
    (hrun : run w args = .ran 0 e) :
    ∃ s content place, Session.start w.disk (logSettings w a) a.logFile = .ok s ∧
      Composes w a s content ∧
      s.disk.target (Path.tidy (outputPath a.input a.output)) = .ok place ∧
      Writes w a s content place e := by
  obtain ⟨s, hs, hconvert⟩ := convertInput_of_run h hrun
  obtain ⟨content, t, hcontent, hst, hwrite⟩ := convertInput_ok hconvert
  have hdelivers := delivers_of_writeOutput (fresh_of_start hs) hst hwrite
  rw [Delivers, if_neg (by simp [hfile])] at hdelivers
  obtain ⟨place, htarget, hout, hleft, hfile⟩ := hdelivers
  exact ⟨s, content, place, hs, hcontent, htarget, hout, hleft, hfile⟩

end Runs

/-! ## Commands -/

section Commands

variable {α β : Type} {w : World} {a : Arguments} {s t : Session}

/-- A stage runs no command. -/
def Quiet (m : Stage α) : Prop :=
  ∀ s, (exec m s).2.commands = s.commands

theorem Quiet.of_exec {m : Stage α} {r : Except Failure α} (hm : Quiet m)
    (h : exec m s = (r, t)) : t.commands = s.commands := by
  rw [← hm s, h]

theorem Quiet.bind {m : Stage α} {f : α → Stage β} (hm : Quiet m) (hf : ∀ x, Quiet (f x)) :
    Quiet (m >>= f) := by
  intro s
  rw [exec_bind]
  rcases h : exec m s with ⟨e | x, t⟩
  · exact hm.of_exec h
  · exact (hf x t).trans (hm.of_exec h)

theorem quiet_pure (x : α) : Quiet (pure x : Stage α) := fun _ => rfl

theorem quiet_throw (f : Failure) : Quiet (throw f : Stage α) := fun _ => rfl

theorem quiet_tell (rs : List Log.Record) : Quiet (tell rs) := fun _ => rfl

theorem quiet_get : Quiet (get : Stage Session) := fun _ => rfl

theorem quiet_readInput (w : World) (a : Arguments) : Quiet (readInput w a) := by
  unfold readInput
  split
  · exact (quiet_tell _).bind fun _ => quiet_pure _
  · refine quiet_get.bind fun s => ?_
    dsimp only
    split
    · exact quiet_throw _
    · exact quiet_throw _
    split
    · exact quiet_pure _
    · exact quiet_throw _

theorem quiet_readDocument [Host] (data : ByteArray) : Quiet (readDocument data) := by
  refine (quiet_tell _).bind fun _ => ?_
  split
  · exact quiet_throw _
  refine (quiet_tell _).bind fun _ => ?_
  split
  · exact quiet_throw _
  · exact (quiet_tell _).bind fun _ => quiet_pure _

theorem quiet_render [Host] (o : Comment.Options) (doc : Node) : Quiet (render o doc) := by
  refine (quiet_tell _).bind fun _ => ?_
  split
  · exact quiet_pure _
  · exact quiet_throw _

theorem quiet_licenseHeader (a : Arguments) : Quiet (licenseHeader a) := by
  refine quiet_get.bind fun s => ?_
  dsimp only
  split
  · exact quiet_pure _
  split
  · exact (quiet_tell _).bind fun _ => quiet_pure _
  split
  · exact quiet_throw _
  · exact (quiet_tell _).bind fun _ => quiet_pure _

theorem quiet_writeOutput (a : Arguments) (content : String) : Quiet (writeOutput a content) := by
  unfold writeOutput
  split
  · exact fun _ => rfl
  refine quiet_get.bind fun s => ?_
  split
  · exact Quiet.bind (fun _ => rfl) fun _ => quiet_tell _
  · exact quiet_throw _
  · exact quiet_throw _

theorem quiet_checkName (name : String) : Quiet (checkName name) := by
  unfold checkName
  split
  · exact fun _ => rfl
  · exact quiet_throw _

/-- The toolchain is asked if no package was chosen. -/
theorem commands_findPackage (w : World) (a : Arguments) (s : Session) :
    (exec (findPackage w a) s).2.commands =
      s.commands ++ if a.package.isEmpty then [Toolchain.command a.input] else [] := by
  unfold findPackage
  by_cases ha : a.package.isEmpty
  · simp only [ha, if_true]
    rw [exec_bind_ok (exec_modify _ s), exec_bind_ok (exec_tell _ _)]
    cases Toolchain.run w.toolchain (Toolchain.command a.input) with
    | error fault => rfl
    | ok outcome =>
      dsimp only
      cases Toolchain.nameFrom outcome with
      | ok name =>
        dsimp only
        rw [pure_bind]
        exact quiet_checkName name _
      | error p => rfl
  · simp only [ha, Bool.false_eq_true, if_false, List.append_nil]
    rw [pure_bind]
    exact quiet_checkName a.package s

/-- No command is run while the log is opened. -/
theorem commands_of_start {d : Disk} {log : Log.Settings} {logFile : Option String}
    (h : Session.start d log logFile = .ok s) : s.commands = [] := by
  unfold Session.start at h
  dsimp only at h
  split at h
  · cases h
    rfl
  split at h
  · cases h
    rfl
  unfold Session.openLog at h
  split at h <;> cases h <;> rfl

/-- A run that ends well has asked the toolchain about the directory of its input, once, or has run
no command if the package was chosen. -/
theorem commands_of_run [Host] {args : List String} {e : Session} (h : parse args = .convert a)
    (hrun : run w args = .ran 0 e) :
    e.commands = if a.package.isEmpty then [Toolchain.command a.input] else [] := by
  obtain ⟨s, hs, hconvert⟩ := convertInput_of_run h hrun
  obtain ⟨data, s₁, hdata, hconvert⟩ := exec_bind_eq_ok hconvert
  obtain ⟨name, s₂, hname, hconvert⟩ := exec_bind_eq_ok hconvert
  have hrest : Quiet (do
      let doc ← readDocument data
      let body ← render { packageName := name, suppressBadges := !a.badges } doc
      let header ← licenseHeader a
      writeOutput a (header ++ body)) :=
    (quiet_readDocument data).bind fun doc => (quiet_render _ doc).bind fun body =>
      (quiet_licenseHeader a).bind fun header => quiet_writeOutput a (header ++ body)
  have hasked := commands_findPackage w a s₁
  rw [hname] at hasked
  calc e.commands = s₂.commands := hrest.of_exec hconvert
    _ = s₁.commands ++ if a.package.isEmpty then [Toolchain.command a.input] else [] := hasked
    _ = _ := by
      rw [(quiet_readInput w a).of_exec hdata, commands_of_start hs, List.nil_append]

end Commands

/-! ## One directory -/

open Toolchain in
/-- **The name of a package comes from the directory that its output goes to.** The toolchain is
told the directory part of the input path: as it is if it is absolute or a single dot, and otherwise
behind a dot and a slash, so that it is taken for no flag and no import path. The default output is
joined to the same directory part. On every disk the place of the default output is in the directory
that the toolchain is told, and a run that chooses neither name nor output has asked about the
directory in which it has written. -/
theorem name_and_output_in_one_directory [Host] :
    (∀ p : String, let dir := Path.directoryOf p
      (dir = "." → directoryArgument p = ".") ∧
      (Path.isAbsolute dir = true → directoryArgument p = dir) ∧
      (dir ≠ "." → Path.isAbsolute dir = false → directoryArgument p = "./" ++ dir) ∧
      ReadsAsDirectory (directoryArgument p) ∧ ¬ ReadsAsFlag (directoryArgument p) ∧
      (dir = "." → outputPath p defaultOutput = defaultOutput) ∧
      (dir ≠ "." → Path.directory (outputPath p defaultOutput) = dir ∧
        Path.baseName (outputPath p defaultOutput) = defaultOutput) ∧
      ∀ (d : Disk) (place : Place),
        d.target (Path.tidy (outputPath p defaultOutput)) = .ok place →
        ∃ there, d.directoryAt? (directoryArgument p) = some there ∧
          place = there ++ [defaultOutput]) ∧
    ∀ (w : World) (args : List String) (a : Arguments) (e : Session), parse args = .convert a →
      a.package = "" → a.output = defaultOutput → a.toStdout = false → run w args = .ran 0 e →
      e.commands = [["go", "list", "-f", "\x7b\x7b.Name\x7d\x7d", directoryArgument a.input]] ∧
      ∃ s content there, Session.start w.disk (logSettings w a) a.logFile = .ok s ∧
        Composes w a s content ∧ s.disk.directoryAt? (directoryArgument a.input) = some there ∧
        Writes w a s content (there ++ [defaultOutput]) e := by
  refine ⟨fun p => ?_, fun w args a e h hpackage houtput hfile hrun => ?_⟩
  · have hdirectory := readsAsDirectory_directoryArgument p
    refine ⟨directoryArgument_of_dot, directoryArgument_of_isAbsolute,
      directoryArgument_of_relative, hdirectory, not_readsAsFlag hdirectory,
      fun hdot => outputPath_of_dot hdot _, fun hdot => ?_,
      fun d place htarget => ?_⟩
    · have hne := Path.directoryOf_ne_empty p
      rw [outputPath_defaultOutput hdot]
      exact ⟨Path.directory_join (Path.bare_directoryOf p) slash_not_mem_defaultOutput hne,
        Path.baseName_join slash_not_mem_defaultOutput hne⟩
    · rw [directoryAt?_directoryArgument]
      exact exists_directory_of_target htarget
  · have hcommands := commands_of_run h hrun
    rw [hpackage] at hcommands
    obtain ⟨s, content, place, hs, hcontent, htarget, hwrites⟩ := writes_of_run h hfile hrun
    rw [houtput] at htarget
    obtain ⟨there, hthere, rfl⟩ := exists_directory_of_target htarget
    rw [← directoryAt?_directoryArgument] at hthere
    exact ⟨hcommands, s, content, there, hs, hcontent, hthere, hwrites⟩

/-- Arguments that name an input in a directory with a minus at its beginning. -/
def dashedArgs : List String :=
  ["--input=-a//b/./README.md"]

/-- What they are taken for. -/
def dashed : Arguments :=
  { input := "-a//b/./README.md" }

/-- The input, and a toolchain that knows the package. -/
def dashedWorld : World :=
  { disk := { files := [(["-a", "b", "README.md"], "# T\n".toUTF8)] }
    toolchain := fun _ => .ok (.finished 0 "render\n" "") }

theorem name_and_output_in_one_directory_dashed :
    Path.directoryOf dashed.input = "-a//b/." ∧
      Toolchain.directoryArgument dashed.input = "./-a//b/." ∧
      Path.directory (outputPath dashed.input "doc.go") = "-a//b/." ∧
      parse dashedArgs = .convert dashed ∧ dashed.package = "" ∧
      dashed.output = defaultOutput ∧ dashed.toStdout = false ∧
      ∃ e, run dashedWorld dashedArgs = .ran 0 e ∧
        e.commands = [["go", "list", "-f", "\x7b\x7b.Name\x7d\x7d", "./-a//b/."]] ∧
        (e.disk.fileAt? ["-a", "b", "doc.go"]).isSome ∧ e.disk.fileAt? ["doc.go"] = none := by
  have hdir : Path.directoryOf dashed.input = "-a//b/." := rfl
  have hargs : parse dashedArgs = .convert dashed := rfl
  have hdot : Path.directoryOf dashed.input ≠ "." := by decide
  obtain ⟨e, hrun⟩ : ∃ e, run dashedWorld dashedArgs = .ran 0 e :=
    exists_ran_of_code? hargs (by decide +kernel)
  obtain ⟨hpath, hrunning⟩ := name_and_output_in_one_directory
  obtain ⟨-, -, hrelative, -, -, -, hparts, -⟩ := hpath dashed.input
  obtain ⟨hcommands, s, content, there, hs, -, hthere, hwrites⟩ :=
    hrunning dashedWorld dashedArgs dashed e hargs rfl rfl rfl hrun
  have harg : Toolchain.directoryArgument dashed.input = "./-a//b/." := hrelative hdot rfl
  obtain rfl : { disk := dashedWorld.disk, log := logSettings dashedWorld dashed } = s :=
    Except.ok.inj hs
  obtain rfl : ["-a", "b"] = there := by
    have hplace : dashedWorld.disk.directoryAt? "./-a//b/." = some ["-a", "b"] := rfl
    rw [harg] at hthere
    exact Option.some.inj (hplace.symm.trans hthere)
  refine ⟨hdir, harg, (hparts hdot).1, hargs, rfl, rfl, rfl, e, hrun, hcommands, ?_, ?_⟩
  · rw [show ["-a", "b", "doc.go"] = ["-a", "b"] ++ [defaultOutput] from rfl, hwrites.fileAt?]
    rfl
  · exact hwrites.leftAlone.fileAt? ["doc.go"] (by decide) (not_isLogPlace rfl _)

end CommandLine

end PackageDoc
