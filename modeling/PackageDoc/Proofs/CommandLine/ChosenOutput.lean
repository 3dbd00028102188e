import PackageDoc.Proofs.CommandLine.Placement
import PackageDoc.Proofs.CommandLine.Spelling

/-!
# A chosen output

What a run has composed goes to the output that its arguments give. One output is an exception: the
one that counts if none is given. It is told by its value, so giving it is no different from giving
none, and it stands next to the input even then.

    x ≠ defaultOutput ∨ directoryOf p = "." → outputPath p x = x          (outputPath_of_chosen)
-/

namespace PackageDoc.CommandLine

variable {w : World} {args : List String} {a : Arguments} {x : String} {e : Session}

/-- An output is where it is chosen to be, unless it looks like the default one and the input has a
directory part. -/
theorem outputPath_of_chosen {p : String} (h : x ≠ defaultOutput ∨ Path.directoryOf p = ".") :
    outputPath p x = x := by
  rcases h with h | h
  · exact outputPath_of_ne h p
  · exact outputPath_of_dot h x

/-- **A run that ends well writes to the output that its arguments give, and to nothing else.** The
path of the output is read in its tidy form, which leads to the place that the path itself leads to
if it leads to any. Only the default output is not taken for chosen: the run writes it in the
directory of its input, which is what was asked for exactly if that is the working directory. -/
theorem run_writes_chosen_output [Host] (h : parse args = .convert a) (hx : GivesOutput x args)
    (hfile : a.toStdout = false) (hrun : run w args = .ran 0 e) :
    ∃ s content place, Session.start w.disk (logSettings w a) a.logFile = .ok s ∧
      Composes w a s content ∧ Writes w a s content place e ∧
      (x ≠ defaultOutput ∨ Path.directoryOf a.input = "." →
        s.disk.target (Path.tidy x) = .ok place) ∧
      (x = defaultOutput → ∃ there, s.disk.directoryAt? (Path.directoryOf a.input) = some there ∧
        place = there ++ [defaultOutput]) ∧
      ∀ q, s.disk.target x = .ok q → (q = place ↔
        x ≠ defaultOutput ∨ s.disk.directoryAt? (Path.directoryOf a.input) = some []) := by
  obtain ⟨s, content, place, hs, hcontent, htarget, hwrites⟩ := writes_of_run h hfile hrun
  rw [output_of_givesOutput h hx] at htarget
  refine ⟨s, content, place, hs, hcontent, hwrites, ?_, ?_, fun q hq => ?_⟩
  · intro hchosen
    rwa [outputPath_of_chosen hchosen] at htarget
  · rintro rfl
    exact exists_directory_of_target htarget
  by_cases hdefault : x = defaultOutput
  · subst hdefault
    obtain ⟨there, hthere, rfl⟩ := exists_directory_of_target htarget
    obtain rfl := Disk.target_of_name slash_not_mem_defaultOutput rfl (by decide) hq
    simp [hthere]
  · rw [outputPath_of_ne hdefault] at htarget
    have hplace : q = place := Except.ok.inj ((Disk.target_tidy hq).symm.trans htarget)
    exact iff_of_true hplace (.inl hdefault)

/-- An input that is not in the working directory. -/
def nestedWorld : World :=
  { disk := { files := [(["pkg", "README.md"], "# T\n".toUTF8)] } }

/-- Arguments that give an output by the shortest name of its option. -/
def chosenArgs : List String :=
  ["--input", "pkg/README.md", "--o=out.go", "--pkg", "main", "--no-license"]

/-- What they are taken for. -/
def chosen : Arguments :=
  { input := "pkg/README.md", output := "out.go", package := "main", license := false }

theorem run_writes_chosen_output_shortest :
    parse chosenArgs = .convert chosen ∧ GivesOutput "out.go" chosenArgs ∧
      chosen.toStdout = false ∧ ∃ e, run nestedWorld chosenArgs = .ran 0 e ∧
        (e.disk.fileAt? ["out.go"]).isSome ∧ e.disk.fileAt? ["pkg", "doc.go"] = none := by
  have hargs : parse chosenArgs = .convert chosen := rfl
  have hname : "--o" ∈ outputNames := by decide
  have hgives : GivesOutput "out.go" chosenArgs :=
    .attached ["--input", "pkg/README.md"] ["--pkg", "main", "--no-license"]
      (.attached hname "out.go") (by decide)
  obtain ⟨e, hrun⟩ : ∃ e, run nestedWorld chosenArgs = .ran 0 e :=
    exists_ran_of_code? hargs (by decide +kernel)
  obtain ⟨s, content, place, hs, -, hwrites, hchosen, -⟩ :=
    run_writes_chosen_output hargs hgives rfl hrun
  obtain rfl : { disk := nestedWorld.disk, log := logSettings nestedWorld chosen } = s :=
    Except.ok.inj hs
  obtain rfl : ["out.go"] = place := Except.ok.inj (hchosen (.inl (by decide)))
  refine ⟨hargs, hgives, rfl, e, hrun, ?_, ?_⟩
  · rw [hwrites.fileAt?]
    rfl
  · exact hwrites.leftAlone.fileAt? ["pkg", "doc.go"] (by decide) (not_isLogPlace rfl _)

/-- Arguments that give the default output, for an input in another directory. -/
def movedArgs : List String :=
  ["--input", "pkg/README.md", "--output", "doc.go", "--pkg", "main", "--no-license"]

/-- What they are taken for. -/
def moved : Arguments :=
  { input := "pkg/README.md", package := "main", license := false }

/-- The default output is not written where it is chosen to be if the input is in another
directory. -/
theorem exists_output_moved :
    ¬ ∀ (w : World) (args : List String) (a : Arguments) (x : String) (e : Session),
      parse args = .convert a → GivesOutput x args → a.toStdout = false →
      run w args = .ran 0 e →
      ∃ s content place, Session.start w.disk (logSettings w a) a.logFile = .ok s ∧
        Composes w a s content ∧ s.disk.target (Path.tidy x) = .ok place ∧
        Writes w a s content place e := by
  intro hall
  have hargs : parse movedArgs = .convert moved := rfl
  have hname : "--output" ∈ outputNames := by decide
  have hgives : GivesOutput "doc.go" movedArgs :=
    .behind ["--input", "pkg/README.md"] ["--pkg", "main", "--no-license"]
      (.alone hname) (by decide)
  obtain ⟨e, hrun⟩ : ∃ e, run nestedWorld movedArgs = .ran 0 e :=
    exists_ran_of_code? hargs (by decide +kernel)
  have hstart {s : Session}
      (hs : Session.start nestedWorld.disk (logSettings nestedWorld moved) moved.logFile = .ok s) :
      s = { disk := nestedWorld.disk, log := logSettings nestedWorld moved } :=
    (Except.ok.inj hs).symm
  -- the output stands next to the input, so nothing is where it was chosen to be
  obtain ⟨s, content, place, hs, -, htarget, hwrites⟩ := writes_of_run hargs rfl hrun
  obtain rfl := hstart hs
  obtain rfl : ["pkg", "doc.go"] = place := Except.ok.inj htarget
  have hnone : e.disk.fileAt? ["doc.go"] = none :=
    hwrites.leftAlone.fileAt? ["doc.go"] (by decide) (not_isLogPlace rfl _)
  obtain ⟨s, content, place, hs, -, htarget, hwrites⟩ :=
    hall nestedWorld movedArgs moved "doc.go" e hargs hgives rfl hrun
  obtain rfl := hstart hs
  obtain rfl : ["doc.go"] = place := Except.ok.inj htarget
  rw [hwrites.fileAt?] at hnone
  cases hnone

end PackageDoc.CommandLine
