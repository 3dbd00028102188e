import PackageDoc.CommandLine.Run
import PackageDoc.Proofs.Path

/-!
# What the stages of a run come to

Every stage before the last one only looks and tells: what it comes to is a function of what it is
given and of the files as they stand, and what it leaves behind is in the log. So each stage has one
lemma, which gives its result and says that nothing else happened.

    Disk.locate_put      a path leads where it led after a file that is there gets other content
    Settles m s r        the stage `m` comes to `r` and leaves nothing but log records
    Settles.bind         ... for one stage after another
-/

namespace PackageDoc

/-! ## Files with other content -/

/-- What a path leads to once the file at a place has other content. -/
def Located.refresh (q : Place) (data : ByteArray) : Located → Located
  | .file p old => .file p (if p = q then data else old)
  | l => l

namespace Disk

/-- Whether a file is there does not depend on what it holds. -/
theorem mem_places_put {d : Disk} {q : Place} (h : (d.fileAt? q).isSome) (data : ByteArray)
    (p : Place) : p ∈ (d.put q data).files.map (·.1) ↔ p ∈ d.files.map (·.1) := by
  have hq : q ∈ d.files.map (·.1) := by
    obtain ⟨f, hf, hqf⟩ := List.lookup_isSome_iff.1 h
    exact List.mem_map.2 ⟨f, hf, (beq_iff_eq.1 hqf).symm⟩
  by_cases hp : p = q
  · subst hp
    simpa [put] using hq
  · simp [put, hp]

/-- A file with other content makes no directory. -/
theorem isDirectoryAt_put {d : Disk} {q : Place} (h : (d.fileAt? q).isSome) (data : ByteArray)
    (p : Place) : (d.put q data).isDirectoryAt p = d.isDirectoryAt p := by
  have hany (e : Disk) : (e.files.any fun f => p.isPrefixOf f.1 && p != f.1) =
      (e.files.map (·.1)).any fun r => p.isPrefixOf r && p != r := by
    rw [List.any_map]; rfl
  have hmem := mem_places_put h data
  simp only [isDirectoryAt, hany]
  congr 1
  rw [Bool.eq_iff_iff]
  simp only [List.any_eq_true, hmem]

theorem fileAt?_put {d : Disk} {q : Place} (data : ByteArray) (p : Place)
    (h : (d.fileAt? q).isSome) :
    (d.put q data).fileAt? p = (d.fileAt? p).map fun old => if p = q then data else old := by
  by_cases hp : p = q
  · subst hp
    obtain ⟨old, hold⟩ := Option.isSome_iff_exists.1 h
    simp [fileAt?_put_self, hold]
  · simp [fileAt?_put_of_ne d (show (p == q) = false by simpa using hp), hp]

/-- Names lead where they led. -/
theorem follow_put {d : Disk} {q : Place} (h : (d.fileAt? q).isSome) (data : ByteArray)
    (here : Place) (names : List String) :
    (d.put q data).follow here names = (d.follow here names).refresh q data := by
  induction names generalizing here with
  | nil => rfl
  | cons name rest ih =>
    have haccess : (d.put q data).access = d.access := rfl
    simp only [follow, ih, fileAt?_put data _ h, isDirectoryAt_put h, haccess]
    split
    · rfl
    split
    · rfl
    split
    · rfl
    split
    · rfl
    split
    · rfl
    cases d.fileAt? (here ++ [name]) with
    | none =>
      simp only [Option.map_none]
      split
      · rfl
      split <;> rfl
    | some old =>
      simp only [Option.map_some]
      split <;> rfl

theorem locate_put {d : Disk} {q : Place} (h : (d.fileAt? q).isSome) (data : ByteArray)
    (path : String) : (d.put q data).locate path = (d.locate path).refresh q data := by
  simp only [locate, follow_put h]
  repeat' split
  all_goals rfl

/-- Writing to a path writes where it would have written. -/
theorem target_put {d : Disk} {q : Place} (h : (d.fileAt? q).isSome) (data : ByteArray)
    (path : String) : (d.put q data).target path = d.target path := by
  have haccess : (d.put q data).access = d.access := rfl
  simp only [target, locate_put h, haccess]
  cases d.locate path <;> rfl

end Disk

namespace CommandLine

/-! ## Sessions that go on with nothing but their log -/

namespace Session

/-- The log file of a session is there. -/
def LogOpen (s : Session) : Prop :=
  ∀ q, s.logFile = some q → (s.disk.fileAt? q).isSome

/-- From one session to a later one nothing was written but log records and messages. -/
structure OnlyLogged (s t : Session) : Prop where
  out : t.out = s.out
  log : t.log = s.log
  logFile : t.logFile = s.logFile
  directories : t.disk.directories = s.disk.directories
  access : t.disk.access = s.disk.access
  fileAt? : ∀ p, s.logFile ≠ some p → t.disk.fileAt? p = s.disk.fileAt? p
  logOpen : s.LogOpen → t.LogOpen
  target : s.LogOpen → ∀ path, t.disk.target path = s.disk.target path

namespace OnlyLogged

variable {s t u : Session}

theorem refl (s : Session) : s.OnlyLogged s :=
  ⟨rfl, rfl, rfl, rfl, rfl, fun _ _ => rfl, id, fun _ _ => rfl⟩

theorem trans (h : s.OnlyLogged t) (h' : t.OnlyLogged u) : s.OnlyLogged u where
  out := h'.out.trans h.out
  log := h'.log.trans h.log
  logFile := h'.logFile.trans h.logFile
  directories := h'.directories.trans h.directories
  access := h'.access.trans h.access
  fileAt? p hp := (h'.fileAt? p (h.logFile ▸ hp)).trans (h.fileAt? p hp)
  logOpen hs := h'.logOpen (h.logOpen hs)
  target hs path := (h'.target (h.logOpen hs) path).trans (h.target hs path)

/-- What a session says to the error stream, and the commands it ran, are no matter. -/
theorem aside (h : s.OnlyLogged t) (err : String) (commands : List (List String)) :
    s.OnlyLogged { t with err, commands } :=
  ⟨h.out, h.log, h.logFile, h.directories, h.access, h.fileAt?, h.logOpen, h.target⟩

end OnlyLogged

/-- Records go to the log and nowhere else. -/
theorem onlyLogged_tell (rs : List Log.Record) (s : Session) : s.OnlyLogged (s.tell rs) := by
  have hout := tell_out rs s
  cases hl : s.logFile with
  | none =>
    have hdisk : (s.tell rs).disk = s.disk := by simp [tell, hl]
    exact ⟨hout, rfl, rfl, by rw [hdisk], by rw [hdisk], fun _ _ => by rw [hdisk],
      fun hs q hq => by rw [hdisk]; exact hs q hq, fun _ _ => by rw [hdisk]⟩
  | some place =>
    have hdisk : (s.tell rs).disk = append s.disk place (s.log.text rs) := by simp [tell, hl]
    refine ⟨hout, rfl, rfl, by rw [hdisk]; rfl, by rw [hdisk]; rfl, fun p hp => ?_,
      fun _ q hq => ?_, fun hs path => ?_⟩
    · exact fileAt?_tell rs s fun q hq => by
        have hpq : p ≠ q := fun h => hp (h ▸ hl ▸ hq)
        simpa using hpq
    · obtain rfl : place = q := Option.some.inj (hl.symm.trans hq)
      rw [hdisk, append, Disk.fileAt?_put_self]
      rfl
    · rw [hdisk, append, Disk.target_put (hs place hl)]

/-- Records are added at the end of the log file. -/
theorem fileAt?_tell_logFile (rs : List Log.Record) {s : Session} {place : Place}
    {data : ByteArray} (hl : s.logFile = some place) (hd : s.disk.fileAt? place = some data) :
    (s.tell rs).disk.fileAt? place = some (data ++ (s.log.text rs).toUTF8) := by
  simp only [tell, hl, append, Disk.fileAt?_put_self, hd, Option.getD_some]

end Session

/-! ## Stages -/

/-- What a stage comes to in a session, and the session after it. -/
def exec {α : Type} (m : Stage α) (s : Session) : Except Failure α × Session :=
  m.run.run s

/-- A stage comes to this, and nothing happens but that it is logged. -/
def Settles {α : Type} (m : Stage α) (s : Session) (r : Except Failure α) : Prop :=
  ∃ t, exec m s = (r, t) ∧ s.OnlyLogged t

section Stage

variable {α β : Type} {m : Stage α} {f : α → Stage β} {s t : Session} {r : Except Failure α}

theorem exec_bind : exec (m >>= f) s =
    match exec m s with
    | (.ok x, t) => exec (f x) t
    | (.error e, t) => (.error e, t) := by
  unfold exec
  rw [ExceptT.run_bind, StateT.run_bind]
  rcases m.run.run s with ⟨_ | _, _⟩ <;> rfl

theorem exec_bind_ok {x : α} (h : exec m s = (.ok x, t)) : exec (m >>= f) s = exec (f x) t := by
  rw [exec_bind, h]

theorem exec_bind_error {e : Failure} (h : exec m s = (.error e, t)) :
    exec (m >>= f) s = (.error e, t) := by
  rw [exec_bind, h]

theorem exec_map (g : α → β) : exec (g <$> m) s = ((exec m s).1.map g, (exec m s).2) := by
  rw [map_eq_pure_bind, exec_bind]
  rcases exec m s with ⟨_ | _, _⟩ <;> rfl

/-- Two stages that went well did so one after another. -/
theorem exec_bind_eq_ok {y : β} (h : exec (m >>= f) s = (.ok y, t)) :
    ∃ x u, exec m s = (.ok x, u) ∧ exec (f x) u = (.ok y, t) := by
  rw [exec_bind] at h
  split at h
  · next x u hm => exact ⟨x, u, hm, h⟩
  · cases h

theorem settles_pure (x : α) (s : Session) : Settles (pure x) s (.ok x) :=
  ⟨s, rfl, .refl s⟩

theorem Settles.bind {x : α} {q : Except Failure β} (hm : Settles m s (.ok x))
    (hf : ∀ t, s.OnlyLogged t → Settles (f x) t q) : Settles (m >>= f) s q := by
  obtain ⟨t, ht, hst⟩ := hm
  obtain ⟨u, hu, htu⟩ := hf t hst
  exact ⟨u, (exec_bind_ok ht).trans hu, hst.trans htu⟩

theorem Settles.bind_error {e : Failure} (hm : Settles m s (.error e)) :
    Settles (m >>= f) s (.error e) := by
  obtain ⟨t, ht, hst⟩ := hm
  exact ⟨t, exec_bind_error ht, hst⟩

theorem Settles.map (hm : Settles m s r) (g : α → β) : Settles (g <$> m) s (r.map g) := by
  obtain ⟨t, ht, hst⟩ := hm
  exact ⟨t, by rw [exec_map, ht], hst⟩

/-- What a stage was seen to come to is what it settles on. -/
theorem Settles.of_exec {q : Except Failure α} (hm : Settles m s r) (h : exec m s = (q, t)) :
    q = r ∧ s.OnlyLogged t := by
  obtain ⟨u, hu, hsu⟩ := hm
  obtain ⟨rfl, rfl⟩ := Prod.mk.inj (hu.symm.trans h)
  exact ⟨rfl, hsu⟩

theorem settles_throw (e : Failure) (s : Session) : Settles (throw e : Stage α) s (.error e) :=
  ⟨s, rfl, .refl s⟩

theorem exec_get (s : Session) : exec (get : Stage Session) s = (.ok s, s) := rfl

theorem exec_modify (g : Session → Session) (s : Session) :
    exec (modify g : Stage Unit) s = (.ok (), g s) := rfl

theorem exec_tell (rs : List Log.Record) (s : Session) :
    exec (tell rs) s = (.ok (), s.tell rs) := rfl

theorem settles_get (s : Session) : Settles (get : Stage Session) s (.ok s) :=
  ⟨s, exec_get s, .refl s⟩

theorem settles_tell (rs : List Log.Record) (s : Session) : Settles (tell rs) s (.ok ()) :=
  ⟨s.tell rs, exec_tell rs s, s.onlyLogged_tell rs⟩

theorem settles_ran (command : List String) (s : Session) :
    Settles (modify fun s => { s with commands := s.commands ++ [command] } : Stage Unit) s
      (.ok ()) :=
  ⟨_, exec_modify _ s, (Session.OnlyLogged.refl s).aside s.err (s.commands ++ [command])⟩

end Stage

/-! ## Input and package name -/

/-- The input of a run: what came in as a stream, taken as text once, or the content of a file. -/
def inputOf (w : World) (d : Disk) (a : Arguments) : Except Failure ByteArray :=
  if a.fromStdin then .ok (Text.decode w.stdin).toUTF8
  else
    let path := Path.tidy a.input
    match d.probe path with
    | .error fault => .error (.disk fault)
    | .ok false => .error (.problem (noInput path))
    | .ok true => (d.read path).mapError fun fault => .problem (unreadableInput path fault)

/-- The content of a file that can be read is the input from it. -/
theorem inputOf_of_read {w : World} {d : Disk} {a : Arguments} {data : ByteArray}
    (ha : a.fromStdin = false) (h : d.read (Path.tidy a.input) = .ok data) :
    inputOf w d a = .ok data := by
  obtain ⟨place, hplace, -⟩ := Disk.read_eq_ok_iff.1 h
  have hprobe : d.probe (Path.tidy a.input) = .ok true := by rw [Disk.probe, hplace]
  simp only [inputOf, ha, Bool.false_eq_true, if_false, hprobe, h, Except.mapError]

theorem settles_readInput (w : World) (a : Arguments) (s : Session) :
    Settles (readInput w a) s (inputOf w s.disk a) := by
  unfold readInput inputOf
  split
  · exact (settles_tell _ s).bind fun t _ => settles_pure _ t
  · refine (settles_get s).bind fun t _ => ?_
    dsimp only
    cases s.disk.probe (Path.tidy a.input) with
    | error fault => exact settles_throw _ t
    | ok found =>
      cases found with
      | false => exact settles_throw _ t
      | true =>
        cases s.disk.read (Path.tidy a.input) with
        | ok data => exact settles_pure data t
        | error fault => exact settles_throw _ t

/-- The name of the package: the one that was chosen, or else the one that the toolchain told. -/
def packageOf (w : World) (a : Arguments) : Except Failure String :=
  let name : Except Failure String :=
    if a.package.isEmpty then
      match Toolchain.run w.toolchain (Toolchain.command a.input) with
      | .error fault => .error (.toolchain fault)
      | .ok outcome => (Toolchain.nameFrom outcome).mapError .problem
    else .ok a.package
  name.bind fun name => (PackageName.validate name).mapError fun fault => .problem fault.problem

theorem settles_checkName (name : String) (s : Session) : Settles (checkName name) s
    ((PackageName.validate name).mapError fun fault => .problem fault.problem) := by
  unfold checkName
  cases PackageName.validate name with
  | ok name => exact settles_pure name s
  | error fault => exact settles_throw _ s

theorem settles_findPackage (w : World) (a : Arguments) (s : Session) :
    Settles (findPackage w a) s (packageOf w a) := by
  unfold findPackage packageOf
  by_cases ha : a.package.isEmpty
  · simp only [ha, if_true]
    refine (settles_ran _ s).bind fun t _ => (settles_tell _ t).bind fun u _ => ?_
    cases Toolchain.run w.toolchain (Toolchain.command a.input) with
    | error fault => exact (settles_throw (.toolchain fault) u).bind_error
    | ok outcome =>
      dsimp only
      cases Toolchain.nameFrom outcome with
      | ok name => exact settles_checkName name u
      | error p => exact (settles_throw (.problem p) u).bind_error
  · simp only [ha, Bool.false_eq_true, if_false]
    exact settles_checkName a.package s

/-! ## Document -/

section Host

variable [Host]

theorem settles_readDocument (data : ByteArray) (s : Session) :
    Settles (readDocument data) s (readText {} (Text.decode data).toList) := by
  refine (settles_tell _ s).bind fun t _ => ?_
  unfold readText
  cases FrontMatter.extract {} (Text.decode data).toList with
  | error fault => exact settles_throw _ t
  | ok e =>
    refine (settles_tell _ t).bind fun u _ => ?_
    dsimp only
    cases readExtracted {} e with
    | error failure => exact settles_throw failure u
    | ok doc => exact (settles_tell _ u).bind fun v _ => settles_pure doc v

theorem settles_render (o : Comment.Options) (doc : Node) (s : Session) :
    Settles (render o doc) s (renderDocument o doc) := by
  refine (settles_tell _ s).bind fun t _ => ?_
  cases renderDocument o doc with
  | ok body => exact settles_pure body t
  | error failure => exact settles_throw failure t

end Host

/-! ## License -/

/-- The header that the license makes; there need be no license file. -/
def headerOf (d : Disk) (a : Arguments) : Except Failure String :=
  if a.license && d.isFile a.licenseFile then
    (License.read d a.licenseFile).map fun data =>
      String.ofList (License.header (License.linesOf data))
  else .ok ""

theorem settles_licenseHeader (a : Arguments) (s : Session) :
    Settles (licenseHeader a) s (headerOf s.disk a) := by
  unfold licenseHeader headerOf
  refine (settles_get s).bind fun t _ => ?_
  dsimp only
  cases a.license with
  | false => exact settles_pure "" t
  | true =>
    cases s.disk.isFile a.licenseFile with
    | false => exact (settles_tell _ t).bind fun u _ => settles_pure "" u
    | true =>
      cases License.read s.disk a.licenseFile with
      | ok data => exact (settles_tell _ t).bind fun u _ => settles_pure _ u
      | error failure => exact settles_throw failure t

/-! ## Output -/

/-- The record that tells of the output. -/
def wrote (a : Arguments) : Log.Record :=
  record Log.info ("Wrote " ++ outputPath a.input a.output)

/-- The content goes to the output stream if that was asked for. -/
theorem exec_writeOutput_of_toStdout {a : Arguments} (ha : a.toStdout = true) (content : String)
    (s : Session) :
    exec (writeOutput a content) s = (.ok (), { s with out := s.out ++ content }) := by
  simp only [writeOutput, ha]
  rfl

/-- Otherwise it goes to the place that the output path leads to. -/
theorem exec_writeOutput_of_target {a : Arguments} (ha : a.toStdout = false) (content : String)
    {s : Session} {place : Place}
    (h : s.disk.target (Path.tidy (outputPath a.input a.output)) = .ok place) :
    exec (writeOutput a content) s =
      (.ok (), { s with disk := s.disk.put place content.toUTF8 }.tell [wrote a]) := by
  simp only [writeOutput, ha, Bool.false_eq_true, if_false]
  rw [exec_bind_ok (exec_get s)]
  simp only [Disk.write, h, Except.map]
  rw [exec_bind_ok (exec_modify _ s), exec_tell]
  rfl

/-- If the path leads to no such place, the session stays as it was. -/
theorem exec_writeOutput_of_fault {a : Arguments} (ha : a.toStdout = false) (content : String)
    {s : Session} {fault : DiskFault}
    (h : s.disk.target (Path.tidy (outputPath a.input a.output)) = .error fault) :
    ∃ f, exec (writeOutput a content) s = (.error f, s) ∧
      ∀ p, f = .problem p → p.exitCode = 4 := by
  simp only [writeOutput, ha, Bool.false_eq_true, if_false]
  rw [exec_bind_ok (exec_get s)]
  simp only [Disk.write, h, Except.map]
  cases fault with
  | badPath => exact ⟨_, rfl, fun _ hf => (by cases hf)⟩
  | _ => exact ⟨_, rfl, fun _ hf => (by cases hf; rfl)⟩

/-- Writing that fails leaves the session as it was. -/
theorem writeOutput_error {a : Arguments} {content : String} {s t : Session} {f : Failure}
    (h : exec (writeOutput a content) s = (.error f, t)) :
    t = s ∧ ∀ p, f = .problem p → p.exitCode = 4 := by
  cases ha : a.toStdout with
  | true =>
    rw [exec_writeOutput_of_toStdout ha] at h
    cases h
  | false =>
    cases hp : s.disk.target (Path.tidy (outputPath a.input a.output)) with
    | ok place =>
      rw [exec_writeOutput_of_target ha content hp] at h
      cases h
    | error fault =>
      obtain ⟨g, hg, hcode⟩ := exec_writeOutput_of_fault ha content hp
      rw [hg] at h
      cases h
      exact ⟨rfl, hcode⟩

end CommandLine

end PackageDoc
