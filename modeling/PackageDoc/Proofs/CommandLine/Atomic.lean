import PackageDoc.Proofs.CommandLine.Stages

/-!
# A run does everything or nothing

A run is six parts in a row, the last of which writes. A part that fails leaves nothing but log
records, and so do the five parts before the last one when they go well; so a run whose parts do not
all go well has written nothing, and its exit code is that of the first part that failed.

    convertInput w a = (fun _ => ()) <$> performAll w a {} Part.all    (convertInput_eq_performAll)
    perform_error        a part that fails leaves no output, and its problems have its exit code
    performAll_error     parts that fail do so in one of them, and those before it went well
    run_all_or_nothing   either way, for a whole run

The license is read when the log may have grown, and so is the file that is written: both may be the
log file itself.
-/

namespace PackageDoc.CommandLine

/-! ## Parts -/

/-- A part of a run, in the order in which they are done. -/
inductive Part where
  | input
  | packageName
  | reading
  | rendering
  | license
  | writing
  deriving Repr, DecidableEq, Inhabited

namespace Part

/-- The parts of a run in their order. -/
def all : List Part :=
  [input, packageName, reading, rendering, license, writing]

/-- The exit code of a run that this part of it ended with a problem. -/
def code : Part → Nat
  | input => 4
  | packageName => 3
  | reading => 6
  | rendering => 7
  | license => 4
  | writing => 4

end Part

/-- What the parts of a run have made so far. -/
structure Draft where
  data : ByteArray := ByteArray.empty
  packageName : String := ""
  document : Node := default
  body : String := ""
  header : String := ""
  deriving Inhabited

/-- Does one part of a run. -/
def Part.perform [Host] (w : World) (a : Arguments) (d : Draft) : Part → Stage Draft
  | input => (fun data => { d with data }) <$> readInput w a
  | packageName => (fun packageName => { d with packageName }) <$> findPackage w a
  | reading => (fun document => { d with document }) <$> readDocument d.data
  | rendering =>
    (fun body => { d with body }) <$>
      render { packageName := d.packageName, suppressBadges := !a.badges } d.document
  | license => (fun header => { d with header }) <$> licenseHeader a
  | writing => (fun _ => d) <$> writeOutput a (d.header ++ d.body)

/-- Does parts of a run one after another. -/
def performAll [Host] (w : World) (a : Arguments) (d : Draft) (parts : List Part) : Stage Draft :=
  parts.foldlM (Part.perform w a) d

/-- A conversion is all its parts, one after another. -/
theorem convertInput_eq_performAll [Host] (w : World) (a : Arguments) :
    convertInput w a = (fun _ => ()) <$> performAll w a {} Part.all := by
  simp [convertInput, performAll, Part.all, Part.perform, List.foldlM_cons, bind_map_left,
    map_bind, Functor.map_map]

/-! ## Exit codes -/

section Codes

variable {w : World} {d : Disk} {a : Arguments} {p : Problem}

theorem exitCode_of_inputOf (h : inputOf w d a = .error (.problem p)) :
    p.exitCode = Part.input.code := by
  unfold inputOf at h
  split at h
  · cases h
  · dsimp only at h
    split at h
    · cases h
    · cases h
      rfl
    · cases hread : d.read (Path.tidy a.input) with
      | ok data => rw [hread] at h; cases h
      | error fault =>
        rw [hread] at h
        cases h
        rfl

theorem exitCode_of_nameFrom {o : Toolchain.Outcome} (h : Toolchain.nameFrom o = .error p) :
    p.exitCode = Part.packageName.code := by
  unfold Toolchain.nameFrom at h
  split at h
  · cases h
    rfl
  split at h
  · cases h
    rfl
  split at h <;> cases h
  rfl

theorem exitCode_of_validate {name : String}
    (h : (PackageName.validate name).mapError (fun fault => Failure.problem fault.problem) =
      .error (.problem p)) : p.exitCode = Part.packageName.code := by
  cases hname : PackageName.validate name with
  | ok name => rw [hname] at h; cases h
  | error fault =>
    rw [hname] at h
    cases h
    rfl

theorem exitCode_of_packageOf (h : packageOf w a = .error (.problem p)) :
    p.exitCode = Part.packageName.code := by
  unfold packageOf at h
  dsimp only at h
  split at h
  · split at h
    · cases h
    · rename_i outcome _
      cases hname : Toolchain.nameFrom outcome with
      | error q =>
        rw [hname] at h
        cases h
        exact exitCode_of_nameFrom hname
      | ok name =>
        rw [hname] at h
        exact exitCode_of_validate h
  · exact exitCode_of_validate h

theorem exitCode_of_readText [Host] {o : Markdown.Options} {s : List Char}
    (h : readText o s = .error (.problem p)) : p.exitCode = Part.reading.code := by
  unfold readText at h
  split at h
  · unfold readExtracted at h
    split at h <;> cases h
  · next fault _ => cases fault <;> cases h <;> rfl

theorem exitCode_of_renderDocument [Host] {o : Comment.Options} {doc : Node}
    (h : renderDocument o doc = .error (.problem p)) : p.exitCode = Part.rendering.code := by
  unfold renderDocument at h
  split at h
  · cases h
  · split at h <;> cases h
    rfl

theorem exitCode_of_headerOf (h : headerOf d a = .error (.problem p)) :
    p.exitCode = Part.license.code := by
  unfold headerOf at h
  split at h
  · cases hr : License.read d a.licenseFile with
    | ok data => rw [hr] at h; cases h
    | error failure =>
      rw [hr] at h
      cases h
      unfold License.read at hr
      dsimp only at hr
      split at hr <;> cases hr <;> rfl
  · cases h

end Codes

/-! ## One part -/

/-- What is made of a result does not fail in a way of its own. -/
theorem error_of_map {α β : Type} {r : Except Failure α} {g : α → β} {f : Failure}
    (h : r.map g = .error f) : r = .error f := by
  cases r with
  | ok x => cases h
  | error e => cases h; rfl

section OnePart

variable [Host] {w : World} {a : Arguments} {part : Part} {d d' : Draft} {s t : Session}

/-- A part before the last one only looks and tells, and its problems have its exit code. -/
theorem settles_perform (w : World) (a : Arguments) (hp : part ≠ .writing) (d : Draft)
    (s : Session) :
    ∃ r, Settles (part.perform w a d) s r ∧
      ∀ p, r = .error (.problem p) → p.exitCode = part.code := by
  cases part with
  | input =>
    exact ⟨_, (settles_readInput w a s).map _, fun _ h => exitCode_of_inputOf (error_of_map h)⟩
  | packageName =>
    exact ⟨_, (settles_findPackage w a s).map _, fun _ h => exitCode_of_packageOf (error_of_map h)⟩
  | reading =>
    exact ⟨_, (settles_readDocument _ s).map _, fun _ h => exitCode_of_readText (error_of_map h)⟩
  | rendering =>
    exact ⟨_, (settles_render _ _ s).map _, fun _ h => exitCode_of_renderDocument (error_of_map h)⟩
  | license =>
    exact ⟨_, (settles_licenseHeader a s).map _, fun _ h => exitCode_of_headerOf (error_of_map h)⟩
  | writing => exact absurd rfl hp

theorem onlyLogged_of_perform (hp : part ≠ .writing)
    (h : exec (part.perform w a d) s = (.ok d', t)) : s.OnlyLogged t := by
  obtain ⟨r, hr, -⟩ := settles_perform w a hp d s
  exact (hr.of_exec h).2

/-- A part that fails leaves no output, also the one that writes, and its problems have its exit
code. -/
theorem perform_error {f : Failure} (h : exec (part.perform w a d) s = (.error f, t)) :
    s.OnlyLogged t ∧ ∀ p, f = .problem p → p.exitCode = part.code := by
  by_cases hp : part = .writing
  · subst hp
    rw [Part.perform, exec_map] at h
    cases hw : exec (writeOutput a (d.header ++ d.body)) s with
    | mk r u =>
      rw [hw] at h
      cases r with
      | ok _ => cases h
      | error g =>
        cases h
        obtain ⟨rfl, hcode⟩ := writeOutput_error hw
        exact ⟨.refl _, hcode⟩
  · obtain ⟨r, hr, hcode⟩ := settles_perform w a hp d s
    obtain ⟨rfl, hst⟩ := hr.of_exec h
    exact ⟨hst, fun p hf => hcode p (by rw [hf])⟩

end OnePart

/-! ## All parts -/

section AllParts

variable [Host] {w : World} {a : Arguments} {parts : List Part} {d d' : Draft} {s t : Session}

/-- Parts that went well have written nothing if writing is not among them. -/
theorem onlyLogged_of_performAll (hp : Part.writing ∉ parts)
    (h : exec (performAll w a d parts) s = (.ok d', t)) : s.OnlyLogged t := by
  induction parts generalizing d s with
  | nil =>
    cases h
    exact .refl _
  | cons part parts ih =>
    obtain ⟨hne, hp⟩ := not_or.1 (mt List.mem_cons.2 hp)
    obtain ⟨e, u, hpart, h⟩ := exec_bind_eq_ok h
    exact (onlyLogged_of_perform (Ne.symm hne) hpart).trans (ih hp h)

/-- Parts that did not all go well ended in one of them, and those before it went well. -/
theorem performAll_error {f : Failure} (h : exec (performAll w a d parts) s = (.error f, t)) :
    ∃ before part after e u, parts = before ++ part :: after ∧
      exec (performAll w a d before) s = (.ok e, u) ∧
      exec (part.perform w a e) u = (.error f, t) := by
  -- over the parts that are left; `d` and `s` are what those before them came to
  induction parts generalizing d s with
  | nil => cases h
  | cons part parts ih =>
    cases hpart : exec (part.perform w a d) s with
    | mk r u =>
      cases r with
      | error g =>
        obtain ⟨rfl, rfl⟩ : g = f ∧ u = t := by
          simpa using (exec_bind_error hpart).symm.trans h
        exact ⟨[], part, parts, d, s, rfl, rfl, hpart⟩
      | ok e =>
        obtain ⟨before, part', after, e', u', rfl, hbefore, hfail⟩ :=
          ih ((exec_bind_ok hpart).symm.trans h)
        exact ⟨part :: before, part', after, e', u', rfl, (exec_bind_ok hpart).trans hbefore, hfail⟩

end AllParts

/-! ## Before the parts -/

/-- The place where a run keeps its log file. -/
def IsLogPlace (w : World) (a : Arguments) (place : Place) : Prop :=
  ∃ path, a.logFile = some path ∧ path.isEmpty = false ∧
    w.disk.target (Path.collapse path) = .ok place

/-- A run has left the directories and the files as it found them, and what may be done with them,
but for its log and the file at the place it has written to, if there is one. -/
structure LeftAlone (w : World) (a : Arguments) (written : Option Place) (d : Disk) : Prop where
  directories : d.directories = w.disk.directories
  access : d.access = w.disk.access
  fileAt? : ∀ place, written ≠ some place → ¬ IsLogPlace w a place →
    d.fileAt? place = w.disk.fileAt? place

/-- A session in which a run has done nothing but keep its log. -/
structure Fresh (w : World) (a : Arguments) (s : Session) : Prop where
  out : s.out = ""
  leftAlone : LeftAlone w a none s.disk
  logOpen : s.LogOpen
  logFile : ∀ place, s.logFile = some place → IsLogPlace w a place

theorem Fresh.of_onlyLogged {w : World} {a : Arguments} {s t : Session} (h : Fresh w a s)
    (ht : s.OnlyLogged t) : Fresh w a t where
  out := ht.out.trans h.out
  leftAlone.directories := ht.directories.trans h.leftAlone.directories
  leftAlone.access := ht.access.trans h.leftAlone.access
  leftAlone.fileAt? place hw hl :=
    (ht.fileAt? place fun hp => hl (h.logFile place hp)).trans (h.leftAlone.fileAt? place hw hl)
  logOpen := ht.logOpen h.logOpen
  logFile place hp := h.logFile place (ht.logFile ▸ hp)

/-- A session that opens its log is fresh. -/
theorem fresh_of_start {w : World} {a : Arguments} {s : Session}
    (h : Session.start w.disk (logSettings w a) a.logFile = .ok s) : Fresh w a s := by
  have hplain : Fresh w a { disk := w.disk, log := logSettings w a } :=
    ⟨rfl, ⟨rfl, rfl, fun _ _ _ => rfl⟩, fun _ hq => (by cases hq), fun _ hq => (by cases hq)⟩
  unfold Session.start at h
  dsimp only at h
  split at h
  · cases h
    exact hplain
  next path ha =>
  split at h
  · cases h
    exact hplain
  next hempty =>
  unfold Session.openLog at h
  split at h
  · next place hplace =>
    cases h
    have hlog : IsLogPlace w a place := ⟨path, ha, by simpa using hempty, hplace⟩
    refine Fresh.of_onlyLogged ?_ (Session.onlyLogged_tell _ _)
    refine ⟨rfl, ⟨rfl, rfl, fun p _ hp => ?_⟩, fun q hq => ?_, fun q hq => ?_⟩
    · refine Disk.fileAt?_put_of_ne _ ?_ _
      have hne : p ≠ place := fun h => hp (h ▸ hlog)
      simpa using hne
    · cases hq
      simp only [Session.append, Disk.fileAt?_put_self, Option.isSome_some]
    · cases hq
      exact hlog
  · cases h
  · cases h
    exact hplain.of_onlyLogged (Session.onlyLogged_tell _ _)

/-! ## A whole run -/

/-- The part that ends a run by this failure: it fails after those before it went well. -/
def FailsFirst [Host] (w : World) (a : Arguments) (s : Session) (part : Part) (f : Failure) :
    Prop :=
  ∃ before after d t u, Part.all = before ++ part :: after ∧
    exec (performAll w a {} before) s = (.ok d, t) ∧ exec (part.perform w a d) t = (.error f, u)

/-- The content that a run writes: the license header followed by the rendered text. -/
def Composes [Host] (w : World) (a : Arguments) (s : Session) (content : String) : Prop :=
  ∃ data packageName doc body header t,
    inputOf w s.disk a = .ok data ∧
    packageOf w a = .ok packageName ∧
    readText {} (Text.decode data).toList = .ok doc ∧
    renderDocument { packageName, suppressBadges := !a.badges } doc = .ok body ∧
    s.OnlyLogged t ∧ headerOf t.disk a = .ok header ∧
    content = header ++ body

/-- Content has come to where it was to go, and to no other place. If the log is kept in the very
file that was written, the record of it follows. -/
def Delivers (w : World) (a : Arguments) (s : Session) (content : String) (e : Session) : Prop :=
  if a.toStdout then e.out = content ∧ LeftAlone w a none e.disk
  else ∃ place, s.disk.target (Path.tidy (outputPath a.input a.output)) = .ok place ∧
    e.out = "" ∧ LeftAlone w a (some place) e.disk ∧
    e.disk.fileAt? place = some (content.toUTF8 ++
      if s.logFile = some place then (s.log.text [wrote a]).toUTF8 else ByteArray.empty)

/-- Writing comes last, so it is not among the parts before another one. -/
theorem writing_not_mem {before after : List Part} {part : Part}
    (h : Part.all = before ++ part :: after) : Part.writing ∉ before := by
  have hdrop := congrArg List.dropLast h
  rw [List.dropLast_append_of_ne_nil (List.cons_ne_nil part after)] at hdrop
  intro hw
  have hmem : Part.writing ∈ Part.all.dropLast := hdrop ▸ List.mem_append_left _ hw
  revert hmem
  decide

/-- A conversion that went well has written what its parts before have made. -/
theorem convertInput_ok [Host] {w : World} {a : Arguments} {s e : Session}
    (h : exec (convertInput w a) s = (.ok (), e)) :
    ∃ content t, Composes w a s content ∧ s.OnlyLogged t ∧
      exec (writeOutput a content) t = (.ok (), e) := by
  obtain ⟨data, s₁, hdata, h⟩ := exec_bind_eq_ok h
  obtain ⟨packageName, s₂, hname, h⟩ := exec_bind_eq_ok h
  obtain ⟨doc, s₃, hdoc, h⟩ := exec_bind_eq_ok h
  obtain ⟨body, s₄, hbody, h⟩ := exec_bind_eq_ok h
  obtain ⟨header, s₅, hheader, h⟩ := exec_bind_eq_ok h
  obtain ⟨hdata, h₁⟩ := (settles_readInput w a s).of_exec hdata
  obtain ⟨hname, h₂⟩ := (settles_findPackage w a s₁).of_exec hname
  obtain ⟨hdoc, h₃⟩ := (settles_readDocument data s₂).of_exec hdoc
  obtain ⟨hbody, h₄⟩ := (settles_render _ doc s₃).of_exec hbody
  obtain ⟨hheader, h₅⟩ := (settles_licenseHeader a s₄).of_exec hheader
  have h₁₄ := h₁.trans (h₂.trans (h₃.trans h₄))
  exact ⟨header ++ body, s₅, ⟨data, packageName, doc, body, header, s₄, hdata.symm, hname.symm,
    hdoc.symm, hbody.symm, h₁₄, hheader.symm, rfl⟩, h₁₄.trans h₅, h⟩

/-- Content that was written in a session that only kept its log has been delivered. -/
theorem delivers_of_writeOutput {w : World} {a : Arguments} {s t e : Session} {content : String}
    (hs : Fresh w a s) (hst : s.OnlyLogged t)
    (h : exec (writeOutput a content) t = (.ok (), e)) : Delivers w a s content e := by
  have ht := hs.of_onlyLogged hst
  unfold Delivers
  cases ha : a.toStdout with
  | true =>
    rw [exec_writeOutput_of_toStdout ha] at h
    cases h
    exact ⟨by simp [ht.out], ht.leftAlone⟩
  | false =>
    cases hp : t.disk.target (Path.tidy (outputPath a.input a.output)) with
    | error fault =>
      obtain ⟨f, hf, -⟩ := exec_writeOutput_of_fault ha content hp
      rw [hf] at h
      cases h
    | ok place =>
      rw [exec_writeOutput_of_target ha content hp] at h
      cases h
      have htell := Session.onlyLogged_tell [wrote a]
        { t with disk := t.disk.put place content.toUTF8 }
      have hput := Disk.fileAt?_put_self t.disk place content.toUTF8
      refine ⟨place, (hst.target hs.logOpen _).symm.trans hp, htell.out.trans ht.out,
        ⟨htell.directories.trans ht.leftAlone.directories,
          htell.access.trans ht.leftAlone.access, fun p hw hl => ?_⟩, ?_⟩
      · have hne : p ≠ place := fun h => hw (h ▸ rfl)
        calc _ = (t.disk.put place content.toUTF8).fileAt? p :=
              htell.fileAt? p fun h => hl (ht.logFile p h)
          _ = t.disk.fileAt? p := Disk.fileAt?_put_of_ne _ (by simpa using hne) _
          _ = w.disk.fileAt? p := ht.leftAlone.fileAt? p (by simp) hl
      · -- the record of the output comes after it if the output is the log file
        rw [← hst.logFile, ← hst.log]
        split
        · next hl => exact Session.fileAt?_tell_logFile [wrote a] hl hput
        · next hl => exact (htell.fileAt? place hl).trans (by simpa using hput)

/-- A conversion that failed did so in a first part, and has only kept its log. -/
theorem convertInput_error [Host] {w : World} {a : Arguments} {s e : Session} {f : Failure}
    (h : exec (convertInput w a) s = (.error f, e)) :
    ∃ part, FailsFirst w a s part f ∧ s.OnlyLogged e ∧
      ∀ p, f = .problem p → p.exitCode = part.code := by
  rw [convertInput_eq_performAll, exec_map] at h
  cases hall : exec (performAll w a {} Part.all) s with
  | mk r t =>
    rw [hall] at h
    cases r with
    | ok _ => cases h
    | error g =>
      cases h
      obtain ⟨before, part, after, d, u, hparts, hbefore, hfail⟩ := performAll_error hall
      obtain ⟨hlast, hcode⟩ := perform_error hfail
      have hfirst := onlyLogged_of_performAll (writing_not_mem hparts) hbefore
      exact ⟨part, ⟨before, after, d, u, _, hparts, hbefore, hfail⟩, hfirst.trans hlast, hcode⟩

/-- A problem ends a run with its exit code, and is told about. -/
theorem conclude_problem (p : Problem) (s : Session) :
    ∃ e, conclude (.error (.problem p), s) = .ran p.exitCode e ∧ s.OnlyLogged e :=
  ⟨_, rfl, (Session.onlyLogged_tell _ s).aside _ s.commands⟩

/-- The exit code of a run, if it ends with one. -/
def Ending.code? : Ending → Option Nat
  | .asked code _ => some code
  | .ran code _ => some code
  | .broken .. => none

/-- A run that converts something opens its log first. -/
theorem run_convert [Host] {w : World} {args : List String} {a : Arguments}
    (h : parse args = .convert a) :
    run w args = match Session.start w.disk (logSettings w a) a.logFile with
      | .error fault => .broken (.disk fault) { disk := w.disk, log := logSettings w a }
      | .ok s => conclude (exec (convertInput w a) s) := by
  simp only [run, h]
  rfl

/-- A conversion with an exit code has run to its end. -/
theorem exists_ran_of_code? [Host] {w : World} {args : List String} {a : Arguments} {code : Nat}
    (h : parse args = .convert a) (hcode : (run w args).code? = some code) :
    ∃ e, run w args = .ran code e := by
  have hconclude (r : Except Failure Unit × Session) (hr : (conclude r).code? = some code) :
      ∃ e, conclude r = .ran code e := by
    rcases r with ⟨⟨p | _ | _ | _ | _ | _⟩ | _, s⟩ <;> cases hr <;> exact ⟨_, rfl⟩
  rw [run_convert h] at hcode ⊢
  cases hs : Session.start w.disk (logSettings w a) a.logFile with
  | error fault =>
    rw [hs] at hcode
    cases hcode
  | ok s =>
    rw [hs] at hcode
    exact hconclude _ hcode

/-- A run whose conversion fails has written nothing: its output stream is empty and all but its
log is as it was found. If the failure is a problem, the exit code is that of the first part that
failed. A run whose conversion goes well has the exit code zero, and its content has come to one
place and nowhere else. A log file that cannot even be named ends a run before its conversion. -/
theorem run_all_or_nothing [Host] (w : World) {args : List String} {a : Arguments}
    (h : parse args = .convert a) :
    match Session.start w.disk (logSettings w a) a.logFile with
    | .error fault => ∃ e, run w args = .broken (.disk fault) e ∧ e.out = "" ∧ e.disk = w.disk
    | .ok s =>
      match (exec (convertInput w a) s).1 with
      | .ok () => ∃ content e, run w args = .ran 0 e ∧ Composes w a s content ∧
          Delivers w a s content e
      | .error f => ∃ part e, FailsFirst w a s part f ∧ e.out = "" ∧ LeftAlone w a none e.disk ∧
          run w args = match f with
            | .problem _ => .ran part.code e
            | f => .broken f e := by
  have hrun := run_convert (w := w) h
  split
  · next fault hstart =>
    rw [hstart] at hrun
    exact ⟨_, hrun, rfl, rfl⟩
  next s hstart =>
  rw [hstart] at hrun
  dsimp only at hrun
  have hfresh := fresh_of_start hstart
  rcases hconv : exec (convertInput w a) s with ⟨⟨f⟩ | ⟨⟨⟩⟩, t⟩
  · rw [hconv] at hrun
    obtain ⟨part, hfirst, ht, hcode⟩ := convertInput_error hconv
    have hfresh := hfresh.of_onlyLogged ht
    refine ⟨part, ?_⟩
    cases f with
    | problem p =>
      obtain ⟨e, hend, he⟩ := conclude_problem p t
      have hfresh := hfresh.of_onlyLogged he
      exact ⟨e, hfirst, hfresh.out, hfresh.leftAlone, by rw [hrun, hend, hcode p rfl]⟩
    | frontMatter | markdown | nesting | disk | toolchain =>
      exact ⟨t, hfirst, hfresh.out, hfresh.leftAlone, hrun⟩
  · rw [hconv] at hrun
    obtain ⟨content, u, hcontent, hu, hwrite⟩ := convertInput_ok hconv
    exact ⟨content, t, hrun, hcontent, delivers_of_writeOutput hfresh hu hwrite⟩

/-- Arguments that name an input that is not there and a package that cannot be one. -/
def astrayArgs : List String :=
  ["--input", "gone.md", "--pkg", "type", "--output", "doc.go", "--verbose"]

/-- What they are taken for. -/
def astray : Arguments :=
  { input := "gone.md", package := "type", verbose := true }

/-- A directory that holds the output of an earlier run. -/
def astrayWorld : World :=
  { disk := { files := [(["doc.go"], "package old\n".toUTF8)] } }

/-- Arguments that convert what stands in the directory. -/
def plainArgs : List String :=
  ["--pkg", "main"]

/-- What they are taken for. -/
def plain : Arguments :=
  { package := "main" }

/-- A directory with an input, the output of an earlier run, and a license that may not be read. -/
def lockedWorld : World :=
  { disk :=
      { files := [(["README.md"], "# T\n".toUTF8), (["doc.go"], "package old\n".toUTF8),
          (["LICENSE.txt"], "MIT\n".toUTF8)]
        access := { read := fun place => place != ["LICENSE.txt"] } } }

theorem run_all_or_nothing_astray :
    (parse astrayArgs = .convert astray ∧
      (∃ p, packageOf astrayWorld astray = .error (.problem p)) ∧
      ∃ e, run astrayWorld astrayArgs = .ran 4 e ∧ e.out = "" ∧
        LeftAlone astrayWorld astray none e.disk) ∧
    parse plainArgs = .convert plain ∧
      (∃ p, headerOf lockedWorld.disk plain = .error (.problem p)) ∧
      ∃ e, run lockedWorld plainArgs = .ran 4 e ∧ e.out = "" ∧
        LeftAlone lockedWorld plain none e.disk := by
  have hleft {w : World} {args : List String} {a : Arguments} (hargs : parse args = .convert a)
      (hcode : (run w args).code? = some 4) :
      ∃ e, run w args = .ran 4 e ∧ e.out = "" ∧ LeftAlone w a none e.disk := by
    obtain ⟨e, hrun⟩ := exists_ran_of_code? hargs hcode
    refine ⟨e, hrun, ?_⟩
    have h := run_all_or_nothing w hargs
    split at h
    · obtain ⟨e', hbroken, -⟩ := h
      cases hrun.symm.trans hbroken
    split at h
    · obtain ⟨content, e', hok, -⟩ := h
      cases hrun.symm.trans hok
    · obtain ⟨part, e', -, hout, hleft, hfail⟩ := h
      rw [hrun] at hfail
      split at hfail
      · obtain ⟨-, rfl⟩ := Ending.ran.inj hfail
        exact ⟨hout, hleft⟩
      · cases hfail
  exact ⟨⟨rfl, ⟨(PackageName.Fault.keyword "type").problem, rfl⟩, hleft rfl (by decide +kernel)⟩,
    rfl, ⟨_, rfl⟩, hleft rfl (by decide +kernel)⟩

end PackageDoc.CommandLine
