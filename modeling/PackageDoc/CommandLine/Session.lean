import PackageDoc.Failure
import PackageDoc.Log

/-!
# Sessions

What a run has done so far: the files as they stand, what was written to either stream, and the
commands that were run. Log records are written at once, to the stream for errors and to the log
file if there is one, so that whatever is read later shows them.
-/

namespace PackageDoc.CommandLine

/-- What a run has done so far. -/
structure Session where
  disk : Disk
  log : Log.Settings
  out : String := ""
  err : String := ""
  commands : List (List String) := []
  /-- Where the log file stands. -/
  logFile : Option Place := none
  deriving Inhabited

namespace Session

/-- A disk with a text added at the end of a file. -/
def append (d : Disk) (place : Place) (s : String) : Disk :=
  d.put place (((d.fileAt? place).getD ByteArray.empty) ++ s.toUTF8)

/-- The session after some records. -/
def tell (rs : List Log.Record) (s : Session) : Session :=
  let text := s.log.text rs
  { s with
    err := s.err ++ text
    disk := match s.logFile with
      | none => s.disk
      | some place => append s.disk place text }

/-- The session with a log file, which is made if it is not there. A path that no file can have is
refused; any other one that cannot be written is only told about. -/
def openLog (path : String) (s : Session) : Except DiskFault Session :=
  match s.disk.target (Path.collapse path) with
  | .ok place =>
    .ok ({ s with disk := append s.disk place "", logFile := some place }.tell
      [Log.fileOpened path])
  | .error .badPath => .error .badPath
  | .error fault => .ok (s.tell [Log.fileRefused path (fault.message path)])

/-- A session with nothing done but its log opened. An empty path asks for no log file. -/
def start (d : Disk) (log : Log.Settings) (logFile : Option String) : Except DiskFault Session :=
  let s : Session := { disk := d, log }
  match logFile with
  | none => .ok s
  | some path => if path.isEmpty then .ok s else s.openLog path

/-! ## Lemmas -/

/-- Records leave everything alone but the log. -/
theorem tell_out (rs : List Log.Record) (s : Session) : (s.tell rs).out = s.out := rfl

/-- Records change no file but the log file. -/
theorem fileAt?_tell (rs : List Log.Record) (s : Session) {p : Place}
    (h : ∀ q, s.logFile = some q → (p == q) = false) :
    (s.tell rs).disk.fileAt? p = s.disk.fileAt? p := by
  unfold tell
  cases hl : s.logFile with
  | none => rfl
  | some q => exact Disk.fileAt?_put_of_ne _ (h q hl) _

end Session

end PackageDoc.CommandLine
