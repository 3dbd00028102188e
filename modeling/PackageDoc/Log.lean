import PackageDoc.Unicode.Casing

/-!
# Log records

A log record has a level, the name of its source and a message. A log takes the records of its own
level and above, as one line each; in trace mode the line tells the time and the source as well.
-/

namespace PackageDoc.Log

/-! ## Levels -/

/-- How important a record is; the named levels are multiples of ten. -/
abbrev Level := Int

def debug : Level := 10
def info : Level := 20
def warning : Level := 30
def error : Level := 40
def critical : Level := 50

/-- The names by which levels are chosen; two levels have a second name. -/
def levelNames : List (String × Level) :=
  [("CRITICAL", critical), ("FATAL", critical), ("ERROR", error), ("WARNING", warning),
    ("WARN", warning), ("INFO", info), ("DEBUG", debug), ("NOTSET", 0)]

/-- How a level is written in a record. -/
def levelText (l : Level) : String :=
  match levelNames.find? fun p => p.2 == l with
  | some p => p.1
  | none => "Level " ++ toString l

/-- The name of the level in force when none is chosen. -/
def defaultLevelName : String := "WARNING"

/-- A text in upper case. -/
def upperCase (s : String) : String :=
  String.ofList (Unicode.upper s.toList)

/-- The level chosen by name and flags. Tracing logs everything; being verbose does so unless
another level than the default was named. A name that is unknown chooses warnings. -/
def resolve (name : String) (verbose trace : Bool) : Level :=
  let name := upperCase (if name.isEmpty then defaultLevelName else name)
  if trace then debug
  else if verbose && name == defaultLevelName then debug
  else (levelNames.lookup name).getD warning

/-! ## Records -/

/-- Something worth telling. -/
structure Record where
  level : Level
  source : String
  message : String
  deriving Repr, DecidableEq, Inhabited

/-- How records are taken down. -/
structure Settings where
  level : Level
  /-- The time to stamp records with, in trace mode. -/
  stamp : Option String := none
  deriving Repr, DecidableEq, Inhabited

/-- Whether a record is taken down. -/
def Settings.takes (s : Settings) (r : Record) : Bool :=
  0 < r.level && s.level ≤ r.level

/-- The text of a record. -/
def Settings.line (s : Settings) (r : Record) : String :=
  match s.stamp with
  | some time =>
    "[" ++ time ++ "] [" ++ levelText r.level ++ "] [" ++ r.source ++ "] " ++ r.message ++ "\n"
  | none => levelText r.level ++ ": " ++ r.message ++ "\n"

/-- The text of the records that are taken down. -/
def Settings.text (s : Settings) (rs : List Record) : String :=
  String.join ((rs.filter s.takes).map s.line)

/-- The record that tells of a log file. -/
def fileOpened (path : String) : Record :=
  ⟨info, "root", "Logging to file: " ++ path⟩

/-- The record that tells of a log file that cannot be written. -/
def fileRefused (path reason : String) : Record :=
  ⟨warning, "root", "Could not create log file " ++ path ++ ": " ++ reason⟩

end PackageDoc.Log
