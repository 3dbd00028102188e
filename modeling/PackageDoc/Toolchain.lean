import PackageDoc.Log
import PackageDoc.Path
import PackageDoc.Problem
import PackageDoc.Text.Blank
import PackageDoc.Text.Quoted

/-!
# Asking the Go toolchain for a package name

The toolchain knows the name of the package whose files stand in a directory. It is asked by a
command that names the directory of an input file in such a way that it is neither taken for a flag
nor for the path by which a package is imported.

    command p          the command for the input path p
    run launch c       what becomes of the command c, by what becomes of those that can be started
    nameFrom o         the name in what the command printed, or why there is none
-/

namespace PackageDoc.Toolchain

/-! ## The command -/

/-- The directory of an input path as the toolchain takes it: absolute, or starting with a dot. -/
def directoryArgument (path : String) : String :=
  let d := Path.directoryOf path
  if Path.isAbsolute d || d == "." then d else "./" ++ d

/-- The command that prints the name of the package in a directory. -/
def command (path : String) : List String :=
  ["go", "list", "-f", "\x7b\x7b.Name\x7d\x7d", directoryArgument path]

/-! ## What becomes of it -/

/-- What became of a command. -/
inductive Outcome where
  | notFound
  | finished (code : Int) (out err : String)
  deriving Repr, DecidableEq, Inhabited

/-- Why nothing became of a command. -/
inductive Fault where
  /-- An argument holds a character that no argument can hold. -/
  | badArgument
  /-- The system does not start the command, though it is there. -/
  | notStarted
  /-- What the command printed is no text. -/
  | undecodable
  deriving Repr, DecidableEq, Inhabited

/-- What becomes of a command, if the system can be asked for it at all. -/
def run (launch : List String → Except Fault Outcome) (command : List String) :
    Except Fault Outcome :=
  if command.any fun arg => arg.toList.contains '\x00' then .error .badArgument
  else launch command

/-- A text without blank characters at either end. -/
def stripped (s : String) : String :=
  String.ofList (Text.trim s.toList)

/-- A problem with the name of a package that nobody gave. -/
def cannotInfer (reason : String) : Problem :=
  .packageName ("Cannot infer the package name: " ++ reason) .null

/-- The name of the package. -/
def nameFrom : Outcome → Except Problem String
  | .notFound =>
    .error (cannotInfer "the 'go' command was not found; pass the name explicitly")
  | .finished code out _ =>
    if code ≠ 0 then .error (cannotInfer ("'go list' exited with status " ++ toString code))
    else if (stripped out).isEmpty then .error (cannotInfer "'go list' printed nothing")
    else .ok (stripped out)

/-! ## What is told -/

/-- What is told about a command and what became of it. A command that failed is quoted with what
it had to say. -/
def records (path : String) (o : Except Fault Outcome) : List Log.Record :=
  let told (level : Log.Level) (message : String) : Log.Record :=
    ⟨level, "md2godoc.package_name", message⟩
  let asked := told Log.debug ("Inferring package name: " ++ String.intercalate " " (command path))
  let refused := told Log.error ("Unable to run: " ++ Text.quotedList (command path))
  match o with
  | .error _ => [asked]
  | .ok .notFound => [asked, refused]
  | .ok (.finished code out err) =>
    if code = 0 then [asked]
    else [asked, refused, told Log.error (stripped (if err.isEmpty then out else err))]

end PackageDoc.Toolchain
