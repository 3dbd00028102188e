import PackageDoc.CommandLine.Run

/-!
# The program

Carries out runs of the command line. Before a run, whatever stands at the paths that the arguments
name is read; after it, the files that the run changed are written. Everything in between is
`CommandLine.run`. No command is run for it: the toolchain counts as one that is not there, so the
package has to be named.
-/

namespace PackageDoc.CommandLine

/-! ## Before a run -/

/-- The paths that arguments name. -/
def Arguments.paths (a : Arguments) : List String :=
  [a.input, a.licenseFile, outputPath a.input a.output] ++ a.logFile.toList

/-- The places that names lead through. -/
def waypoints (here : Place) : List String → List Place
  | [] => []
  | name :: rest =>
    if name == "" || name == "." then waypoints here rest
    else
      let there := if name == ".." then Disk.parentOf here else here ++ [name]
      there :: waypoints there rest

/-- The places that a path leads through. -/
def waypointsOf (path : String) : List Place :=
  waypoints (if Path.isAbsolute path then ["/"] else []) (Path.parts path)

/-- The path of a place. -/
def pathOf : Place → String
  | "/" :: names => "/" ++ String.intercalate "/" names
  | place => String.intercalate "/" place

/-- A disk with what stands at a place. -/
def look (d : Disk) (place : Place) : IO Disk := do
  match ← (IO.FS.readBinFile (pathOf place)).toBaseIO with
  | .ok data => return d.put place data
  | .error (.inappropriateType ..) => return { d with directories := place :: d.directories }
  | .error (.permissionDenied ..) =>
    let d := d.put place ByteArray.empty
    return { d with access := { d.access with read := fun p => p != place && d.access.read p } }
  | .error _ => return d

/-- What is left in a stream. -/
partial def drain (s : IO.FS.Stream) (got : ByteArray) : IO ByteArray := do
  let more ← s.read 65536
  if more.isEmpty then return got else drain s (got ++ more)

/-- What a run finds that was asked for. -/
def worldFor : Request → IO World
  | .convert a => do
    let disk ← (a.paths.flatMap waypointsOf).eraseDups.foldlM look {}
    let stdin ← if a.fromStdin then drain (← IO.getStdin) ByteArray.empty else pure ByteArray.empty
    return { disk, stdin, time := toString (← IO.monoMsNow) ++ " ms" }
  | _ => return { disk := {} }

/-! ## After a run -/

/-- The files of one disk that another one does not have like that. -/
def changes (before after : Disk) : List (Place × ByteArray) :=
  after.files.filter fun f => before.fileAt? f.1 != some f.2

/-- Writes files; the problem with the first one that cannot be written. -/
def store : List (Place × ByteArray) → IO (Option Problem)
  | [] => return none
  | (place, data) :: files => do
    match ← (IO.FS.writeBinFile (pathOf place) data).toBaseIO with
    | .ok _ => store files
    | .error _ => return some (.outputWrite (pathOf place) none)

/-- What is said about a failure. -/
def failureText : Failure → String
  | .problem p => p.message
  | .frontMatter .unshownKey => Text.tooManyDigitsText none
  | .frontMatter _ => "The front matter holds a scalar without a value"
  | .markdown _ => "The document cannot be read"
  | .nesting => "The document is nested too deep"
  | .disk fault => fault.message ""
  | .toolchain _ => "The 'go' command cannot be run"

/-- Says what went wrong. -/
def complain (message : String) : IO Unit := do
  (← IO.getStderr).putStr ("Error: " ++ message ++ "\n")

/-- Writes what a session has written, with its files first. -/
def settle (before : Disk) (code : Nat) (s : Session) : IO Nat := do
  let problem ← store (changes before s.disk)
  (← IO.getStderr).putStr s.err
  (← IO.getStdout).putStr s.out
  match problem with
  | none => return code
  | some p =>
    complain p.message
    return p.exitCode

/-- Carries out an ending; the exit code. -/
def finish (before : Disk) : Ending → IO Nat
  | .asked code out => do
    if code = 0 then (← IO.getStdout).putStr out else (← IO.getStderr).putStr usageText
    return code
  | .ran code s => settle before code s
  | .broken failure s => do
    let code ← settle before 1 s
    complain (failureText failure)
    return code

end PackageDoc.CommandLine

def main (args : List String) : IO UInt32 := do
  let world ← PackageDoc.CommandLine.worldFor (PackageDoc.CommandLine.parse args)
  let code ← PackageDoc.CommandLine.finish world.disk (PackageDoc.CommandLine.run world args)
  return code.toUInt32
