import PackageDoc.CommandLine.Arguments
import PackageDoc.CommandLine.Session
import PackageDoc.Conversion
import PackageDoc.License
import PackageDoc.Toolchain

/-!
# Runs of the command line

A run reads the input, finds the name of the package, reads the document, renders it, reads the
license and writes the output, in this order. Everything is built before anything is written, so a
run that fails leaves no output behind. The first problem ends the run and decides its exit code.

    run w args      what becomes of a run with some arguments
-/

namespace PackageDoc.CommandLine

/-- What a run finds. -/
structure World where
  disk : Disk
  stdin : ByteArray := ByteArray.empty
  /-- What becomes of a command that the system is asked for. -/
  toolchain : List String → Except Toolchain.Fault Toolchain.Outcome := fun _ => .ok .notFound
  /-- The time that records are stamped with. -/
  time : String := ""
  deriving Inhabited

/-- A part of a run: it goes on with the session, and can fail. What was done before it failed
stays done. -/
abbrev Stage (α : Type) := ExceptT Failure (StateM Session) α

/-- What the version is called. -/
def versionText : String := "md2godoc 0.1.0\n"

/-- What is said about the use of the command line. -/
def usageText : String :=
  String.join
    ["usage: md2godoc [--input FILE] [--output FILE] [--stdin] [--stdout] [--pkg NAME]\n",
      "                [--license | --no-license] [--license-file FILE] [--badges]\n",
      "                [--log-level LEVEL] [--log-file FILE] [-v] [--trace] [--version]\n"]

/-! ## Stages -/

/-- Tells about something. -/
def tell (rs : List Log.Record) : Stage Unit :=
  modify (Session.tell rs)

/-- A record of the command line itself. -/
def record (level : Log.Level) (message : String) : Log.Record :=
  ⟨level, "md2godoc.cli", message⟩

/-- The problem with an input file that is not there. -/
def noInput (path : String) : Problem :=
  .fileNotFound path (some ("Could not read input file: " ++ path))

/-- The problem with an input file that is there and cannot be read. -/
def unreadableInput (path : String) (fault : DiskFault) : Problem :=
  .file ("Could not read input file: " ++ fault.message path) (some path)

/-- Reads the input. What comes in as a stream is taken as text first. -/
def readInput (w : World) (a : Arguments) : Stage ByteArray := do
  if a.fromStdin then
    tell (record Log.debug "Reading Markdown from stdin" :: decodeRecords w.stdin)
    return (Text.decode w.stdin).toUTF8
  else
    let path := Path.tidy a.input
    let disk := (← get).disk
    match disk.probe path with
    | .error fault => throw (.disk fault)
    | .ok false => throw (.problem (noInput path))
    | .ok true =>
      match disk.read path with
      | .ok data => return data
      | .error fault => throw (.problem (unreadableInput path fault))

/-- Goes on with a name if it is one of a package. -/
def checkName (name : String) : Stage String :=
  match PackageName.validate name with
  | .ok name => pure name
  | .error fault => throw (.problem fault.problem)

/-- Finds the name of the package: the one that was chosen, or the one that the toolchain
tells. -/
def findPackage (w : World) (a : Arguments) : Stage String := do
  let name ←
    if a.package.isEmpty then
      let outcome := Toolchain.run w.toolchain (Toolchain.command a.input)
      modify fun s => { s with commands := s.commands ++ [Toolchain.command a.input] }
      tell (Toolchain.records a.input outcome)
      match outcome with
      | .error fault => throw (.toolchain fault)
      | .ok outcome =>
        match Toolchain.nameFrom outcome with
        | .ok name => pure name
        | .error p => throw (.problem p)
    else pure a.package
  checkName name

section Host

variable [Host]

/-- Reads the document in some bytes. -/
def readDocument (data : ByteArray) : Stage Node := do
  tell (decodeRecords data)
  match FrontMatter.extract {} (Text.decode data).toList with
  | .error fault => throw (.ofFrontMatter fault)
  | .ok e =>
    tell (fieldRecords e)
    match readExtracted {} e with
    | .error failure => throw failure
    | .ok doc =>
      tell [blocksRecord doc]
      return doc

/-- Renders a document. -/
def render (o : Comment.Options) (doc : Node) : Stage String := do
  tell (renderRecords o doc)
  match renderDocument o doc with
  | .ok s => return s
  | .error failure => throw failure

end Host

/-- What is told about the lines of a license. -/
def licenseRecord (lines : Nat) (path : String) : Log.Record :=
  ⟨Log.debug, "md2godoc.license",
    "Read " ++ toString lines ++ " license lines from " ++ Path.tidy path⟩

/-- Reads the license and makes a header of it; there need be no license file. -/
def licenseHeader (a : Arguments) : Stage String := do
  let disk := (← get).disk
  if !a.license then return ""
  else if !disk.isFile a.licenseFile then
    tell [record Log.debug ("No license file at " ++ a.licenseFile ++ ", skipping header")]
    return ""
  else match License.read disk a.licenseFile with
    | .error failure => throw failure
    | .ok data =>
      let lines := License.linesOf data
      tell (decodeRecords data ++ [licenseRecord lines.length a.licenseFile])
      return String.ofList (License.header lines)

/-- Writes the output. -/
def writeOutput (a : Arguments) (content : String) : Stage Unit := do
  if a.toStdout then modify fun s => { s with out := s.out ++ content }
  else
    let path := outputPath a.input a.output
    match (← get).disk.write (Path.tidy path) content.toUTF8 with
    | .ok disk =>
      modify fun s => { s with disk }
      tell [record Log.info ("Wrote " ++ path)]
    | .error .badPath => throw (.disk .badPath)
    | .error _ => throw (.problem (.outputWrite path none))

/-! ## The run -/

/-- The conversion that arguments ask for. -/
def convertInput [Host] (w : World) (a : Arguments) : Stage Unit := do
  let data ← readInput w a
  let packageName ← findPackage w a
  let doc ← readDocument data
  let body ← render { packageName, suppressBadges := !a.badges } doc
  let header ← licenseHeader a
  writeOutput a (header ++ body)

/-- How records are taken down. -/
def logSettings (w : World) (a : Arguments) : Log.Settings :=
  { level := Log.resolve a.logLevel a.verbose a.trace
    stamp := if a.trace then some w.time else none }

/-- What becomes of a run. -/
inductive Ending where
  /-- The arguments asked for no conversion. -/
  | asked (code : Nat) (out : String)
  /-- There was a conversion, with this exit code. -/
  | ran (code : Nat) (s : Session)
  /-- A failure that is no problem ended the run. -/
  | broken (failure : Failure) (s : Session)
  deriving Inhabited

/-- The ending of a conversion. A problem is told about, and its message is written. -/
def conclude : Except Failure Unit × Session → Ending
  | (.ok _, s) => .ran 0 s
  | (.error (.problem p), s) =>
    let s := s.tell [record Log.debug "Conversion failed"]
    .ran p.exitCode { s with err := s.err ++ "Error: " ++ p.message ++ "\n" }
  | (.error failure, s) => .broken failure s

/-- What becomes of a run with some arguments. -/
def run [Host] (w : World) (args : List String) : Ending :=
  match parse args with
  | .refused => .asked 2 ""
  | .help => .asked 0 usageText
  | .version => .asked 0 versionText
  | .convert a =>
    match Session.start w.disk (logSettings w a) a.logFile with
    | .error fault => .broken (.disk fault) { disk := w.disk, log := logSettings w a }
    | .ok s => conclude (((convertInput w a).run).run s)

end PackageDoc.CommandLine
