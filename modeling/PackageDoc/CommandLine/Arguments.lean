import PackageDoc.Log
import PackageDoc.Path
import PackageDoc.Unicode.Letter

/-!
# Arguments of the command line

An argument is an option or a value. Long options can be shortened as long as only one option
starts that way, and can have their value attached behind an equals sign; short options, none of
which takes a value, can be run together. No argument stands on its own.

All arguments are told apart first, so an option that could be two is refused before anything
else is looked at. They then take effect one after another.

    parse args      what the arguments ask for
-/

namespace PackageDoc.CommandLine

/-- What the command line chooses. -/
structure Arguments where
  input : String := "README.md"
  output : String := "doc.go"
  toStdout : Bool := false
  fromStdin : Bool := false
  /-- The name of the package; if it is empty, the toolchain is asked. -/
  package : String := ""
  license : Bool := true
  licenseFile : String := "LICENSE.txt"
  badges : Bool := false
  logLevel : String := Log.defaultLevelName
  logFile : Option String := none
  verbose : Bool := false
  trace : Bool := false
  deriving Repr, DecidableEq, Inhabited

/-! ## Options -/

/-- What an option does. -/
inductive Action where
  | set (f : Arguments → Arguments)
  /-- It takes a value, which can be refused. -/
  | take (f : String → Arguments → Option Arguments)
  | help
  | version
  deriving Inhabited

/-- The levels that can be chosen. -/
def levelChoices : List String :=
  ["DEBUG", "INFO", "WARNING", "ERROR", "CRITICAL"]

/-- Chooses a level, in letters of either case. -/
def takeLevel (s : String) (a : Arguments) : Option Arguments :=
  let name := Log.upperCase s
  if levelChoices.contains name then some { a with logLevel := name } else none

/-- Chooses the license file. -/
def takeLicenseFile : Action :=
  .take fun s a => some { a with licenseFile := s }

/-- The options by name. -/
def options : List (String × Action) :=
  [("-h", .help),
    ("--help", .help),
    ("--input", .take fun s a => some { a with input := s }),
    ("--output", .take fun s a => some { a with output := s }),
    ("--stdout", .set fun a => { a with toStdout := true }),
    ("--stdin", .set fun a => { a with fromStdin := true }),
    ("--pkg", .take fun s a => some { a with package := s }),
    ("--license", .set fun a => { a with license := true }),
    ("--no-license", .set fun a => { a with license := false }),
    ("--license-file", takeLicenseFile),
    ("--licenseFile", takeLicenseFile),
    ("--badges", .set fun a => { a with badges := true }),
    ("--log-level", .take takeLevel),
    ("--log-file", .take fun s a => some { a with logFile := some s }),
    ("--verbose", .set fun a => { a with verbose := true }),
    ("-v", .set fun a => { a with verbose := true }),
    ("--trace", .set fun a => { a with trace := true }),
    ("--version", .version)]

/-! ## Telling arguments apart -/

/-- What an argument is. -/
inductive Piece where
  | value (s : String)
  /-- An option with the value attached to it. -/
  | option (name : String) (attached : Option String)
  /-- Letters behind one minus, the first of which is a short option. -/
  | cluster (letters : List Char)
  /-- It looks like an option and is none, or ends the options. -/
  | stray
  deriving Repr, DecidableEq, Inhabited

/-- A text cut at its first equals sign. -/
def cutAtEquals (s : List Char) : List Char × Option (List Char) :=
  match s.dropWhile (· != '=') with
  | [] => (s, none)
  | _ :: v => (s.takeWhile (· != '='), some v)

/-- Whether a text after a minus is a number without exponent; one line end may follow it. -/
def isNumber (s : List Char) : Bool :=
  let s := if s.getLast? == some '\n' then s.dropLast else s
  let whole := s.takeWhile Unicode.isDecimalDigit
  match s.drop whole.length with
  | [] => !whole.isEmpty
  | '.' :: places => !places.isEmpty && places.all Unicode.isDecimalDigit
  | _ => false

/-- The options that a shortened long option can be, each with the value attached to it. -/
def longCandidates (s : List Char) : List Piece :=
  let (name, attached) := cutAtEquals s
  (options.filter fun o => name.isPrefixOf o.1.toList).map fun o =>
    .option o.1 (attached.map String.ofList)

/-- The options that an argument with a single minus can be. -/
def shortCandidates (s : List Char) : List Piece :=
  options.filterMap fun o =>
    if o.1.toList = s.take 2 then some (.cluster (s.drop 1))
    else if s.isPrefixOf o.1.toList then some (.option o.1 none)
    else none

/-- Whether an argument is the name of an option. -/
def isOption (s : List Char) : Bool :=
  (options.lookup (String.ofList s)).isSome

/-- What an argument is; none if it could be two options. -/
def classify (arg : String) : Option Piece :=
  let s := arg.toList
  let (name, attached) := cutAtEquals s
  match s with
  | '-' :: second :: _ =>
    if isOption s then some (.option arg none)
    else if attached.isSome && isOption name then
      some (.option (String.ofList name) (attached.map String.ofList))
    else
      match if second = '-' then longCandidates s else shortCandidates s with
      | [p] => some p
      | _ :: _ :: _ => none
      | [] => if isNumber (s.drop 1) || s.contains ' ' then some (.value arg) else some .stray
  | _ => some (.value arg)

/-- What arguments are; none if one of them could be two options. Two minuses end the options. -/
def classifyAll : List String → Option (List Piece)
  | [] => some []
  | arg :: args =>
    if arg == "--" then some (.stray :: args.map .value)
    else (classify arg).bind fun p => (classifyAll args).map (p :: ·)

/-! ## Effects -/

/-- What arguments ask for. -/
inductive Request where
  | convert (a : Arguments)
  | help
  | version
  | refused
  deriving Repr, DecidableEq, Inhabited

/-- The actions of short options that are run together, and whether they end with letters that
belong to no option. An equals sign or a minus must not follow an option. -/
def cluster? : List Char → Option (List Action × Bool)
  | [] => some ([], false)
  | c :: letters =>
    match options.lookup (String.ofList ['-', c]) with
    | none => some ([], true)
    | some action =>
      if letters.head? = some '=' || letters.head? = some '-' then none
      else (cluster? letters).map fun (more, unknown) => (action :: more, unknown)

/-- What becomes of the arguments so far: either they are settled, or there are more to come. -/
abbrev Effect := Except Request Arguments

/-- The effect of an option without a value. -/
def Action.run (a : Arguments) : Action → Effect
  | set f => .ok (f a)
  | take _ => .error .refused
  | help => .error .help
  | version => .error .version

/-- The effect of an option with a value. -/
def Action.runWith (value : String) (a : Arguments) : Action → Effect
  | take f =>
    match f value a with
    | some a => .ok a
    | none => .error .refused
  | _ => .error .refused

/-- The effects of arguments one after another. One that belongs to no option is refused in the
end, also if it is the end of a cluster. -/
def effects : List Piece → Bool → Arguments → Request
  | [], stray, a => if stray then .refused else .convert a
  | .value _ :: ps, _, a => effects ps true a
  | .stray :: ps, _, a => effects ps true a
  | .cluster letters :: ps, stray, a =>
    match cluster? letters with
    | none => .refused
    | some (actions, unknown) =>
      match actions.foldlM Action.run a with
      | .ok a => effects ps (stray || unknown) a
      | .error r => r
  | .option name attached :: ps, stray, a =>
    match options.lookup name, attached with
    | none, _ => .refused
    | some action, some value =>
      match action.runWith value a with
      | .ok a => effects ps stray a
      | .error r => r
    | some (.take f), none =>
      match ps with
      | .value v :: ps =>
        match f v a with
        | some a => effects ps stray a
        | none => .refused
      | _ => .refused
    | some action, none =>
      match action.run a with
      | .ok a => effects ps stray a
      | .error r => r

/-- What arguments ask for. -/
def parse (args : List String) : Request :=
  match classifyAll args with
  | none => .refused
  | some ps => effects ps false {}

/-! ## Where the output goes -/

/-- The output path for an input path: the one that is given if no other was chosen stands next to
the input. -/
def outputPath (input output : String) : String :=
  let d := Path.directoryOf input
  if d != "." && output == ({} : Arguments).output then Path.join d output else output

end PackageDoc.CommandLine
