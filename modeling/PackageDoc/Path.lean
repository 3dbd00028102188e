import PackageDoc.Text.Lines

/-!
# Paths

Paths as texts with slashes: the directory part of a path, joining, and the tidy form without empty
and single-dot parts.
-/

namespace PackageDoc.Path

/-- The parts of a path between its slashes. -/
def parts (p : String) : List String :=
  (Text.splitAt '/' p.toList).map String.ofList

/-- Whether a path starts at the root. -/
def isAbsolute (p : String) : Bool :=
  p.toList.head? == some '/'

/-- A path up to its last slash, without the slashes it then ends with; a path of slashes alone
is kept. -/
def directory (p : String) : String :=
  let head := (p.toList.reverse.dropWhile (· != '/')).reverse
  let bare := (head.reverse.dropWhile (· == '/')).reverse
  String.ofList (if bare.isEmpty then head else bare)

/-- A path inside a directory. -/
def join (dir p : String) : String :=
  if isAbsolute p then p
  else if dir.isEmpty || dir.toList.getLast? == some '/' then dir ++ p
  else dir ++ "/" ++ p

/-- What a path starts with at the root: two slashes are kept apart from one or three. -/
def root (p : String) : String :=
  match p.toList with
  | '/' :: '/' :: '/' :: _ => "/"
  | '/' :: '/' :: _ => "//"
  | '/' :: _ => "/"
  | _ => ""

/-- A path without empty and single-dot parts. -/
def tidy (p : String) : String :=
  let named := (parts p).filter fun s => s != "" && s != "."
  let t := root p ++ String.intercalate "/" named
  if t.isEmpty then "." else t

/-- Adds a part to a path whose parts are given last one first; a double dot takes the last name
away again. -/
def addPart (above : Bool) (done : List String) (part : String) : List String :=
  if part != ".." then part :: done
  else match done with
    | [] => if above then [".."] else []
    | last :: rest => if last == ".." then ".." :: done else rest

/-- A path without empty, single-dot and double-dot parts, except for double dots that it starts
with. No directory is looked at. -/
def collapse (p : String) : String :=
  let named := (parts p).filter fun s => s != "" && s != "."
  let kept := (named.foldl (addPart (!isAbsolute p)) []).reverse
  let t := root p ++ String.intercalate "/" kept
  if t.isEmpty then "." else t

/-- The directory a file stands in, never empty. -/
def directoryOf (p : String) : String :=
  let d := directory p
  if d.isEmpty then "." else d

end PackageDoc.Path
