import PackageDoc.Failure
import PackageDoc.Text.Encoding
import PackageDoc.Text.Lines

/-!
# License headers

The lines of a license become a comment block of their own above the doc comment, with an empty
line between the two, so that the license is no part of the documentation.
-/

namespace PackageDoc.License

/-- A line of the license as a comment; an empty one is a bare marker. -/
def comment (line : List Char) : List Char :=
  if line.isEmpty then ['/', '/'] else '/' :: '/' :: ' ' :: line

/-- The comment block for the lines of a license, ended by an empty line. -/
def header (lines : List (List Char)) : List Char :=
  (lines.flatMap fun line => comment line ++ ['\n']) ++ ['\n']

/-- The lines of a license file. -/
def linesOf (data : ByteArray) : List (List Char) :=
  Text.bareLines (Text.decode data).toList

/-- The content of the license file at a path. A path that leads nowhere is told apart from one
that leads to something that cannot be read as a file. -/
def read (d : Disk) (path : String) : Except Failure ByteArray :=
  let path := Path.tidy path
  let unreadable (fault : DiskFault) : Problem :=
    .file (String.join ["Cannot read license file ", path, ": ", fault.message path]) (some path)
  match d.read path with
  | .ok data => .ok data
  | .error .isDirectory => .error (.problem (unreadable .isDirectory))
  | .error .denied => .error (.problem (unreadable .denied))
  | .error .missing => .error (.problem (.fileNotFound path none))
  | .error .notDirectory => .error (.problem (.fileNotFound path none))
  | .error .nameTooLong => .error (.disk .nameTooLong)
  | .error .closed => .error (.disk .closed)
  | .error .badPath => .error (.disk .badPath)

end PackageDoc.License
