import PackageDoc.Failure
import PackageDoc.Log
import PackageDoc.Text.Encoding

/-!
# Where Markdown comes from

A document is given as a text, as bytes, as a stream of either, or as a path. A short text on one
line that names a file stands for the content of that file.
-/

namespace PackageDoc

/-- Where a document comes from. -/
inductive Source where
  /-- A text, or the path of a file. -/
  | text (s : String)
  | path (p : String)
  | bytes (data : ByteArray)
  | textStream (s : String)
  | byteStream (data : ByteArray)
  deriving Inhabited

namespace Source

/-- The length of the longest text that can stand for a file. -/
def maxProbe : Nat := 260

/-- Whether a text stands for a file. A path that the system refuses is no file's. -/
def standsForFile (d : Disk) (s : String) : Bool :=
  s.length ≤ maxProbe && !s.toList.contains '\n' &&
    match d.probe (Path.tidy s) with
    | .ok found => found
    | .error _ => false

/-- The content of a file that is there; it need not be one that may be read. -/
def readFile (d : Disk) (path : String) : Except Failure ByteArray :=
  match d.read path with
  | .ok data => .ok data
  | .error fault =>
    let text := String.join ["Cannot read ", path, ": ", fault.message path]
    .error (.problem (.file text (some path)))

/-- The content of the file at a path. -/
def readPath (d : Disk) (p : String) : Except Failure ByteArray :=
  let path := Path.tidy p
  match d.probe path with
  | .error fault => .error (.disk fault)
  | .ok false => .error (.problem (.fileNotFound path none))
  | .ok true => readFile d path

/-- The text of a document. -/
def load (d : Disk) : Source → Except Failure String
  | text s =>
    if standsForFile d s then (readFile d (Path.tidy s)).map Text.decode else .ok s
  | path p => (readPath d p).map Text.decode
  | bytes data => .ok (Text.decode data)
  | textStream s => .ok s
  | byteStream data => .ok (Text.decode data)

end Source

end PackageDoc
