import PackageDoc.Path
import PackageDoc.Text.Quoted

/-!
# Files and directories

The files below a working directory as a value. A path is followed part by part, so a file is never
gone through as if it were a directory, and no name is looked up in a directory that is closed. A
file that is there need not be one that may be read or written.

    locate path d     what a path leads to
    probe path d      whether that is a file, as far as one may see
    read, write       the content of a file, and the disk with a file written
-/

namespace PackageDoc

/-- The names that lead to a file or directory from the working directory. -/
abbrev Place := List String

/-- What may be done at places; anything, unless it is said otherwise. -/
structure Access where
  /-- Whether names may be looked up in a directory. -/
  search : Place → Bool := fun _ => true
  /-- Whether a file may be read. -/
  read : Place → Bool := fun _ => true
  /-- Whether a file may be written, or made if it is not there. -/
  write : Place → Bool := fun _ => true
  deriving Inhabited

/-- The regular files and the directories below the working directory. -/
structure Disk where
  directories : List Place := []
  files : List (Place × ByteArray) := []
  access : Access := {}
  deriving Inhabited

/-- Why a file cannot be had. -/
inductive DiskFault where
  | missing
  | notDirectory
  | isDirectory
  | nameTooLong
  /-- The path goes through a directory that may not be searched. -/
  | closed
  /-- The file may not be opened. -/
  | denied
  /-- The path holds a character that no path can hold. -/
  | badPath
  deriving Repr, DecidableEq, Inhabited

/-- What the system says about a path. The two ways to lack a permission sound alike. -/
def DiskFault.message (path : String) : DiskFault → String
  | .missing => String.join ["[Errno 2] No such file or directory: ", Text.quoted path]
  | .notDirectory => String.join ["[Errno 20] Not a directory: ", Text.quoted path]
  | .isDirectory => String.join ["[Errno 21] Is a directory: ", Text.quoted path]
  | .nameTooLong => String.join ["[Errno 36] File name too long: ", Text.quoted path]
  | .closed => String.join ["[Errno 13] Permission denied: ", Text.quoted path]
  | .denied => String.join ["[Errno 13] Permission denied: ", Text.quoted path]
  | .badPath => "embedded null byte"

/-- What a path leads to. -/
inductive Located where
  | file (place : Place) (data : ByteArray)
  | directory
  /-- Nothing yet, in a directory that is there. -/
  | vacant (place : Place)
  | unreachable (fault : DiskFault)
  deriving Inhabited

namespace Disk

/-- The content of the file at a place. -/
def fileAt? (d : Disk) (place : Place) : Option ByteArray :=
  d.files.lookup place

/-- Whether a place is a directory: one that was made, one on the way to something, or one above
the working directory. -/
def isDirectoryAt (d : Disk) (place : Place) : Bool :=
  place.all (· == "..") || d.directories.any (place.isPrefixOf ·) ||
    d.files.any fun f => place.isPrefixOf f.1 && place != f.1

/-- Goes up from a place. -/
def parentOf (place : Place) : Place :=
  match place.getLast? with
  | none => [".."]
  | some name =>
    if name == "/" then place else if name == ".." then place ++ [".."] else place.dropLast

/-- Follows names from a directory. -/
def follow (d : Disk) (here : Place) : List String → Located
  | [] => .directory
  | name :: rest =>
    if name == "" then follow d here rest
    else if !d.access.search here then .unreachable .closed
    else if name == "." then follow d here rest
    else if name == ".." then follow d (parentOf here) rest
    else if 255 < name.utf8ByteSize then .unreachable .nameTooLong
    else
      let there := here ++ [name]
      match d.fileAt? there with
      | some data => if rest.isEmpty then .file there data else .unreachable .notDirectory
      | none =>
        if d.isDirectoryAt there then follow d there rest
        else if rest.isEmpty then .vacant there
        else .unreachable .missing

/-- What a path leads to. -/
def locate (d : Disk) (path : String) : Located :=
  if path.isEmpty then .unreachable .missing
  else if path.toList.contains '\x00' then .unreachable .badPath
  else if 4095 < path.utf8ByteSize then .unreachable .nameTooLong
  else follow d (if Path.isAbsolute path then ["/"] else []) (Path.parts path)

/-- Whether a path leads to a regular file. -/
def isFile (d : Disk) (path : String) : Bool :=
  match d.locate path with
  | .file .. => true
  | _ => false

/-- Whether a path leads to a regular file. The system does not tell for a path that is too long or
goes through a closed directory. -/
def probe (d : Disk) (path : String) : Except DiskFault Bool :=
  match d.locate path with
  | .file .. => .ok true
  | .unreachable .nameTooLong => .error .nameTooLong
  | .unreachable .closed => .error .closed
  | _ => .ok false

/-- The content of the file a path leads to, if it may be read. -/
def read (d : Disk) (path : String) : Except DiskFault ByteArray :=
  match d.locate path with
  | .file place data => if d.access.read place then .ok data else .error .denied
  | .directory => .error .isDirectory
  | .vacant _ => .error .missing
  | .unreachable fault => .error fault

/-- The place that writing to a path writes to, if it may be written. -/
def target (d : Disk) (path : String) : Except DiskFault Place :=
  let opened (place : Place) : Except DiskFault Place :=
    if d.access.write place then .ok place else .error .denied
  match d.locate path with
  | .file place _ => opened place
  | .vacant place => opened place
  | .directory => .error .isDirectory
  | .unreachable fault => .error fault

/-- The disk with the content of one file replaced. -/
def put (d : Disk) (place : Place) (data : ByteArray) : Disk :=
  { d with files := (place, data) :: d.files.filter (·.1 != place) }

/-- The disk after writing a file. -/
def write (d : Disk) (path : String) (data : ByteArray) : Except DiskFault Disk :=
  (d.target path).map fun place => d.put place data

/-! ## Lemmas -/

theorem fileAt?_put_self (d : Disk) (place : Place) (data : ByteArray) :
    (d.put place data).fileAt? place = some data := by
  simp [put, fileAt?]

theorem lookup_filter_ne {α : Type} {p q : Place} (h : (p == q) = false) (fs : List (Place × α)) :
    (fs.filter (·.1 != q)).lookup p = fs.lookup p := by
  induction fs with
  | nil => rfl
  | cons f fs ih =>
    obtain ⟨r, data⟩ := f
    by_cases hr : r = q
    · subst hr
      simp [List.lookup_cons, h, ih]
    · have : (r != q) = true := by simpa using hr
      simp only [List.filter_cons, this, if_true, List.lookup_cons, ih]

/-- Writing one file leaves every other one as it was. -/
theorem fileAt?_put_of_ne (d : Disk) {p q : Place} (h : (p == q) = false) (data : ByteArray) :
    (d.put q data).fileAt? p = d.fileAt? p := by
  simp only [put, fileAt?, List.lookup_cons, h]
  exact lookup_filter_ne h d.files

end Disk

end PackageDoc
