import PackageDoc.Problem
import PackageDoc.Text.Blank
import PackageDoc.Text.Quoted
import PackageDoc.Unicode.Letter

/-!
# Package names

The name of a Go package is an identifier that is not a keyword: a letter or underscore, followed
by letters, decimal digits and underscores.

    validate s = .ok s       for the names that are accepted
    validate s = .error f    otherwise, with the first fault that is found
-/

namespace PackageDoc.PackageName

/-- The keywords of Go. -/
def keywords : List String :=
  ["break", "case", "chan", "const", "continue", "default", "defer", "else", "fallthrough", "for",
    "func", "go", "goto", "if", "import", "interface", "map", "package", "range", "return",
    "select", "struct", "switch", "type", "var"]

/-- Whether a character may start a name. -/
def isStart (c : Char) : Bool :=
  c == '_' || Unicode.isLetter c

/-- Whether a character may stand after the first one. -/
def isPart (c : Char) : Bool :=
  isStart c || Unicode.isDecimalDigit c

/-- Why a value is not a package name. -/
inductive Fault where
  /-- It is not a text, or an empty one. -/
  | notText (value : Value)
  | badStart (name : String)
  | badCharacter (name : String) (c : Char)
  | keyword (name : String)
  deriving Repr, Inhabited

/-- What is wrong with a name, in words. -/
def Fault.message : Fault → String
  | notText _ => "Package name must be a non-empty string"
  | badStart name =>
    String.join ["Package name ", Text.quoted name, " must start with a letter or underscore"]
  | badCharacter name c =>
    String.join ["Package name ", Text.quoted name, " contains invalid character ",
      Text.quoted (String.ofList [c])]
  | keyword name => String.join ["Package name ", Text.quoted name, " is a Go keyword"]

/-- The value that was refused. -/
def Fault.value : Fault → Value
  | notText value => value
  | badStart name => .text name
  | badCharacter name _ => .text name
  | keyword name => .text name

/-- A fault as a problem. -/
def Fault.problem (f : Fault) : Problem :=
  .packageName f.message f.value

/-- Accepts a package name. -/
def validate (name : String) : Except Fault String :=
  match name.toList with
  | [] => .error (.notText (.text name))
  | c :: rest =>
    if !isStart c then .error (.badStart name)
    else match rest.find? fun c => !isPart c with
      | some bad => .error (.badCharacter name bad)
      | none => if keywords.contains name then .error (.keyword name) else .ok name

/-- Accepts a package name among arbitrary values. -/
def validateValue : Value → Except Fault String
  | .scalar (.text name) => validate name
  | value => .error (.notText value)

/-! ## Lemmas -/

/-- A name that is accepted is returned as it is. -/
theorem eq_of_validate {name r : String} (h : validate name = .ok r) : r = name := by
  unfold validate at h
  split at h
  · simp at h
  · split at h
    · simp at h
    · split at h
      · simp at h
      · split at h <;> simp_all

end PackageDoc.PackageName
