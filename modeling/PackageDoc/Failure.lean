import PackageDoc.Disk
import PackageDoc.FrontMatter
import PackageDoc.Toolchain

/-!
# Failures

Why there is no result. Most failures are problems that are told about; what else can be wrong with
front matter, a path or a command is kept as its own cause.
-/

namespace PackageDoc

/-- Why there is no result. -/
inductive Failure where
  | problem (p : Problem)
  /-- The front matter ends the reading in a way that is no problem. -/
  | frontMatter (fault : FrontMatter.Fault)
  | markdown (fault : Markdown.Fault)
  /-- The document is nested too deep to be walked through. -/
  | nesting
  /-- The system refuses a path. -/
  | disk (fault : DiskFault)
  /-- Nothing became of the command that was to be run. -/
  | toolchain (fault : Toolchain.Fault)
  deriving Repr, Inhabited

/-- A fault of front matter as a failure. -/
def Failure.ofFrontMatter (fault : FrontMatter.Fault) : Failure :=
  match fault.problem? with
  | some p => .problem p
  | none => .frontMatter fault

end PackageDoc
