import PackageDoc.Value

/-!
# Problems

What can go wrong in a conversion, by cause. Every problem has one message; some are given a
message of their own where they arise. A problem belongs to a chain of families, the most special
one first, and its families decide the exit code of the command line.
-/

namespace PackageDoc

/-- The two kinds of options: of the doc comment and of the Markdown reader. -/
inductive OptionsKind where
  | comment
  | markdown
  deriving Repr, DecidableEq, Inhabited

/-- The name of a kind of options in messages. -/
def OptionsKind.name : OptionsKind → String
  | .comment => "GodocRendererOptions"
  | .markdown => "MarkdownParserOptions"

/-- A package that a component needs, with the versions it accepts. -/
structure Requirement where
  package : String
  versions : String
  deriving Repr, DecidableEq, Inhabited

/-- What went wrong. -/
inductive Problem where
  | general (text : String)
  | validation (text : String) (parameter : Option String) (value : Value)
  | wrongOptions (component : String) (expected received : OptionsKind) (text : Option String)
  | packageName (text : String) (name : Value)
  | file (text : String) (path : Option String)
  | fileNotFound (path : String) (text : Option String)
  | parsing (text : String) (stage : Option String)
  | rendering (text : String) (stage : Option String)
  | unsupportedNode (kind : String) (text : Option String)
  | outputWrite (path : String) (text : Option String)
  | missingDependency (component : String) (missing : List Requirement) (text : Option String)
  deriving Repr, Inhabited

namespace Problem

/-- What a problem says. -/
def message : Problem → String
  | general text => text
  | validation text _ _ => text
  | wrongOptions component expected received text =>
    text.getD (component ++ " expected options of type '" ++ expected.name ++ "' but received '" ++
      received.name ++ "'.")
  | packageName text _ => text
  | file text _ => text
  | fileNotFound path text => text.getD ("File not found: " ++ path)
  | parsing text _ => text
  | rendering text _ => text
  | unsupportedNode kind text => text.getD ("Unknown node type " ++ kind)
  | outputWrite path text => text.getD ("Failed to write output file: " ++ path)
  | missingDependency component missing text =>
    let names := missing.map fun r => r.package ++ r.versions
    text.getD (component ++ " requires missing dependencies: " ++ String.intercalate ", " names)

/-- The families of problems. -/
inductive Family where
  | any
  | validation
  | wrongOptions
  | packageName
  | file
  | fileNotFound
  | parsing
  | rendering
  | unsupportedNode
  | outputWrite
  | missingDependency
  deriving Repr, DecidableEq, Inhabited

/-- The family that a family is part of. -/
def Family.parent? : Family → Option Family
  | .any => none
  | .wrongOptions => some .validation
  | .packageName => some .validation
  | .fileNotFound => some .file
  | .unsupportedNode => some .rendering
  | .outputWrite => some .rendering
  | _ => some .any

/-- The most special family of a problem. -/
def family : Problem → Family
  | general .. => .any
  | validation .. => .validation
  | wrongOptions .. => .wrongOptions
  | packageName .. => .packageName
  | file .. => .file
  | fileNotFound .. => .fileNotFound
  | parsing .. => .parsing
  | rendering .. => .rendering
  | unsupportedNode .. => .unsupportedNode
  | outputWrite .. => .outputWrite
  | missingDependency .. => .missingDependency

/-- The families above a family, the nearest first. -/
def Family.above (f : Family) : List Family :=
  match f.parent? with
  | none => []
  | some g => g :: match g.parent? with
    | none => []
    | some h => [h]

/-- The exit code of the command line for a problem. -/
def exitCode (p : Problem) : Nat :=
  match p with
  | missingDependency .. => 2
  | validation .. | wrongOptions .. | packageName .. => 3
  | file .. | fileNotFound .. | outputWrite .. => 4
  | parsing .. => 6
  | rendering .. | unsupportedNode .. => 7
  | general .. => 1

/-! ## Lemmas -/

theorem exitCode_pos (p : Problem) : 0 < p.exitCode := by
  cases p <;> simp [exitCode]

end Problem

/-- Checks that the packages a component needs can be had, given what each is called when it is
looked for. -/
def requirePackages (component : String) (packages : List (Requirement × String))
    (available : String → Bool) : Except Problem Unit :=
  match packages.filter fun p => !available p.2 with
  | [] => .ok ()
  | missing => .error (.missingDependency component (missing.map Prod.fst) none)

end PackageDoc
