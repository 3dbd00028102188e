import PackageDoc.Markdown.Read
import PackageDoc.Toml.Document
import PackageDoc.Yaml.Value

/-!
# What a conversion relies on

Front matter and Markdown are read by libraries, and a document is walked through as deep as the
interpreter allows. A conversion takes all of this as it finds it: its host is any way to read the
three formats that ends as is named here. The readers of this project are one.
-/

namespace PackageDoc

/-- Why a text is not read as Markdown. -/
inductive Markdown.Fault where
  /-- It is nested deeper than the interpreter allows. -/
  | tooDeep
  /-- Whatever else ends the reading, by its kind. -/
  | other (kind : String)
  deriving Repr, DecidableEq, Inhabited

/-- What a conversion relies on. -/
class Host where
  /-- The value that a text of YAML writes. -/
  yaml : List Char → Except Yaml.Fault Value
  /-- The table that a text of TOML writes. -/
  toml : List Char → Except Toml.Fault Fields
  /-- The tokens of a text of Markdown. -/
  markdown : Markdown.Options → List Char → Except Markdown.Fault (List Markdown.Token)
  /-- Whether a document is not nested too deep to be walked through. -/
  walks : Node → Bool

/-- The readers of this project, with no bound on how deep anything is nested. -/
instance Host.unbounded : Host where
  yaml := Yaml.load
  toml := Toml.load
  markdown o s := .ok (Markdown.tokens o s)
  walks _ := true

end PackageDoc
