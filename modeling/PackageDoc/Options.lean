import PackageDoc.Problem

/-!
# Options

What a caller chooses about the doc comment and about reading Markdown. Every option has a name by
which it is set, and a description for those who document it.
-/

namespace PackageDoc

/-- The description of an option. -/
structure OptionField where
  name : String
  help : String
  importance : String
  /-- The flag by which a command line sets the option, if it has one. -/
  flag : Option String := none
  deriving Repr, DecidableEq, Inhabited

/-! ## The doc comment -/

namespace Comment

/-- What a caller chooses about a doc comment. -/
structure Options where
  packageName : String := "main"
  suppressBadges : Bool := true
  deriving Repr, DecidableEq, Inhabited

/-- The options of a doc comment. -/
def Options.fields : List OptionField :=
  [{ name := "package_name"
     help := "Go package name for the generated documentation"
     importance := "core" },
   { name := "suppress_badges"
     help := "Omit links that wrap images (badges) from the output"
     importance := "core"
     flag := some "badges" }]

/-- The options with their values. -/
def Options.values (o : Options) : List (String × Value) :=
  [("package_name", .text o.packageName), ("suppress_badges", .bool o.suppressBadges)]

/-- Sets an option by its name; an unknown name or a value of the wrong kind is refused. -/
def Options.set? (o : Options) (name : String) (value : Value) : Option Options :=
  match name, value with
  | "package_name", .scalar (.text s) => some { o with packageName := s }
  | "suppress_badges", .scalar (.bool b) => some { o with suppressBadges := b }
  | _, _ => none

end Comment

/-! ## Markdown -/

namespace Markdown

/-- What a caller chooses about reading Markdown. -/
structure Options where
  tables : Bool := true
  footnotes : Bool := true
  strikethrough : Bool := false
  frontMatter : Bool := true
  deriving Repr, DecidableEq, Inhabited

/-- The options of reading Markdown. -/
def Options.fields : List OptionField :=
  [{ name := "parse_tables"
     help := "Parse GFM tables"
     importance := "advanced"
     flag := some "no-parse-tables" },
   { name := "parse_footnotes"
     help := "Parse footnotes"
     importance := "advanced"
     flag := some "no-parse-footnotes" },
   { name := "parse_strikethrough"
     help := "Parse ~~strikethrough~~ syntax"
     importance := "advanced" },
   { name := "parse_frontmatter"
     help := "Strip YAML/TOML front matter"
     importance := "core"
     flag := some "no-parse-frontmatter" }]

/-- The options with their values. -/
def Options.values (o : Options) : List (String × Value) :=
  [("parse_tables", .bool o.tables), ("parse_footnotes", .bool o.footnotes),
    ("parse_strikethrough", .bool o.strikethrough), ("parse_frontmatter", .bool o.frontMatter)]

/-- Sets an option by its name; an unknown name or a value of the wrong kind is refused. -/
def Options.set? (o : Options) (name : String) (value : Value) : Option Options :=
  match name, value with
  | "parse_tables", .scalar (.bool b) => some { o with tables := b }
  | "parse_footnotes", .scalar (.bool b) => some { o with footnotes := b }
  | "parse_strikethrough", .scalar (.bool b) => some { o with strikethrough := b }
  | "parse_frontmatter", .scalar (.bool b) => some { o with frontMatter := b }
  | _, _ => none

end Markdown

/-! ## Kinds -/

/-- Checks that the options given to a component are of the kind it takes; none will do. -/
def checkKind (component : String) (expected : OptionsKind) (given : Option OptionsKind) :
    Except Problem Unit :=
  match given with
  | none => .ok ()
  | some kind =>
    if kind = expected then .ok () else .error (.wrongOptions component expected kind none)

end PackageDoc
