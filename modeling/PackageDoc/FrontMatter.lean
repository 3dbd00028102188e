import PackageDoc.Decimal.Shortest
import PackageDoc.Host
import PackageDoc.Options
import PackageDoc.Text.Lines

/-!
# Front matter

Fields about a document that stand before it, between two lines that hold a delimiter: YAML between
lines of dashes, TOML between lines of plus signs. A block without a closing line is no front
matter but part of the document.

    split f s = some (raw, rest)    where the opening line, raw, a closing line and rest make up s
    extract o s                     the fields and the rest, or why the block has no fields
-/

namespace PackageDoc.FrontMatter

/-- The formats of front matter. -/
inductive Format where
  | yaml
  | toml
  deriving Repr, DecidableEq, Inhabited

/-- What stands on the lines around a block. -/
def Format.delimiter : Format → List Char
  | yaml => ['-', '-', '-']
  | toml => ['+', '+', '+']

/-- The name of a format. -/
def Format.name : Format → String
  | yaml => "YAML"
  | toml => "TOML"

/-! ## Splitting -/

/-- Whether a line closes a block: it holds the delimiter and blank characters. -/
def closes (f : Format) (l : Text.Line) : Bool :=
  Text.trim l.whole == f.delimiter

/-- Whether a text starts with the line that opens a block. -/
def opens (f : Format) (s : List Char) : Bool :=
  (f.delimiter ++ ['\n']).isPrefixOf s || (f.delimiter ++ ['\r', '\n']).isPrefixOf s

/-- Lines as one text. -/
def joined (ls : List Text.Line) : List Char :=
  (ls.map Text.Line.whole).flatten

/-- The lines before the first one that closes a block, and the lines after it. -/
def cut (f : Format) : List Text.Line → Option (List Text.Line × List Text.Line)
  | [] => none
  | l :: ls =>
    if closes f l then some ([], ls) else (cut f ls).map fun (before, after) => (l :: before, after)

/-- The content of the block that a text starts with, and the text after the block. -/
def split (f : Format) (s : List Char) : Option (List Char × List Char) :=
  if opens f s then
    (cut f (Text.lines s).tail).map fun (before, after) => (joined before, joined after)
  else none

/-! ## Faults -/

/-- Why a block has no fields. -/
inductive Fault where
  /-- It is not well formed. -/
  | malformed (f : Format)
  /-- It holds a value of another kind than a mapping. -/
  | notMapping (kind : String)
  /-- The library that reads it ends in another way than by finding it malformed. -/
  | yaml (fault : Yaml.Fault)
  | toml (fault : Toml.Fault)
  /-- One of its keys is a number of too many digits to be shown. -/
  | unshownKey
  deriving Repr, DecidableEq, Inhabited

/-- What is wrong with a block as a problem of reading, if it is one that is told about. -/
def Fault.problem? : Fault → Option Problem
  | malformed f => some (.parsing ("Invalid " ++ f.name ++ " front matter") (some "frontmatter"))
  | notMapping kind =>
    some (.parsing ("Front matter must be a mapping, got " ++ kind) (some "frontmatter"))
  | yaml _ => none
  | toml _ => none
  | unshownKey => none

/-! ## Fields -/

/-- The name of the kind of a value. -/
def kindName : Value → String
  | .scalar .null => "NoneType"
  | .scalar (.bool _) => "bool"
  | .scalar (.int _) => "int"
  | .scalar (.float _) => "float"
  | .scalar (.text _) => "str"
  | .scalar (.bytes _) => "bytes"
  | .scalar (.date _) => "date"
  | .scalar (.moment _) => "datetime"
  | .scalar (.time _) => "time"
  | .list _ => "list"
  | .map _ => "dict"
  | .set _ => "set"
  | .kind name => name
  | .again _ => "object"

/-- The fields that a value stands for: a mapping its own, and nothing none. -/
def fieldsOf : Value → Except Fault Fields
  | .map fields => .ok fields
  | .scalar .null => .ok []
  | v => .error (.notMapping (kindName v))

/-- Whether a key can be shown. -/
def isShown : Scalar → Bool
  | .int i => i.natAbs < Nat.pow 10 Text.maxDigits
  | _ => true

section Host

variable [Host]

/-- The fields that the content of a block writes. -/
def load (f : Format) (raw : List Char) : Except Fault Fields :=
  match f with
  | .yaml =>
    match Host.yaml raw with
    | .ok v => fieldsOf v
    | .error .malformed => .error (.malformed .yaml)
    | .error fault => .error (.yaml fault)
  | .toml =>
    match Host.toml raw with
    | .ok fields => .ok fields
    | .error .malformed => .error (.malformed .toml)
    | .error fault => .error (.toml fault)

/-- The fields of a block, whose keys are all shown once they are known. -/
def shownFields (f : Format) (raw : List Char) : Except Fault Fields :=
  (load f raw).bind fun fields =>
    if fields.all fun field => isShown field.1 then .ok fields else .error .unshownKey

end Host

/-- What a text starts with. -/
structure Extracted where
  fields : Fields
  rest : List Char
  /-- Whether there is a block. -/
  found : Bool
  deriving Inhabited

/-- The fields of the block that a text starts with, and the text after it. If front matter is not
wanted, the text is left as it is. -/
def extract [Host] (o : Markdown.Options) (s : List Char) : Except Fault Extracted :=
  if !o.frontMatter then .ok ⟨[], s, false⟩
  else match split .yaml s with
  | some (raw, rest) => (shownFields .yaml raw).map (⟨·, rest, true⟩)
  | none =>
    match split .toml s with
    | some (raw, rest) => (shownFields .toml raw).map (⟨·, rest, true⟩)
    | none => .ok ⟨[], s, false⟩

/-! ## Telling about fields -/

/-- Bytes between quotes; those that are no printable character of ASCII are escaped. -/
def quotedBytes (data : List UInt8) : String :=
  let s := data.map fun b => Char.ofNat b.toNat
  let q := Text.quoteFor s
  let byte (c : Char) : List Char :=
    if c.toNat < 127 then Text.quoteChar q c else '\\' :: 'x' :: Text.hexadecimal 2 c.toNat
  String.ofList ('b' :: q :: s.flatMap byte ++ [q])

/-- A moment with its time set off by a space. -/
def momentText (m : Moment) : String :=
  m.date.text ++ " " ++ m.time.text ++ m.offset.elim "" offsetText

/-- How a key is shown that can be. -/
def keyText : Scalar → String
  | .null => "None"
  | .bool true => "True"
  | .bool false => "False"
  | .int i => toString i
  | .float x => Decimal.text x
  | .text s => s
  | .bytes data => quotedBytes data
  | .date d => d.text
  | .moment m => momentText m
  | .time t => t.text

/-- The keys of fields in one line. -/
def keysText (fields : Fields) : String :=
  let keys := String.intercalate ", " (fields.map fun f => keyText f.1)
  if keys.isEmpty then "none" else keys

/-! ## Lemmas -/

/-- Cutting at the first closing line loses nothing but this line. -/
theorem joined_cut {f : Format} {ls before after : List Text.Line}
    (h : cut f ls = some (before, after)) :
    ∃ l, closes f l = true ∧ (∀ k ∈ before, closes f k = false) ∧
      ls = before ++ l :: after := by
  induction ls generalizing before with
  | nil => simp [cut] at h
  | cons k ls ih =>
    simp only [cut] at h
    split at h
    · rename_i hk
      obtain ⟨rfl, rfl⟩ := Prod.mk.inj (Option.some.inj h)
      exact ⟨k, hk, by simp, rfl⟩
    · rename_i hk
      obtain ⟨⟨b, a⟩, hc, he⟩ := Option.map_eq_some_iff.1 h
      obtain ⟨rfl, rfl⟩ := Prod.mk.inj he
      obtain ⟨l, hl, hb, rfl⟩ := ih hc
      refine ⟨l, hl, ?_, rfl⟩
      intro m hm
      rcases List.mem_cons.1 hm with rfl | hm
      · simpa using hk
      · exact hb m hm

end PackageDoc.FrontMatter
