import PackageDoc.Comment.Render
import PackageDoc.Markdown.Read
import PackageDoc.PackageName
import PackageDoc.Source

/-!
# From Markdown to a doc comment

Reading a document takes its front matter as metadata and the rest as Markdown. A conversion checks
the package name, reads the document and renders it.

    readText o s       the document that a text holds
    convert d src o    the doc comment for a source
-/

namespace PackageDoc

/-! ## Reading -/

variable [Host]

/-- The document whose front matter has been taken off, with this as its metadata. -/
def readExtracted (o : Markdown.Options) (e : FrontMatter.Extracted) : Except Failure Node :=
  match Host.markdown o e.rest with
  | .ok ts => .ok (Markdown.document ts e.fields)
  | .error fault => .error (.markdown fault)

/-- The document that a text holds, its front matter as metadata. -/
def readText (o : Markdown.Options) (s : List Char) : Except Failure Node :=
  match FrontMatter.extract o s with
  | .ok e => readExtracted o e
  | .error fault => .error (.ofFrontMatter fault)

/-- The document that a source holds. -/
def readSource (d : Disk) (o : Markdown.Options) (src : Source) : Except Failure Node :=
  (src.load d).bind fun s => readText o s.toList

/-! ## Rendering -/

/-- The doc comment for a document. -/
def renderDocument (o : Comment.Options) (doc : Node) : Except Failure String :=
  if !Host.walks doc then .error .nesting
  else match Comment.render o doc with
  | .ok s => .ok s
  | .error kind => .error (.problem (.unsupportedNode kind none))

/-- The doc comment for a source. The name of the package is checked first. -/
def convert (d : Disk) (src : Source) (packageName : Value) (suppressBadges : Bool)
    (o : Markdown.Options) : Except Failure String :=
  match PackageName.validateValue packageName with
  | .error fault => .error (.problem fault.problem)
  | .ok name =>
    (readSource d o src).bind fun doc =>
      renderDocument { packageName := name, suppressBadges } doc

/-! ## What is told -/

/-- What is told while bytes become text. -/
def decodeRecords (data : ByteArray) : List Log.Record :=
  let told (encoding : String) : Log.Record :=
    ⟨Log.debug, "md2godoc.utils.io_utils", "Input is not valid " ++ encoding⟩
  if Text.isUTF8 data then [] else [told "utf-8-sig", told "utf-8"]

/-- A record of reading Markdown. -/
def readingRecord (message : String) : Log.Record :=
  ⟨Log.debug, "md2godoc.parsers.markdown", message⟩

/-- What is told about front matter that was found. -/
def fieldRecords (e : FrontMatter.Extracted) : List Log.Record :=
  if e.found then [readingRecord ("Front matter fields: " ++ FrontMatter.keysText e.fields)] else []

/-- What is told about a document that was read. -/
def blocksRecord (doc : Node) : Log.Record :=
  readingRecord ("Parsed " ++ toString doc.children.length ++ " top-level blocks")

/-- What is told while a document is rendered. -/
def renderRecords (o : Comment.Options) (doc : Node) : List Log.Record :=
  (Comment.visitRoot o doc).notices.map fun notice =>
    ⟨Log.debug, "md2godoc.renderers.godoc", notice.message⟩

end PackageDoc
