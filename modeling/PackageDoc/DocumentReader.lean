import PackageDoc.Conversion

/-!
# Reading one document after another

A reader of documents can be used again. It collects the footnotes of a document while it converts
the blocks, and keeps them until it begins with the next document.

    r.read d src        the document that a source holds, and the reader afterwards
    r.readAll d srcs    the documents that several sources hold
-/

namespace PackageDoc

/-- A reader of documents. -/
structure DocumentReader where
  options : Markdown.Options := {}
  /-- The footnotes collected last. -/
  footnotes : Markdown.Footnotes := []
  deriving Inhabited

namespace DocumentReader

/-- The document for block tokens, with all footnotes that the reader has by then at its end. -/
def convert (r : DocumentReader) (ts : List Markdown.Token) (metadata : Fields) :
    Node × DocumentReader :=
  let (ns, fs) := Markdown.blocks ts r.footnotes
  (Node.document (ns ++ fs.nodes) metadata, { r with footnotes := fs })

section Host

variable [Host]

/-- Reads a document. Footnotes of an earlier one are dropped once there is a text to read. -/
def read (r : DocumentReader) (d : Disk) (src : Source) :
    Except Failure Node × DocumentReader :=
  match src.load d with
  | .error failure => (.error failure, r)
  | .ok s =>
    let r := { r with footnotes := [] }
    match FrontMatter.extract r.options s.toList with
    | .error fault => (.error (.ofFrontMatter fault), r)
    | .ok e =>
      match Host.markdown r.options e.rest with
      | .error fault => (.error (.markdown fault), r)
      | .ok ts =>
        let (doc, r) := r.convert ts e.fields
        (.ok doc, r)

/-- Reads documents one after another; one that fails is passed over. -/
def readAll (r : DocumentReader) (d : Disk) :
    List Source → List (Except Failure Node) × DocumentReader
  | [] => ([], r)
  | src :: srcs =>
    let (doc, r) := r.read d src
    let (docs, r) := r.readAll d srcs
    (doc :: docs, r)

end Host

end DocumentReader

end PackageDoc
