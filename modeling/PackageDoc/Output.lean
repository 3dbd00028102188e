import PackageDoc.Text.Encoding

/-!
# Handing over content

Content is text or bytes, and so is what a destination takes. Text for a destination of bytes is
encoded as UTF-8, and bytes for a destination of text must be valid UTF-8.
-/

namespace PackageDoc

/-- What is handed over. -/
inductive Content where
  | text (s : String)
  | bytes (data : ByteArray)
  deriving Inhabited

/-- Where content goes. A sink is something that can only be written to, with the mode it tells. -/
inductive Destination where
  | file
  | byteStream
  | textStream
  | sink (mode : String)
  | unsupported
  deriving Repr, DecidableEq, Inhabited

namespace Content

/-- Why content cannot be handed over. -/
inductive Refusal where
  | noDestination
  | notText
  deriving Repr, DecidableEq, Inhabited

/-- The bytes of content. -/
def toBytes : Content → ByteArray
  | text s => s.toUTF8
  | bytes data => data

/-- The text of content, if it is valid UTF-8. -/
def toText? : Content → Option String
  | text s => some s
  | bytes data => String.fromUTF8? data

/-- Content in the form that a destination takes. A file takes bytes, and a sink does if its mode
says so. -/
def deliver (c : Content) (d : Destination) : Except Refusal Content :=
  let asText : Except Refusal Content :=
    match c.toText? with
    | some s => .ok (text s)
    | none => .error .notText
  match d with
  | .file => .ok (bytes c.toBytes)
  | .byteStream => .ok (bytes c.toBytes)
  | .textStream => asText
  | .sink mode => if mode.contains 'b' then .ok (bytes c.toBytes) else asText
  | .unsupported => .error .noDestination

end Content

end PackageDoc
