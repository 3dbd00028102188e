/-!
# Decoding and encoding text

Bytes are read as UTF-8, without the byte order mark they may begin with. Bytes that are not valid
UTF-8 are read as Latin-1, one character a byte, so that reading never fails. This comes to the same
as trying three encodings one after another, the first of which is UTF-8 behind a mark.

    decode s.toUTF8 = s less one byte order mark at its start   (decode_toUTF8)
-/

namespace PackageDoc.Text

/-- The byte order mark. -/
def byteOrderMark : Char := '\uFEFF'

/-- The text without the byte order mark it may begin with. -/
def dropMark (s : String) : String :=
  match s.toList with
  | c :: rest => if c = byteOrderMark then String.ofList rest else s
  | [] => s

/-- The text that has one character for each byte. -/
def ofLatin1 (data : ByteArray) : String :=
  String.ofList (data.toList.map fun b => Char.ofNat b.toNat)

/-- The text that bytes stand for. -/
def decode (data : ByteArray) : String :=
  match String.fromUTF8? data with
  | some s => dropMark s
  | none => ofLatin1 data

/-! ## Attempts -/

/-- The bytes of the byte order mark. -/
def markBytes : List UInt8 :=
  [0xEF, 0xBB, 0xBF]

/-- Bytes without the byte order mark that they may begin with. -/
def withoutMark (data : ByteArray) : ByteArray :=
  if markBytes <+: data.toList then (data.toList.drop markBytes.length).toByteArray else data

/-- The encodings that bytes can have. -/
inductive Encoding where
  | markedUtf8
  | utf8
  | latin1
  deriving Repr, DecidableEq, Inhabited

namespace Encoding

/-- The text that bytes stand for in an encoding. -/
def decode? (data : ByteArray) : Encoding → Option String
  | markedUtf8 => String.fromUTF8? (withoutMark data)
  | utf8 => String.fromUTF8? data
  | latin1 => some (ofLatin1 data)

/-- The encodings in the order in which they are tried. -/
def attempts : List Encoding :=
  [markedUtf8, utf8, latin1]

end Encoding

/-- Whether bytes are valid UTF-8. -/
def isUTF8 (data : ByteArray) : Bool :=
  (String.fromUTF8? data).isSome

/-! ## Lemmas -/

theorem fromUTF8?_toUTF8 (s : String) : String.fromUTF8? s.toUTF8 = some s := by
  have h : s.toUTF8.IsValidUTF8 := s.isValidUTF8
  unfold String.fromUTF8?
  rw [dif_pos h]
  rfl

/-- Decoding what encoding wrote gives the text back, less one mark at its start. -/
theorem decode_toUTF8 (s : String) : decode s.toUTF8 = dropMark s := by
  rw [decode, fromUTF8?_toUTF8]

end PackageDoc.Text
