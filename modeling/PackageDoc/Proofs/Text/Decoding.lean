import PackageDoc.Proofs.Source
import PackageDoc.Proofs.Text.Utf8

/-!
# Three attempts at decoding

Bytes are tried as UTF-8 after a byte order mark, as UTF-8 and as Latin-1, in this order. The last
attempt cannot fail, and it is made exactly if the bytes are not well-formed UTF-8. Only the first
attempt looks for a mark, so one that comes after another stays in the text.

    Encoding.attempts.findSome? (Encoding.decode? data) = some (decode data)   (findSome?_attempts)
    decode data is what data spells, without a mark at its beginning           (decode_of_spells)
    decode data has one character for each byte if data spells nothing     (decode_of_not_spells)
-/

namespace PackageDoc.Text

open Utf8

/-! ## The mark -/

variable {data : ByteArray} {us : List UInt8} {cs : List Char}

theorem utf8EncodeChar_byteOrderMark : String.utf8EncodeChar byteOrderMark = markBytes := by
  decide

/-- Bytes that begin with those of a mark spell a text that begins with it, if they spell one. -/
theorem spells_markBytes_iff :
    Spells (markBytes ++ us) cs ↔ ∃ rest, cs = byteOrderMark :: rest ∧ Spells us rest := by
  constructor
  · intro h
    have hbytes := spells_iff.1 h
    have hencode : [byteOrderMark].utf8Encode ++ us.toByteArray = cs.utf8Encode := by
      rw [List.utf8Encode_singleton, utf8EncodeChar_byteOrderMark, ← List.toByteArray_append,
        hbytes]
      rfl
    obtain ⟨rest, rfl⟩ := List.isPrefix_of_utf8Encode_append_eq_utf8Encode _ hencode
    refine ⟨rest, rfl, spells_iff.2 ?_⟩
    rw [List.singleton_append, List.flatMap_cons, utf8EncodeChar_byteOrderMark] at hbytes
    exact List.append_cancel_left hbytes
  · rintro ⟨rest, rfl, h⟩
    rw [spells_iff, List.flatMap_cons, utf8EncodeChar_byteOrderMark, spells_iff.1 h]

theorem markBytes_prefix_of_spells (h : Spells us (byteOrderMark :: cs)) : markBytes <+: us := by
  rw [spells_iff.1 h, List.flatMap_cons, utf8EncodeChar_byteOrderMark]
  exact List.prefix_append _ _

theorem fromUTF8?_eq_some_ofList :
    String.fromUTF8? data = some (String.ofList cs) ↔ Spells data.toList cs := by
  rw [fromUTF8?_eq_some_iff, String.toList_ofList]

/-- Bytes that do not spell a text cannot be decoded. -/
theorem fromUTF8?_eq_none (h : ∀ cs, ¬ Spells data.toList cs) : String.fromUTF8? data = none := by
  cases hs : String.fromUTF8? data with
  | none => rfl
  | some s => exact absurd (fromUTF8?_eq_some_iff.1 hs) (h s.toList)

/-! ## What comes of the attempts -/

theorem toList_dropMark (s : String) :
    (dropMark s).toList =
      if s.toList.head? = some byteOrderMark then s.toList.tail else s.toList := by
  unfold dropMark
  split
  · next c rest hs =>
    by_cases hc : c = byteOrderMark
    · simp [hs, hc]
    · simp [hs, hc]
  · next hs => simp [hs]

/-- Of what is spelled at most one mark is lost, at the beginning. -/
theorem decode_of_spells (h : Spells data.toList cs) :
    (decode data).toList = if cs.head? = some byteOrderMark then cs.tail else cs := by
  rw [decode, fromUTF8?_eq_some_ofList.2 h]
  dsimp only
  rw [toList_dropMark, String.toList_ofList]

/-- Bytes that spell nothing become one character each, and none is lost. -/
theorem decode_of_not_spells (h : ∀ cs, ¬ Spells data.toList cs) :
    (decode data).toList.map Char.toNat = data.toList.map UInt8.toNat := by
  have hbyte (b : UInt8) : (Char.ofNat b.toNat).toNat = b.toNat := by
    have hlt := b.toNat_lt
    have hvalid : b.toNat.isValidChar := .inl (by omega)
    rw [Char.ofNat, dif_pos hvalid]
    rfl
  rw [decode, fromUTF8?_eq_none h]
  dsimp only
  rw [ofLatin1, String.toList_ofList, List.map_map]
  exact List.map_congr_left fun b _ => hbyte b

/-- What follows the bytes of a mark can be decoded exactly if all of it can, to the rest of
that. -/
theorem fromUTF8?_withoutMark (h : markBytes <+: data.toList) :
    String.fromUTF8? (withoutMark data) = (String.fromUTF8? data).map dropMark := by
  obtain ⟨us, hus⟩ := h
  have hdata : withoutMark data = us.toByteArray := by
    rw [withoutMark, ← hus, if_pos (List.prefix_append _ _), List.drop_left]
  have hbytes : us.toByteArray.toList = us := by
    rw [toList_eq, List.toList_data_toByteArray]
  rw [hdata]
  cases hs : String.fromUTF8? data with
  | some s =>
    have hspells := fromUTF8?_eq_some_iff.1 hs
    rw [← hus] at hspells
    obtain ⟨rest, hrest, hspells⟩ := spells_markBytes_iff.1 hspells
    rw [← hbytes, ← fromUTF8?_eq_some_ofList] at hspells
    rw [hspells, Option.map_some, Option.some.injEq, dropMark, hrest]
    exact (if_pos rfl).symm
  | none =>
    cases ht : String.fromUTF8? us.toByteArray with
    | none => rfl
    | some t =>
      have hspells := fromUTF8?_eq_some_iff.1 ht
      rw [hbytes] at hspells
      have hmarked : Spells data.toList (byteOrderMark :: t.toList) :=
        hus ▸ spells_markBytes_iff.2 ⟨_, rfl, hspells⟩
      cases hs.symm.trans (fromUTF8?_eq_some_ofList.2 hmarked)

/-- Bytes without a mark are not the text of one. -/
theorem dropMark_of_not_prefix (h : ¬ markBytes <+: data.toList) {s : String}
    (hs : String.fromUTF8? data = some s) : dropMark s = s := by
  apply dropMark_of_head?
  intro hhead
  obtain ⟨rest, hrest⟩ := List.head?_eq_some_iff.1 hhead
  have hspells := fromUTF8?_eq_some_iff.1 hs
  rw [hrest] at hspells
  exact h (markBytes_prefix_of_spells hspells)

/-- **Decoding never fails.** It gives what the first attempt gives that does not fail. -/
theorem findSome?_attempts (data : ByteArray) :
    Encoding.attempts.findSome? (Encoding.decode? data) = some (decode data) := by
  have hmarked : Encoding.markedUtf8.decode? data = (String.fromUTF8? data).map dropMark := by
    by_cases h : markBytes <+: data.toList
    · exact fromUTF8?_withoutMark h
    · rw [Encoding.decode?, withoutMark, if_neg h]
      cases hs : String.fromUTF8? data with
      | none => rfl
      | some s => rw [Option.map_some, dropMark_of_not_prefix h hs]
  have hutf8 : Encoding.utf8.decode? data = String.fromUTF8? data := rfl
  rw [Encoding.attempts, List.findSome?_cons, List.findSome?_cons, hmarked, hutf8, decode]
  cases String.fromUTF8? data <;> rfl

end PackageDoc.Text
