import Mathlib.Data.List.Basic
import PackageDoc.Text.Encoding

/-!
# Well-formed UTF-8

The sequences of bytes that stand for a character, with its number. A sequence is as short as the
number allows, and none stands for a surrogate or for a number past the last code point. Decoding
is strict: it gives a text exactly if the bytes are such sequences, one for each character.

    Sequence bs n ↔ n.isValidChar ∧ bs = unitsOf n                                  (sequence_iff)
    Spells bs cs ↔ bs = cs.flatMap String.utf8EncodeChar                              (spells_iff)
    String.fromUTF8? data = some s ↔ Spells data.toList s.toList           (fromUTF8?_eq_some_iff)
-/

namespace PackageDoc.Text

/-! ## Bytes -/

/-- Going through bytes from a place adds those from there on. -/
theorem toList_loop_eq (data : ByteArray) (i : Nat) (us : List UInt8) :
    ByteArray.toList.loop data i us = us.reverse ++ data.data.toList.drop i := by
  induction i, us using ByteArray.toList.loop.induct data with
  | case1 i us hi ih =>
    have hlength : i < data.data.toList.length := hi
    have hget : data.get! i = data.data.toList[i] := getElem!_pos data.data i hi
    rw [ByteArray.toList.loop, if_pos hi, ih, List.drop_eq_getElem_cons hlength, hget,
      List.reverse_cons, List.append_assoc]
    rfl
  | case2 i us hi =>
    have hlength : data.data.toList.length ≤ i := Nat.le_of_not_lt hi
    rw [ByteArray.toList.loop, if_neg hi, List.drop_eq_nil_of_le hlength, List.append_nil]

theorem toList_eq (data : ByteArray) : data.toList = data.data.toList :=
  toList_loop_eq data 0 []

theorem toList_inj {data data' : ByteArray} : data.toList = data'.toList ↔ data = data' := by
  rw [toList_eq, toList_eq, Array.toList_inj, ByteArray.ext_iff]

namespace Utf8

/-! ## One character -/

/-- A byte after the first one of a sequence. -/
def Tail (b : Nat) : Prop :=
  0x80 ≤ b ∧ b ≤ 0xBF

/-- The well-formed sequences of bytes, each with the number that it stands for. After the least
and the greatest first byte, and before the surrogates, not every second byte can come. -/
inductive Sequence : List Nat → Nat → Prop
  | one {a n : Nat} (ha : a ≤ 0x7F) (hn : n = a) : Sequence [a] n
  | two {a b n : Nat} (ha : 0xC2 ≤ a ∧ a ≤ 0xDF) (hb : Tail b)
      (hn : n = (a - 0xC0) * 0x40 + (b - 0x80)) : Sequence [a, b] n
  | three {a b c n : Nat} (ha : 0xE0 ≤ a ∧ a ≤ 0xEF) (hb : Tail b) (hc : Tail c)
      (hlong : a = 0xE0 → 0xA0 ≤ b) (hsurrogate : a = 0xED → b ≤ 0x9F)
      (hn : n = (a - 0xE0) * 0x1000 + (b - 0x80) * 0x40 + (c - 0x80)) : Sequence [a, b, c] n
  | four {a b c d n : Nat} (ha : 0xF0 ≤ a ∧ a ≤ 0xF4) (hb : Tail b) (hc : Tail c) (hd : Tail d)
      (hlong : a = 0xF0 → 0x90 ≤ b) (hlast : a = 0xF4 → b ≤ 0x8F)
      (hn : n = (a - 0xF0) * 0x40000 + (b - 0x80) * 0x1000 + (c - 0x80) * 0x40 + (d - 0x80)) :
      Sequence [a, b, c, d] n

/-- The bytes that a number is written with. -/
def unitsOf (n : Nat) : List Nat :=
  if n ≤ 0x7F then [n]
  else if n ≤ 0x7FF then [n / 0x40 % 0x20 + 0xC0, n % 0x40 + 0x80]
  else if n ≤ 0xFFFF then [n / 0x1000 % 0x10 + 0xE0, n / 0x40 % 0x40 + 0x80, n % 0x40 + 0x80]
  else [n / 0x40000 % 0x08 + 0xF0, n / 0x1000 % 0x40 + 0x80, n / 0x40 % 0x40 + 0x80,
    n % 0x40 + 0x80]

variable {bs : List Nat} {n : Nat}

/-- No sequence stands for a surrogate or for a number past the last code point. -/
theorem Sequence.isValidChar (h : Sequence bs n) : n.isValidChar := by
  unfold Nat.isValidChar
  cases h with
  | one => omega
  | two ha hb => unfold Tail at hb; omega
  | three ha hb hc => unfold Tail at hb hc; omega
  | four ha hb hc hd => unfold Tail at hb hc hd; omega

/-- No number has two sequences. -/
theorem Sequence.eq_unitsOf (h : Sequence bs n) : bs = unitsOf n := by
  unfold unitsOf
  cases h with
  | one ha hn => rw [if_pos (by omega), hn]
  | two ha hb hn =>
    unfold Tail at hb
    rw [if_neg (by omega), if_pos (by omega)]
    simp only [List.cons.injEq, and_true]
    omega
  | three ha hb hc hlong hsurrogate hn =>
    unfold Tail at hb hc
    rw [if_neg (by omega), if_neg (by omega), if_pos (by omega)]
    simp only [List.cons.injEq, and_true]
    omega
  | four ha hb hc hd hlong hlast hn =>
    unfold Tail at hb hc hd
    rw [if_neg (by omega), if_neg (by omega), if_neg (by omega)]
    simp only [List.cons.injEq, and_true]
    omega

theorem sequence_unitsOf (h : n.isValidChar) : Sequence (unitsOf n) n := by
  unfold Nat.isValidChar at h
  unfold unitsOf
  split
  · exact .one (by omega) rfl
  split
  · exact .two (by omega) (by unfold Tail; omega) (by omega)
  split
  · exact .three (by omega) (by unfold Tail; omega) (by unfold Tail; omega) (by omega) (by omega)
      (by omega)
  · exact .four (by omega) (by unfold Tail; omega) (by unfold Tail; omega) (by unfold Tail; omega)
      (by omega) (by omega) (by omega)

theorem sequence_iff : Sequence bs n ↔ n.isValidChar ∧ bs = unitsOf n := by
  constructor
  · exact fun h => ⟨h.isValidChar, h.eq_unitsOf⟩
  · rintro ⟨h, rfl⟩
    exact sequence_unitsOf h

/-- Encoding a character writes its number. -/
theorem map_toNat_utf8EncodeChar (c : Char) :
    (String.utf8EncodeChar c).map UInt8.toNat = unitsOf c.toNat := by
  have hval : c.val.toNat = c.toNat := rfl
  have hbyte {k : Nat} (hk : k < 0x100) : (UInt8.ofNat k).toNat = k := by
    rw [UInt8.toNat_ofNat', Nat.mod_eq_of_lt hk]
  simp only [String.utf8EncodeChar, unitsOf, hval]
  split
  · simp only [List.map_cons, List.map_nil, hbyte (show c.toNat < 0x100 by omega)]
  · split
    · simp (disch := omega) only [List.map_cons, List.map_nil, hbyte]
    · split <;> simp (disch := omega) only [List.map_cons, List.map_nil, hbyte]

/-- The bytes of a character are those that encoding gives. -/
theorem sequence_toNat_iff {us : List UInt8} {c : Char} :
    Sequence (us.map UInt8.toNat) c.toNat ↔ us = String.utf8EncodeChar c := by
  have hinj : Function.Injective (List.map UInt8.toNat) :=
    List.map_injective_iff.2 fun a b => UInt8.toNat_inj.1
  rw [sequence_iff, ← map_toNat_utf8EncodeChar, hinj.eq_iff]
  exact and_iff_right c.valid

/-! ## Texts -/

/-- Bytes that are a well-formed sequence for each character of a text, one after another. -/
inductive Spells : List UInt8 → List Char → Prop
  | nil : Spells [] []
  | cons {us rest : List UInt8} {c : Char} {cs : List Char}
      (h : Sequence (us.map UInt8.toNat) c.toNat) (hrest : Spells rest cs) :
      Spells (us ++ rest) (c :: cs)

theorem spells_iff {us : List UInt8} {cs : List Char} :
    Spells us cs ↔ us = cs.flatMap String.utf8EncodeChar := by
  constructor
  · intro h
    induction h with
    | nil => rfl
    | cons h _ ih => rw [List.flatMap_cons, ih, sequence_toNat_iff.1 h]
  · rintro rfl
    induction cs with
    | nil => exact .nil
    | cons c cs ih => exact .cons (sequence_toNat_iff.2 rfl) ih

end Utf8

/-! ## Decoding -/

theorem fromUTF8?_eq_some {data : ByteArray} {s : String} :
    String.fromUTF8? data = some s ↔ data = s.toUTF8 := by
  constructor
  · unfold String.fromUTF8?
    split
    · rintro h
      rw [← Option.some.inj h]
      rfl
    · nofun
  · rintro rfl
    exact fromUTF8?_toUTF8 s

theorem toList_toUTF8 (s : String) :
    s.toUTF8.toList = s.toList.flatMap String.utf8EncodeChar := by
  have hbytes : s.toUTF8 = s.toList.utf8Encode := String.utf8Encode_toList.symm
  rw [hbytes, List.utf8Encode, toList_eq, List.toList_data_toByteArray]

/-- **Decoding is strict.** A text is decoded from the bytes that spell it and from no others. -/
theorem fromUTF8?_eq_some_iff {data : ByteArray} {s : String} :
    String.fromUTF8? data = some s ↔ Utf8.Spells data.toList s.toList := by
  rw [fromUTF8?_eq_some, Utf8.spells_iff, ← toList_toUTF8, toList_inj]

end PackageDoc.Text
