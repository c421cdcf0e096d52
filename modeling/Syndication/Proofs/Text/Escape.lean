import Mathlib.Data.List.Basic
import Syndication.Text.Percent

/-!
# Escapes in written text

An escape consists of a percent sign and capital hexadecimal digits. Where these stand for
themselves, escaping leaves nothing to be escaped, so written text stays as it is when it is written
again.

An escape never spells a full stop unless a full stop was escaped: no other character has its byte
in its encoding.
-/

namespace Syndication.Text

/-- The digits of escapes. -/
def escapeDigits : List Char := "0123456789ABCDEF".toList

/-- Every digit of an escape is one of sixteen. -/
theorem upperHexDigit_mem (value : Nat) : upperHexDigit value ∈ escapeDigits := by
  rw [upperHexDigit, List.getD_eq_getElem?_getD]
  cases found : "0123456789ABCDEF".toList[value]? with
  | none => decide
  | some digit => exact List.mem_of_getElem? found

/-- An escape is made of a percent sign and digits. -/
theorem mem_percentEscape {byte : UInt8} {character : Char}
    (member : character ∈ percentEscape byte) : character = '%' ∨ character ∈ escapeDigits := by
  simp only [percentEscape, List.mem_cons, List.not_mem_nil, or_false] at member
  rcases member with rfl | rfl | rfl
  · exact .inl rfl
  · exact .inr (upperHexDigit_mem _)
  · exact .inr (upperHexDigit_mem _)

section Encoding

variable {mustEscape : Char → Bool} {text : List Char}

/-- A written character is one of the text that may stand there, or belongs to an escape. -/
theorem mem_percentEncode {character : Char} (member : character ∈ percentEncode mustEscape text) :
    (character ∈ text ∧ mustEscape character = false) ∨
      character = '%' ∨ character ∈ escapeDigits := by
  obtain ⟨source, inText, written⟩ := List.mem_flatMap.mp member
  cases escaped : mustEscape source with
  | true =>
    rw [if_pos escaped] at written
    obtain ⟨byte, -, inEscape⟩ := List.mem_flatMap.mp written
    exact .inr (mem_percentEscape inEscape)
  | false =>
    rw [escaped, if_neg Bool.false_ne_true, List.mem_singleton] at written
    exact .inl ⟨written ▸ inText, written ▸ escaped⟩

/-- Where the characters of an escape stand for themselves, nothing is left to be escaped. -/
theorem mustEscape_of_mem_percentEncode
    (stable : ('%' :: escapeDigits).any mustEscape = false) {character : Char}
    (member : character ∈ percentEncode mustEscape text) : mustEscape character = false := by
  rcases mem_percentEncode member with ⟨-, kept⟩ | escape
  · exact kept
  · exact eq_false_of_ne_true (List.any_eq_false.mp stable character (List.mem_cons.mpr escape))

/-- Text without anything to be escaped is written as it is. -/
theorem percentEncode_of_kept (kept : ∀ character ∈ text, mustEscape character = false) :
    percentEncode mustEscape text = text := by
  induction text with
  | nil => rfl
  | cons character rest inductionHypothesis =>
    rw [List.forall_mem_cons] at kept
    rw [percentEncode, List.flatMap_cons, kept.1, if_neg Bool.false_ne_true, ← percentEncode,
      inductionHypothesis kept.2]
    rfl

end Encoding

/-! ## Bytes of characters -/

/-- Collecting the bytes of an array from a place on puts them behind what has been collected. -/
theorem collect_bytes (bytes : ByteArray) (place : Nat) (collected : List UInt8) :
    ByteArray.toList.loop bytes place collected =
      collected.reverse ++ bytes.data.toList.drop place := by
  induction place, collected using ByteArray.toList.loop.induct bytes with
  | case1 place collected before inductionHypothesis =>
    have next : bytes.data.toList.drop place =
        bytes.get! place :: bytes.data.toList.drop (place + 1) := by
      rw [List.drop_eq_getElem_cons (by simpa using before)]
      simp [ByteArray.get!, before]
    rw [ByteArray.toList.loop, if_pos before, inductionHypothesis, next]
    simp
  | case2 place collected after =>
    rw [ByteArray.toList.loop, if_neg after, List.drop_of_length_le (by simpa using after),
      List.append_nil]

/-- The bytes of an array as a list. -/
theorem toList_bytes (bytes : ByteArray) : bytes.toList = bytes.data.toList :=
  collect_bytes bytes 0 []

/-- A list of bytes is read back from the array of them. -/
theorem toList_toByteArray (bytes : List UInt8) : bytes.toByteArray.toList = bytes := by
  simp [toList_bytes]

/-- The bytes of a character are those of its encoding. -/
theorem characterBytes_eq (character : Char) :
    characterBytes character = String.utf8EncodeChar character := by
  rw [characterBytes, Char.toString_eq_singleton, String.toUTF8, String.toByteArray_singleton,
    List.utf8Encode_singleton, toList_toByteArray]

/-- Only a full stop has the byte of a full stop. -/
theorem ne_stop_of_mem_characterBytes {character : Char} (different : character ≠ '.')
    {byte : UInt8} (member : byte ∈ characterBytes character) : byte.toNat ≠ 0x2e := by
  have value : character.val.toNat ≠ 0x2e := fun same => different (Char.toNat_inj.mp same)
  -- The bytes of a character that takes several of them all lie above the characters of ASCII.
  rw [characterBytes_eq, String.utf8EncodeChar] at member
  split at member
  · obtain rfl := List.mem_singleton.mp member
    rw [UInt8.toNat_ofNat']
    omega
  split at member
  · simp only [List.mem_cons, List.not_mem_nil, or_false] at member
    rcases member with rfl | rfl <;> rw [UInt8.toNat_ofNat'] <;> omega
  split at member
  · simp only [List.mem_cons, List.not_mem_nil, or_false] at member
    rcases member with rfl | rfl | rfl <;> rw [UInt8.toNat_ofNat'] <;> omega
  · simp only [List.mem_cons, List.not_mem_nil, or_false] at member
    rcases member with rfl | rfl | rfl | rfl <;> rw [UInt8.toNat_ofNat'] <;> omega

end Syndication.Text
