import Mathlib.Data.List.Basic
import KeyValueServer.Value.Wire

/-!
# Line breaks in text

A text is written as the bytes of its characters, one behind the other. A byte below 0x80 is a
character of its own, so the bytes CR and LF stand for the characters of these names and occur in
no other character. Text that is flattened byte by byte is therefore flattened character by
character.
-/

namespace KeyValueServer

namespace Utf8

/-- The bytes of a text are those of its characters. -/
theorem encode_eq_flatMap (text : String) :
    encode text = text.toList.flatMap String.utf8EncodeChar := by
  rw [encode, String.toUTF8_eq_toByteArray, ← String.utf8Encode_toList, List.utf8Encode,
    List.data_toByteArray]

/-- A byte below 0x80 is a character of its own. -/
theorem eq_singleton_of_mem (char : Char) (byte : UInt8)
    (member : byte ∈ String.utf8EncodeChar char) (ascii : byte < 0x80) :
    String.utf8EncodeChar char = [byte] := by
  have high (bits mask : UInt8) (large : 0x80 ≤ mask) : byte ≠ bits ||| mask := by
    rintro rfl
    rw [UInt8.lt_iff_toNat_lt, UInt8.toNat_or] at ascii
    rw [UInt8.le_iff_toNat_le] at large
    exact absurd (Nat.le_trans large Nat.right_le_or) (Nat.not_le.mpr ascii)
  rcases char.utf8Size_eq with size | size | size | size
  · rw [String.utf8EncodeChar_eq_singleton size] at member ⊢
    rw [List.mem_singleton.mp member]
  · rw [String.utf8EncodeChar_eq_cons_cons size] at member
    simp only [List.mem_cons, List.not_mem_nil, or_false] at member
    rcases member with same | same <;> exact absurd same (high _ _ (by decide))
  · rw [String.utf8EncodeChar_eq_cons_cons_cons size] at member
    simp only [List.mem_cons, List.not_mem_nil, or_false] at member
    rcases member with same | same | same <;> exact absurd same (high _ _ (by decide))
  · rw [String.utf8EncodeChar_eq_cons_cons_cons_cons size] at member
    simp only [List.mem_cons, List.not_mem_nil, or_false] at member
    rcases member with same | same | same | same <;> exact absurd same (high _ _ (by decide))

/-- Characters with the same bytes are the same. -/
theorem eq_of_utf8EncodeChar (char other : Char)
    (same : String.utf8EncodeChar char = String.utf8EncodeChar other) : char = other := by
  have texts : String.ofList [char] = String.ofList [other] := by
    apply String.toByteArray_inj.mp
    rw [String.toByteArray_ofList, String.toByteArray_ofList, List.utf8Encode_singleton,
      List.utf8Encode_singleton, same]
  exact List.singleton_inj.mp (String.ofList_inj.mp texts)

end Utf8

namespace Value

/-- A character as it stands on a line: a line break becomes a space. -/
def flatChar (char : Char) : Char := if char = '\r' ∨ char = '\n' then ' ' else char

/-- A text as it stands on a line. -/
def flatText (text : String) : String := text.map flatChar

/-- The bytes of a flattened character are its flattened bytes. -/
theorem utf8EncodeChar_flatChar (char : Char) :
    String.utf8EncodeChar (flatChar char) = flatten (String.utf8EncodeChar char) := by
  by_cases breaks : char = '\r' ∨ char = '\n'
  · rcases breaks with rfl | rfl <;> decide
  · have kept (byte : UInt8) (member : byte ∈ String.utf8EncodeChar char) :
        ¬ (byte = 0x0d ∨ byte = 0x0a) := by
      rintro (rfl | rfl)
      · have alone := Utf8.eq_singleton_of_mem char _ member (by decide)
        exact breaks (.inl (Utf8.eq_of_utf8EncodeChar char '\r' alone))
      · have alone := Utf8.eq_singleton_of_mem char _ member (by decide)
        exact breaks (.inr (Utf8.eq_of_utf8EncodeChar char '\n' alone))
    rw [flatChar, if_neg breaks, flatten]
    conv_lhs => rw [← List.map_id (String.utf8EncodeChar char)]
    refine List.map_congr_left fun byte member => ?_
    rw [if_neg (kept byte member)]
    rfl

/-- The bytes of a flattened text are its flattened bytes. -/
theorem encode_flatText (text : String) :
    Utf8.encode (flatText text) = flatten (Utf8.encode text) := by
  rw [Utf8.encode_eq_flatMap, Utf8.encode_eq_flatMap, flatText, String.toList_map, List.flatMap_map,
    flatten, List.map_flatMap]
  exact List.flatMap_congr fun char _ => utf8EncodeChar_flatChar char

/-- Flattened bytes hold no line break. -/
theorem no_break_of_flatten (bytes : List UInt8) :
    0x0d ∉ flatten bytes ∧ 0x0a ∉ flatten bytes := by
  have apart (found : UInt8) (member : found ∈ flatten bytes) : found ≠ 0x0d ∧ found ≠ 0x0a := by
    obtain ⟨byte, _, rfl⟩ := List.mem_map.mp member
    split
    · exact ⟨by decide, by decide⟩
    · next kept => exact not_or.mp kept
  exact ⟨fun member => (apart _ member).1 rfl, fun member => (apart _ member).2 rfl⟩

/-- Flattening once is enough. -/
theorem flatten_flatten (bytes : List UInt8) : flatten (flatten bytes) = flatten bytes := by
  rw [flatten, flatten, List.map_map]
  refine List.map_congr_left fun byte _ => ?_
  by_cases breaks : byte = 0x0d ∨ byte = 0x0a
  · simp [breaks]
  · simp [breaks]

end Value

end KeyValueServer
