/-!
# UTF-8 text over byte lists

Reading and writing text as UTF-8, the position at which bytes stop being UTF-8, and the repair
that replaces every ill-formed stretch by one replacement character.

Whether a whole byte list is UTF-8 is asked of the string library (`decode`). This module adds
only what that answer leaves out: where the first ill-formed stretch begins and how long it is.
A stretch is the longest run of bytes that begins some character and cannot be completed, and it
holds at least one byte.
-/

namespace KeyValueServer.Utf8

/-- The UTF-8 bytes of a text. -/
def encode (text : String) : List UInt8 :=
  text.toUTF8.data.toList

/-- The closed ranges in which the bytes after a first byte have to lie, or `none` when no
character begins with that byte. The second byte is limited further where a shorter encoding
exists, or where the code point would be a surrogate or too large. -/
def followers (first : UInt8) : Option (List (UInt8 × UInt8)) :=
  if first ≤ 0x7f then some []
  else if first < 0xc2 then none
  else if first ≤ 0xdf then some [(0x80, 0xbf)]
  else if first = 0xe0 then some [(0xa0, 0xbf), (0x80, 0xbf)]
  else if first = 0xed then some [(0x80, 0x9f), (0x80, 0xbf)]
  else if first ≤ 0xef then some [(0x80, 0xbf), (0x80, 0xbf)]
  else if first = 0xf0 then some [(0x90, 0xbf), (0x80, 0xbf), (0x80, 0xbf)]
  else if first ≤ 0xf3 then some [(0x80, 0xbf), (0x80, 0xbf), (0x80, 0xbf)]
  else if first = 0xf4 then some [(0x80, 0x8f), (0x80, 0xbf), (0x80, 0xbf)]
  else none

/-- What stands at the front of a nonempty byte list. -/
inductive Front where
  /-- The first `width` bytes encode one character. -/
  | whole (width : Nat)
  /-- The first `width` bytes belong to no character. -/
  | broken (width : Nat)
  /-- The bytes end inside a character. -/
  | cut
  deriving DecidableEq, Repr

/-- Compares the bytes after a first byte with the ranges they have to lie in; `width` counts the
bytes that fit so far. -/
def frontAfter (width : Nat) : List (UInt8 × UInt8) → List UInt8 → Front
  | [], _ => .whole width
  | _ :: _, [] => .cut
  | (low, high) :: ranges, byte :: rest =>
    if low ≤ byte ∧ byte ≤ high then frontAfter (width + 1) ranges rest else .broken width

/-- What stands at the front of `first :: rest`. -/
def front (first : UInt8) (rest : List UInt8) : Front :=
  match followers first with
  | none => .broken 1
  | some ranges => frontAfter 1 ranges rest

/-- Where bytes stop being UTF-8: the index of the first byte of the ill-formed stretch, and its
width unless the bytes end inside it. -/
structure Fault where
  index : Nat
  width : Option Nat
  deriving DecidableEq, Repr

/-- The English description of a fault. -/
def Fault.message (fault : Fault) : String :=
  match fault.width with
  | some width => s!"invalid utf-8 sequence of {width} bytes from index {fault.index}"
  | none => s!"incomplete utf-8 byte sequence from index {fault.index}"

/-- The first fault at or after `index`, where the next `skip` bytes belong to a character that
was already examined. At the end of the bytes the fault lies behind the last one. -/
def faultFrom (index : Nat) (skip : Nat) : List UInt8 → Fault
  | [] => ⟨index, none⟩
  | byte :: rest =>
    match skip with
    | left + 1 => faultFrom (index + 1) left rest
    | 0 =>
      match front byte rest with
      | .whole width => faultFrom (index + 1) (width - 1) rest
      | .broken width => ⟨index, some width⟩
      | .cut => ⟨index, none⟩

/-- Reads bytes as UTF-8 text, or says where they stop being UTF-8. -/
def decode (bytes : List UInt8) : Except Fault String :=
  match String.fromUTF8? bytes.toByteArray with
  | some text => .ok text
  | none => .error (faultFrom 0 0 bytes)

/-- The UTF-8 bytes of the replacement character U+FFFD, last byte first. -/
def replacementReversed : List UInt8 := [0xbd, 0xbf, 0xef]

/-- Copies bytes in front of `copied` (last byte first), with one replacement character for every
ill-formed stretch. The next `skip` bytes belong to a stretch that was already examined, and are
copied only if `keep` holds. -/
def repairFrom (copied : List UInt8) (keep : Bool) (skip : Nat) : List UInt8 → List UInt8
  | [] => copied.reverse
  | byte :: rest =>
    match skip with
    | left + 1 => repairFrom (if keep then byte :: copied else copied) keep left rest
    | 0 =>
      match front byte rest with
      | .whole width => repairFrom (byte :: copied) true (width - 1) rest
      | .broken width => repairFrom (replacementReversed ++ copied) false (width - 1) rest
      | .cut => (replacementReversed ++ copied).reverse

/-- The bytes with one replacement character for every ill-formed stretch. -/
def repair (bytes : List UInt8) : List UInt8 :=
  repairFrom [] true 0 bytes

/-- Reads bytes as text, whatever they are: an ill-formed stretch reads as U+FFFD. -/
def decodeLossy (bytes : List UInt8) : String :=
  (String.fromUTF8? (repair bytes).toByteArray).getD ""

/-- Writing a text and reading it back gives the text. -/
theorem decode_encode (text : String) : decode (encode text) = .ok text := by
  have stored : (encode text).toByteArray = text.toUTF8 := by
    apply ByteArray.ext
    simp [encode, List.data_toByteArray]
  simp only [decode, stored, String.fromUTF8?, String.toUTF8_eq_toByteArray,
    dif_pos text.isValidUTF8]
  rfl

example : (decode [0x41, 0xe2, 0x82, 0x20]).toOption = none := by decide

example : faultFrom 0 0 [0x41, 0xe2, 0x82, 0x20] = ⟨1, some 2⟩ := by decide

example : decodeLossy [0x61, 0xff, 0x62, 0xe2, 0x82] = "a\ufffdb\ufffd" := by decide

end KeyValueServer.Utf8
