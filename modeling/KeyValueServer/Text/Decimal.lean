/-!
# Decimal literals of fixed-width integers

The written form of an integer and the reader for literals with an optional sign. The reader takes
the digits from the left and names the first thing that is wrong, so of an unfit character and a
value out of range the one further left is reported.
-/

namespace KeyValueServer.Decimal

/-- The decimal digits of a natural number, as ASCII bytes. -/
def digits (number : Nat) : List UInt8 :=
  (Nat.toDigits 10 number).map fun digit => digit.toNat.toUInt8

/-- An integer as ASCII bytes, with a minus sign when it is negative. -/
def write (number : Int) : List UInt8 :=
  if number < 0 then 0x2d :: digits number.natAbs else digits number.natAbs

/-- The largest magnitudes that a literal may have. `below` is absent for types without negative
numbers, whose literals take no minus sign. -/
structure Range where
  below : Option Nat
  above : Nat
  deriving DecidableEq, Repr

/-- The 64-bit two's complement integers. -/
def int64 : Range := ⟨some 0x8000000000000000, 0x7fffffffffffffff⟩

/-- The 64-bit natural numbers. -/
def uint64 : Range := ⟨none, 0xffffffffffffffff⟩

/-- What makes a text no literal of its type. -/
inductive Fault where
  | empty
  | unfitCharacter
  | tooLarge
  | tooSmall
  deriving DecidableEq, Repr

/-- The English description of a fault. -/
def Fault.message : Fault → String
  | .empty => "cannot parse integer from empty string"
  | .unfitCharacter => "invalid digit found in string"
  | .tooLarge => "number too large to fit in target type"
  | .tooSmall => "number too small to fit in target type"

/-- The value of an ASCII digit. -/
def digit? (byte : UInt8) : Option Nat :=
  if 0x30 ≤ byte ∧ byte ≤ 0x39 then some (byte.toNat - 0x30) else none

/-- Reads digits behind the number `value`, up to the magnitude `limit`. -/
def readDigits (limit : Nat) (beyond : Fault) (value : Nat) : List UInt8 → Except Fault Nat
  | [] => .ok value
  | byte :: rest =>
    match digit? byte with
    | none => .error .unfitCharacter
    | some digit =>
      let next := value * 10 + digit
      if next ≤ limit then readDigits limit beyond next rest else .error beyond

/-- Reads a magnitude, which has at least one digit. -/
def readMagnitude (limit : Nat) (beyond : Fault) : List UInt8 → Except Fault Nat
  | [] => .error .unfitCharacter
  | digits => readDigits limit beyond 0 digits

/-- Reads a literal: an optional sign and at least one digit, with a value in the range. -/
def read (range : Range) : List UInt8 → Except Fault Int
  | [] => .error .empty
  | 0x2b :: digits => (readMagnitude range.above .tooLarge digits).map Int.ofNat
  | 0x2d :: digits =>
    match range.below with
    | none => .error .unfitCharacter
    | some limit => (readMagnitude limit .tooSmall digits).map fun magnitude => -(magnitude : Int)
  | digits => (readMagnitude range.above .tooLarge digits).map Int.ofNat

example : write (-120) = [0x2d, 0x31, 0x32, 0x30] := by decide

example : (read int64 (write (-0x8000000000000000))).toOption = some (-0x8000000000000000) := by
  decide

example : (read uint64 [0x2d, 0x31]).toOption = none := by decide

end KeyValueServer.Decimal
