import KeyValueServer.Value
import KeyValueServer.Text.Decimal

/-!
# The wire form of values

Every form starts with a marker byte for its shape. Status, failure, integer and length lines end
at the first CR LF; a bulk string is a length line followed by exactly that many bytes and CR LF,
so its bytes need no escaping. An array is a length line followed by the forms of its elements.

Forms are appended to an output that already holds others, so a long array is written in one pass.
-/

namespace KeyValueServer.Value

/-- The bytes that announce the shape of a value. -/
def simpleMarker : UInt8 := 0x2b
def errorMarker : UInt8 := 0x2d
def integerMarker : UInt8 := 0x3a
def bulkMarker : UInt8 := 0x24
def arrayMarker : UInt8 := 0x2a

/-- The line terminator. -/
def crlf : List UInt8 := [0x0d, 0x0a]

/-- Text that fits on one line: every CR and every LF becomes a space. -/
def flatten (text : List UInt8) : List UInt8 :=
  text.map fun byte => if byte = 0x0d ∨ byte = 0x0a then 0x20 else byte

/-- A line with its marker and its terminator. -/
def line (marker : UInt8) (content : List UInt8) : List UInt8 :=
  marker :: (content ++ crlf)

mutual

/-- Appends the wire form of a value to an output. -/
def appendTo (output : Array UInt8) : Value → Array UInt8
  | .simple text => output ++ line simpleMarker (flatten (Utf8.encode text))
  | .error text => output ++ line errorMarker (flatten (Utf8.encode text))
  | .integer number => output ++ line integerMarker (Decimal.write number.toInt)
  | .bulk bytes => output ++ line bulkMarker (Decimal.digits bytes.length) ++ bytes ++ crlf
  | .null => output ++ line bulkMarker (Decimal.write (-1))
  | .array elements =>
    appendAllTo (output ++ line arrayMarker (Decimal.digits elements.length)) elements

/-- Appends the wire forms of several values to an output, one behind the other. -/
def appendAllTo (output : Array UInt8) : List Value → Array UInt8
  | [] => output
  | value :: values => appendAllTo (value.appendTo output) values

end

/-- The wire form of a value. -/
def encode (value : Value) : List UInt8 :=
  (value.appendTo #[]).toList

mutual

/-- Appending leaves what the output holds and adds what it would add to an empty output. -/
theorem toList_appendTo : ∀ (output : Array UInt8) (value : Value),
    (value.appendTo output).toList = output.toList ++ value.encode
  | output, .simple _ | output, .error _ | output, .integer _ | output, .bulk _
  | output, .null => by simp [encode, appendTo]
  | output, .array elements => by
    simp only [encode, appendTo]
    rw [toList_appendAllTo, toList_appendAllTo _ elements]
    simp

/-- Appending several values adds their wire forms in order. -/
theorem toList_appendAllTo : ∀ (output : Array UInt8) (values : List Value),
    (appendAllTo output values).toList = output.toList ++ values.flatMap encode
  | output, [] => by simp [appendAllTo]
  | output, value :: values => by
    rw [appendAllTo, toList_appendAllTo, toList_appendTo]
    simp

end

/-- An array is written as its length and then its elements. -/
theorem encode_array (elements : List Value) :
    (Value.array elements).encode =
      line arrayMarker (Decimal.digits elements.length) ++ elements.flatMap encode := by
  rw [encode, appendTo, toList_appendAllTo]
  simp

end KeyValueServer.Value
