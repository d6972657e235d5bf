import KeyValueServer.Value
import KeyValueServer.Text.Decimal

/-!
# The readable form of values

How a value is shown to a person: strings in quotes, and the shapes without a literal of their own
in round brackets. Bytes that are no UTF-8 text are counted instead of shown.
-/

namespace KeyValueServer.Value

/-- The readable form of a bulk string. -/
def displayBytes (bytes : List UInt8) : String :=
  match Utf8.decode bytes with
  | .ok text => "\"" ++ text ++ "\""
  | .error _ => s!"(binary data, {bytes.length} bytes)"

mutual

/-- Appends the readable form of a value to a text. -/
def displayTo (shown : String) : Value → String
  | .simple text => shown ++ "\"" ++ text ++ "\""
  | .error text => shown ++ "(error) " ++ text
  | .integer number => shown ++ s!"(integer) {number.toInt}"
  | .bulk bytes => shown ++ displayBytes bytes
  | .null => shown ++ "(nil)"
  | .array [] => shown ++ "[]"
  | .array (first :: others) => displayOthersTo (first.displayTo (shown ++ "[")) others ++ "]"

/-- Appends the readable forms of the elements behind the first, each behind a comma. -/
def displayOthersTo (shown : String) : List Value → String
  | [] => shown
  | value :: values => displayOthersTo (value.displayTo (shown ++ ", ")) values

end

/-- The readable form of a value. -/
def display (value : Value) : String :=
  value.displayTo ""

example : (Value.array [.bulk [0x61], .null, .integer (-3), .bulk [0xff]]).display =
    "[\"a\", (nil), (integer) -3, (binary data, 1 bytes)]" := by decide

end KeyValueServer.Value
