/-!
# Why bytes are no request

The causes for which the decoder refuses its input, and their wording for the client. A cause is
fatal when the client cannot be expected to continue with anything that makes sense.
-/

namespace KeyValueServer.Request

/-- A cause for refusing input. -/
inductive Error where
  /-- The first byte announces a reply, not a request. -/
  | replyMarker (byte : UInt8)
  /-- An element of a request begins with a byte other than the marker of bulk strings. -/
  | notBulk (byte : UInt8)
  /-- A length line holds something that is no integer. -/
  | badLength (text : String)
  /-- An inline request is not UTF-8. -/
  | notText (detail : String)
  /-- A bulk string declares a negative length that does not stand for the absent value. -/
  | bulkLength (length : Int)
  /-- An array declares a length out of range. -/
  | arrayLength (length : Int)
  /-- The framing is violated in some other way. -/
  | malformed (detail : String)
  /-- The request is larger than the server accepts. -/
  | tooLarge (size limit : Nat)
  deriving DecidableEq, Repr

/-- The two hexadecimal digits of a byte. -/
def hexByte (byte : UInt8) : String :=
  String.ofList [Nat.digitChar (byte.toNat / 16), Nat.digitChar (byte.toNat % 16)]

namespace Error

/-- The wording of a cause. -/
def message : Error → String
  | .replyMarker byte => "expected '*' or an inline command, got 0x" ++ hexByte byte
  | .notBulk byte => "expected '$', got 0x" ++ hexByte byte
  | .badLength text => "invalid length: " ++ text
  | .notText detail => "invalid UTF-8: " ++ detail
  | .bulkLength length => s!"invalid bulk length: {length}"
  | .arrayLength length => s!"invalid multibulk length: {length}"
  | .malformed detail => detail
  | .tooLarge size limit => s!"message too large: {size} bytes (max: {limit})"

/-- Whether the connection has to be closed: a request that is too long leaves no point at which
the next one could be recognised. -/
def isFatal : Error → Bool
  | .tooLarge _ _ | .arrayLength _ => true
  | _ => false

end Error

end KeyValueServer.Request
