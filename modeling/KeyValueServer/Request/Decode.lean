import KeyValueServer.Request.Cursor
import KeyValueServer.Value.Wire
import KeyValueServer.Text.Blank

/-!
# Decoding requests

A request comes in one of two forms. The array form is what client libraries send: an array of
bulk strings, any of which may be the absent value. The inline form is what a person types: one
line of text whose words become the elements.

A decoder looks at whatever has arrived so far. It takes a complete request from the front, asks
for more bytes, or refuses the input. Bytes behind a complete request do not matter to it.
-/

namespace KeyValueServer.Request

/-- The longest bulk string that a decoder accepts unless it is told otherwise. -/
def defaultBulkLimit : Nat := 512 * 1024 * 1024

/-- The largest number of elements in a request. -/
def maxElements : Nat := 1024 * 1024

/-- A length line that has not ended after this many bytes cannot be one: a sign and twenty digits
are enough for every length. -/
def headerLimit : Nat := 32

/-- The number of bytes in front of the first CR LF, counted on from `passed`. -/
def lineLength? (passed : Nat) : List UInt8 → Option Nat
  | [] => none
  | [_] => none
  | first :: second :: rest =>
    if first = 0x0d ∧ second = 0x0a then some passed
    else lineLength? (passed + 1) (second :: rest)

namespace Cursor

/-- Reads the line at the cursor, without its terminator. -/
def header (cursor : Cursor) : Progress (List UInt8) :=
  match lineLength? 0 cursor.ahead with
  | some length => .complete (cursor.ahead.take length) (cursor.skip (length + 2))
  | none =>
    if cursor.ahead.length > headerLimit then .refused (.malformed "length header too long")
    else .incomplete

/-- Reads the line at the cursor as a length. -/
def length (cursor : Cursor) : Progress Int :=
  cursor.header.andThen fun header next =>
    match Decimal.read Decimal.int64 header with
    | .ok length => .complete length next
    | .error _ => .refused (.badLength (Utf8.decodeLossy header))

/-- Reads `length` bytes and the line terminator behind them. -/
def payload (cursor : Cursor) (length : Nat) : Progress Value :=
  match cursor.ahead.drop length with
  | first :: second :: _ =>
    if first = 0x0d ∧ second = 0x0a then
      .complete (.bulk (cursor.ahead.take length)) (cursor.skip (length + 2))
    else .refused (.malformed "bulk string missing trailing CRLF")
  | _ => .incomplete

/-- Reads one element of a request: a bulk string of at most `limit` bytes, or the absent value. -/
def element (limit : Nat) (cursor : Cursor) : Progress Value :=
  match cursor.ahead with
  | [] => .incomplete
  | marker :: _ =>
    if marker = Value.bulkMarker then
      (cursor.skip 1).length.andThen fun length body =>
        if length = -1 then .complete .null body
        else if length < 0 then .refused (.bulkLength length)
        else if length.toNat > limit then .refused (.tooLarge length.toNat limit)
        else body.payload length.toNat
    else .refused (.notBulk marker)

/-- Reads the remaining elements of a request, given those found so far (last one first). -/
def elements (limit : Nat) (found : List Value) : Nat → Cursor → Progress Value
  | 0, cursor => .complete (.array found.reverse) cursor
  | remaining + 1, cursor =>
    match cursor.element limit with
    | .incomplete => .incomplete
    | .refused error => .refused error
    | .complete value next => elements limit (value :: found) remaining next

/-- Reads a request in array form, from behind its marker. -/
def array (limit : Nat) (cursor : Cursor) : Progress Value :=
  cursor.length.andThen fun length body =>
    if length = -1 then .complete .null body
    else if length < 0 ∨ length > maxElements then .refused (.arrayLength length)
    else body.elements limit [] length.toNat

/-- A line without the CR that may precede its LF. -/
def withoutReturn (line : List UInt8) : List UInt8 :=
  if line.getLast? = some 0x0d then line.dropLast else line

/-- The elements of an inline request. -/
def wordValues (line : String) : List Value :=
  (Blank.words line.toList).map fun word => .bulk (Utf8.encode (String.ofList word))

/-- Reads a request in inline form. -/
def inline (cursor : Cursor) : Progress Value :=
  match cursor.ahead.findIdx? (· == 0x0a) with
  | none => .incomplete
  | some length =>
    match Utf8.decode (withoutReturn (cursor.ahead.take length)) with
    | .error fault => .refused (.notText fault.message)
    | .ok line =>
      match wordValues line with
      | [] => .refused (.malformed "empty inline command")
      | values => .complete (.array values) (cursor.skip (length + 1))

end Cursor

/-- Whether a byte announces a value that only servers send on their own. -/
def isReplyMarker (byte : UInt8) : Bool :=
  byte = Value.simpleMarker || byte = Value.errorMarker || byte = Value.integerMarker ||
    byte = Value.bulkMarker

/-- Takes one request from the front of a buffer, with bulk strings of at most `limit` bytes in
the array form. -/
def decode (limit : Nat) (buffer : List UInt8) : Progress Value :=
  match buffer with
  | [] => .incomplete
  | first :: _ =>
    if first = Value.arrayMarker then ((Cursor.start buffer).skip 1).array limit
    else if isReplyMarker first then .refused (.replyMarker first)
    else (Cursor.start buffer).inline

/-- Takes requests from the front of a buffer, one behind the other, and ends with the first
outcome that is not a request. The fuel bounds their number. -/
def decodeAllFrom (limit : Nat) (found : List (Value × Nat)) :
    Nat → List UInt8 → List (Value × Nat) × List UInt8 × Progress Value
  | 0, buffer => (found.reverse, buffer, decode limit buffer)
  | fuel + 1, buffer =>
    match decode limit buffer with
    | .complete value next => decodeAllFrom limit ((value, next.position) :: found) fuel next.ahead
    | outcome => (found.reverse, buffer, outcome)

/-- The requests at the front of a buffer with the number of bytes that each took, the bytes
behind them, and why no further one follows. -/
def decodeAll (limit : Nat) (buffer : List UInt8) :
    List (Value × Nat) × List UInt8 × Progress Value :=
  decodeAllFrom limit [] buffer.length buffer

end KeyValueServer.Request
