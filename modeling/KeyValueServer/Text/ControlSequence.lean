import KeyValueServer.Text.Utf8

/-!
# Control sequences

Terminal control sequences in UTF-8 text, and the text that is left without them. A sequence begins
with the escape byte and ends as the state says in which it is; one that does not end takes with it
everything up to the next escape byte. Blanks between lines and words are shown also where they
stand inside a sequence, and the characters behind such a blank are shown as well until one comes
that has no visible form.
-/

namespace KeyValueServer.ControlSequence

/-- Where the bytes of a text are with respect to control sequences. -/
inductive State where
  /-- In text outside sequences. -/
  | ground
  /-- Behind the escape byte. -/
  | escape
  | escapeIntermediate
  /-- At the beginning of a control sequence proper. -/
  | controlEntry
  | controlParameter
  | controlIntermediate
  | controlIgnored
  /-- At the beginning of a device control string. -/
  | deviceEntry
  | deviceParameter
  | deviceIntermediate
  | devicePassing
  | deviceIgnored
  /-- In a string for the operating system. -/
  | systemString
  /-- In a string of one of the other kinds. -/
  | otherString
  deriving DecidableEq, Repr

/-- Whether a byte lies in a closed range. -/
def within (low high byte : UInt8) : Bool := low ≤ byte && byte ≤ high

/-- Whether a byte begins a character of several bytes. -/
def leads (byte : UInt8) : Bool := within 0xc2 0xf4 byte

/-- How many bytes of its character follow a byte that begins one. -/
def followers (byte : UInt8) : Nat :=
  if within 0xc2 0xdf byte then 1
  else if within 0xe0 0xef byte then 2
  else if within 0xf0 0xf4 byte then 3
  else 0

namespace State

/-- Whether control characters have their usual effect in a state. -/
def obeys : State → Bool
  | .ground | .escape | .escapeIntermediate => true
  | .controlEntry | .controlParameter | .controlIntermediate | .controlIgnored => true
  | _ => false

/-- Whether a byte is shown in a state, be it as text or as a blank. -/
def shows (state : State) (byte : UInt8) : Bool :=
  (state = .ground && (within 0x20 0x7e byte || leads byte)) ||
    (state.obeys && (byte = 0x09 || byte = 0x0a || byte = 0x0c || byte = 0x0d))

/-- What the byte behind the escape byte begins. -/
def afterEscape (byte : UInt8) : State :=
  if within 0x20 0x2f byte then .escapeIntermediate
  else if byte = 0x5b then .controlEntry
  else if byte = 0x50 then .deviceEntry
  else if byte = 0x5d then .systemString
  else if byte = 0x58 || byte = 0x5e || byte = 0x5f then .otherString
  else if within 0x30 0x7e byte then .ground
  else .escape

/-- The state behind a byte that is not shown. -/
def next (state : State) (byte : UInt8) : State :=
  if byte = 0x1b then .escape
  else if byte = 0x18 || byte = 0x1a then .ground
  else
    match state with
    | .ground => .ground
    | .escape => afterEscape byte
    | .escapeIntermediate => if within 0x30 0x7e byte then .ground else state
    | .controlEntry =>
      if within 0x20 0x2f byte then .controlIntermediate
      else if within 0x30 0x3f byte then .controlParameter
      else if within 0x40 0x7e byte then .ground
      else state
    | .controlParameter =>
      if within 0x20 0x2f byte then .controlIntermediate
      else if within 0x3c 0x3f byte then .controlIgnored
      else if within 0x40 0x7e byte then .ground
      else state
    | .controlIntermediate =>
      if within 0x30 0x3f byte then .controlIgnored
      else if within 0x40 0x7e byte then .ground
      else state
    | .controlIgnored => if within 0x40 0x7e byte then .ground else state
    | .deviceEntry =>
      if within 0x20 0x2f byte then .deviceIntermediate
      else if within 0x30 0x3f byte then .deviceParameter
      else if within 0x40 0x7e byte then .devicePassing
      else state
    | .deviceParameter =>
      if within 0x20 0x2f byte then .deviceIntermediate
      else if within 0x3c 0x3f byte then .deviceIgnored
      else if within 0x40 0x7e byte then .devicePassing
      else state
    | .deviceIntermediate =>
      if within 0x30 0x3f byte then .deviceIgnored
      else if within 0x40 0x7e byte then .devicePassing
      else state
    | .devicePassing | .deviceIgnored | .otherString => if byte = 0x9c then .ground else state
    | .systemString => if byte = 0x07 then .ground else state

end State

/-- The bytes without control sequences, behind those shown so far, last one first. While bytes are
being shown, whether the next one is shown too does not depend on the state; a character of several
bytes, of which `left` are still to come, is shown whole and ends every sequence. -/
def stripFrom (shown : List UInt8) (showing : Bool) (state : State) (left : Nat) :
    List UInt8 → List UInt8
  | [] => shown.reverse
  | byte :: rest =>
    if 0 < left then stripFrom (byte :: shown) true .ground (left - 1) rest
    else if (if showing then State.ground else state).shows byte then
      stripFrom (byte :: shown) true (if leads byte then .ground else state) (followers byte) rest
    else stripFrom shown false (state.next byte) 0 rest

/-- A text without its control sequences. -/
def strip (text : String) : String :=
  Utf8.decodeLossy (stripFrom [] false .ground 0 (Utf8.encode text))

/-- A text that begins with the control sequences of a style and ends with the one that ends all
styles. -/
def styled (codes : List String) (text : String) : String :=
  String.join (codes.map fun code => "\x1b[" ++ code ++ "m") ++ text ++ "\x1b[0m"

example : strip (styled ["1", "31"] "error:" ++ " x") = "error: x" := by decide

example : strip "a\x1b]0;title\x07b" = "ab" := by decide

end KeyValueServer.ControlSequence
