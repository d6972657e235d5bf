/-!
# Stages of a connection

What a registered connection is waiting for or going through. A connection that was just admitted
has no stage yet.
-/

namespace KeyValueServer

/-- The stages in the order in which one request passes through them. -/
inductive Stage where
  /-- Waiting for input, or reading it. -/
  | readRegistered
  /-- Having its request executed. -/
  | processing
  /-- Waiting to send its reply, or sending it. -/
  | writePending
  deriving DecidableEq, Repr

namespace Stage

/-- The name of a stage. -/
def name : Stage → String
  | .readRegistered => "read-registered"
  | .processing => "processing"
  | .writePending => "write-pending"

/-- The name of a stage in reports on the server's own state. -/
def label : Stage → String
  | .readRegistered => "ReadRegistered"
  | .processing => "Processing"
  | .writePending => "WritePending"

/-- A stage that may be missing, in reports on the server's own state. -/
def describe : Option Stage → String
  | none => "None"
  | some stage => "Some(" ++ stage.label ++ ")"

end Stage

end KeyValueServer
