import KeyValueServer.Network.Failure

/-!
# What ends a connection

The outcomes of reading and writing that leave a connection of no further use.
-/

namespace KeyValueServer

/-- A reason to give a connection up. -/
inductive ConnectionError where
  /-- A call to the operating system failed. -/
  | io (failure : Failure)
  /-- The client ended its output. -/
  | disconnected
  /-- The socket took no bytes of a nonempty output. -/
  | writeZero
  deriving DecidableEq, Repr

namespace ConnectionError

/-- The wording of a reason. -/
def message : ConnectionError → String
  | .io failure => "I/O error: " ++ failure.text
  | .disconnected => "Client disconnected"
  | .writeZero => "Socket closed while writing"

/-- Whether this is one of the usual ways in which clients go away. -/
def isDisconnect : ConnectionError → Bool
  | .disconnected | .writeZero => true
  | .io failure => failure.kind != .other

end ConnectionError

end KeyValueServer
