import KeyValueServer.Connection.Error
import KeyValueServer.Connection.Registry
import KeyValueServer.Fault
import KeyValueServer.Network.Socket
import KeyValueServer.Request.Decode

/-!
# Sessions

The state of one connection between its socket and the execution of its requests: input that is
not decoded yet, at most one decoded request that waits for execution, and replies that are not
written yet. Input arrives in pieces of any size; what a request does not use stays for the next.
-/

namespace KeyValueServer

/-- The state of one connection. -/
structure Session where
  id : ConnId
  peer : Address
  input : List UInt8
  output : List UInt8
  /-- The request that waits for execution, or why there is none. -/
  command : Option (Except Request.Error Value)
  /-- Whether the connection ends once the output is written. -/
  closeAfterWrite : Bool

namespace Session

/-- The session of a connection that was just made. -/
def create (id : ConnId) (peer : Address) : Session := ⟨id, peer, [], [], none, false⟩

/-- The session of a connection that was just made, if there can be room for `capacity` bytes of
input from the start. -/
def createWith (id : ConnId) (peer : Address) (capacity : Nat) : Except Fault Session :=
  (Fault.checkRoom capacity 1).map fun _ => create id peer

/-- Reads from the socket until it would have to wait or `limit` bytes were read. The answer is
the number of bytes read, or why the connection is of no further use; bytes that were read before
the failure are kept. -/
def fill (session : Session) (limit : Nat) (socket : Socket) :
    Except ConnectionError Nat × Session × Socket :=
  let (content, stop, socket) := socket.read limit
  let filled :=
    if content.isEmpty then session else { session with input := session.input ++ content }
  let answer :=
    match stop with
    | .limit | .wouldBlock => .ok content.length
    | .ended => .error .disconnected
    | .failed failure => .error (.io failure)
  (answer, filled, socket)

/-- Takes one request from the front of the input, with bulk strings of at most `limit` bytes. The
answer is whether a request, or a reason why there is none, waits for execution now. -/
def parseNext (session : Session) (limit : Nat) : Except Fault (Bool × Session) :=
  if session.command.isSome then .error .commandPending
  else if session.input.isEmpty then .ok (false, session)
  else
    match Request.decode limit session.input with
    | .incomplete => .ok (false, session)
    | .refused error => .ok (true, { session with command := some (.error error) })
    | .complete value next =>
      .ok (true, { session with input := next.ahead, command := some (.ok value) })

/-- Puts a reason in the place of the request that waits for execution. -/
def reject (session : Session) (error : Request.Error) : Session :=
  { session with command := some (.error error) }

/-- Takes what waits for execution. -/
def takeCommand (session : Session) : Option (Except Request.Error Value) × Session :=
  (session.command, { session with command := none })

/-- Drops the input. -/
def discardInput (session : Session) : Session := { session with input := [] }

/-- Adds a reply to the output. -/
def queueReply (session : Session) (reply : Value) : Session :=
  { session with output := session.output ++ reply.encode }

/-- Lets the connection end once the output is written. -/
def closeWhenWritten (session : Session) : Session := { session with closeAfterWrite := true }

/-- How a flush ended that did not fail. -/
inductive Flush where
  /-- All output was written. -/
  | done (count : Nat)
  /-- The socket took some output and would have to wait for more. -/
  | blocked (count : Nat)
  deriving DecidableEq, Repr

/-- Writes as much of the output as the socket takes. -/
def flush (session : Session) (socket : Socket) :
    Except ConnectionError Flush × Session × Socket :=
  let (count, stop, left, socket) := socket.write session.output
  let answer :=
    match stop with
    | .done => .ok (.done count)
    | .wouldBlock => .ok (.blocked count)
    | .nothingTaken => .error .writeZero
    | .failed failure => .error (.io failure)
  (answer, { session with output := left }, socket)

/-- The session in reports on the server's own state. -/
def describe (session : Session) : String :=
  "Session \x7b id: ConnId(" ++ toString session.id.number ++ "), peer: " ++
    session.peer.display ++ ", buffered_input: " ++ toString session.input.length ++
    ", pending_output: " ++ toString session.output.length ++
    ", has_command: " ++ toString session.command.isSome ++
    ", close_after_write: " ++ toString session.closeAfterWrite ++ " \x7d"

end Session

end KeyValueServer
