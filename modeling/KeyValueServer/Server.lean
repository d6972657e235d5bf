import KeyValueServer.Command.Execute
import KeyValueServer.Config
import KeyValueServer.Connection.Traffic
import KeyValueServer.Session
import KeyValueServer.ShutdownSignal

/-!
# The state of a running server

A server moves every connection through three pools of workers: one reads and decodes a request,
one executes it, one writes the reply. Between these jobs a session waits in a readiness set, or
in the queue of messages to the loop that owns that set. A session is in one place at a time, and
the registries say which stage it is in.

This module holds the state and the moves that several jobs share. The jobs themselves and the
order of steps are in the modules below it.
-/

namespace KeyValueServer

/-- A message to the loop that owns the readiness set, with the session it hands over. -/
inductive Control where
  /-- A new connection. -/
  | add (session : Session)
  /-- A request is incomplete. -/
  | readMore (session : Session)
  /-- A reply is written, and the next request may come. -/
  | rearm (session : Session)
  /-- The socket takes no more output for now. -/
  | awaitWritable (session : Session)
  /-- The connection is of no further use. -/
  | remove (session : Session)

/-- The session that a message hands over. -/
def Control.session : Control → Session
  | .add session | .readMore session | .rearm session | .awaitWritable session
  | .remove session => session

/-- A session in the readiness set, with what it waits for. -/
inductive Parked where
  | read (session : Session)
  | write (session : Session)

/-- The session that waits. -/
def Parked.session : Parked → Session
  | .read session | .write session => session

/-- A server with its connections. The sockets are those of all connections that were ever
admitted; the other end of each belongs to its client. -/
structure Server where
  config : Config
  registries : Registries
  traffic : Traffic
  store : Store
  readPool : JobPool Session
  processPool : JobPool Session
  writePool : JobPool Session
  /-- Messages that were not looked at yet, oldest first. -/
  control : List Control
  parked : Bindings ConnId Parked
  sockets : Bindings ConnId Socket
  /-- The number of the next connection. -/
  nextId : Nat
  signal : ShutdownSignal
  /-- Whether the loop that accepts connections is running. -/
  accepting : Bool
  /-- Whether the loop that owns the readiness set is running. -/
  polling : Bool
  /-- Whether the shutdown is complete. -/
  stopped : Bool

namespace Server

/-- The largest request, in bytes. -/
def requestLimit (server : Server) : Nat := server.config.maxRequestSize.toNat

/-- How many bytes one job reads at most: one more than the largest request has, which is enough
to see that a request is too large. The sum is checked, as in a build with overflow checks; in one
without them it would be 0 behind the largest 64-bit size, and a job would read nothing. -/
def readLimit (server : Server) : Except Fault Nat :=
  if server.requestLimit + 1 < UInt64.size then .ok (server.requestLimit + 1)
  else .error .sumOverflow

/-- The socket of a connection. -/
def socket (server : Server) (id : ConnId) : Socket := (server.sockets.find? id).getD .fresh

/-- Changes the socket of a connection. -/
def setSocket (server : Server) (id : ConnId) (socket : Socket) : Server :=
  { server with sockets := server.sockets.insert id socket }

/-- Closes the socket of a session that nothing holds any more. -/
def drop (server : Server) (session : Session) : Server :=
  server.setSocket session.id (server.socket session.id).hangUp

/-- The pool whose jobs belong to a stage. -/
def pool (server : Server) : Stage → JobPool Session
  | .readRegistered => server.readPool
  | .processing => server.processPool
  | .writePending => server.writePool

/-- Changes the pool whose jobs belong to a stage. -/
def setPool (server : Server) (stage : Stage) (pool : JobPool Session) : Server :=
  match stage with
  | .readRegistered => { server with readPool := pool }
  | .processing => { server with processPool := pool }
  | .writePending => { server with writePool := pool }

/-- Sends a message to the loop that owns the readiness set. -/
def notify (server : Server) (message : Control) : Server :=
  { server with control := server.control ++ [message] }

/-- Takes a connection out of the registries and counts it as closed, once. -/
def unregister (server : Server) (id : ConnId) : Server :=
  let (peer, registries) := server.registries.remove id
  { server with
    registries := registries
    traffic := if peer.isSome then server.traffic.closed 1 else server.traffic }

/-- Ends a connection. -/
def close (server : Server) (session : Session) : Server :=
  (server.unregister session.id).drop session

/-- Submits the job of a stage. A session whose job is not taken is lost with it. -/
def submit (server : Server) (stage : Stage) (session : Session) : Server :=
  match (server.pool stage).submit session with
  | .ok pool => server.setPool stage pool
  | .error _ => server.close session

/-- Hands a session on to the stage behind the one it is in. After writing comes the readiness
set, after the other stages the job of the next. -/
def advance (server : Server) (session : Session) (before after : Stage) : Server :=
  match server.registries.transition session.id (some before) after with
  | .error _ => server.notify (.remove session)
  | .ok registries =>
    let moved := { server with registries := registries }
    match after with
    | .readRegistered => moved.notify (.rearm session)
    | _ => moved.submit after session

end Server

end KeyValueServer
