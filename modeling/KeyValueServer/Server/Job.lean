import KeyValueServer.Server

/-!
# The jobs of a server

One job advances one session by one stage and hands it on: to the next pool, or in a message to the
loop that owns the readiness set. Whatever goes wrong with a connection becomes a reply or the
message to remove it. A job that stops with a fault loses its session.
-/

namespace KeyValueServer.Server

/-- The reply to input that is no request. -/
def refusal (error : Request.Error) : Value :=
  .error ("ERR Protocol error: " ++ error.message)

/-- A job that stops: its session is lost. -/
def fail (server : Server) (session : Session) (fault : Fault) : Option Fault × Server :=
  (some fault, server.drop session)

/-- Decodes a request from the input of a session, and hands the session on. Input that is too
long for any request is refused, if it holds no complete one. -/
def decodeNext (server : Server) (session : Session) : Option Fault × Server :=
  match session.parseNext server.requestLimit with
  | .error fault => server.fail session fault
  | .ok (true, session) => (none, server.advance session .readRegistered .processing)
  | .ok (false, session) =>
    let buffered := session.input.length
    if buffered ≤ server.requestLimit then (none, server.notify (.readMore session))
    else
      let rejected := session.reject (.tooLarge buffered server.requestLimit)
      (none, server.advance rejected .readRegistered .processing)

/-- Reads input and decodes a request. -/
def read (server : Server) (session : Session) : Option Fault × Server :=
  match server.readLimit with
  | .error fault => server.fail session fault
  | .ok limit =>
    let (answer, session, socket) := session.fill limit (server.socket session.id)
    let server := server.setSocket session.id socket
    match answer with
    | .error _ => (none, server.notify (.remove session))
    | .ok count =>
      decodeNext { server with traffic := server.traffic.received count.toUInt64 } session

/-- Executes the request of a session, or answers why there is none. Input that cannot be divided
into requests any more is dropped. -/
def process (server : Server) (session : Session) : Option Fault × Server :=
  let (command, session) := session.takeCommand
  match command with
  | none => (none, server.notify (.remove session))
  | some (.ok request) =>
    let (reply, store) := Command.execute server.store request
    let server := { server with traffic := server.traffic.executed 1, store := store }
    (none, server.advance (session.queueReply reply) .processing .writePending)
  | some (.error error) =>
    let server := { server with traffic := server.traffic.refused 1 }
    let session := session.discardInput
    let session := if error.isFatal then session.closeWhenWritten else session
    (none, server.advance (session.queueReply (refusal error)) .processing .writePending)

/-- Writes output. -/
def write (server : Server) (session : Session) : Option Fault × Server :=
  let (answer, session, socket) := session.flush (server.socket session.id)
  let server := server.setSocket session.id socket
  match answer with
  | .error _ => (none, server.notify (.remove session))
  | .ok (.blocked count) =>
    let server := { server with traffic := server.traffic.sent count.toUInt64 }
    (none, server.notify (.awaitWritable session))
  | .ok (.done count) =>
    let server := { server with traffic := server.traffic.sent count.toUInt64 }
    if session.closeAfterWrite then (none, server.notify (.remove session))
    else (none, server.advance session .writePending .readRegistered)

/-- The job of a stage. It begins by checking that the registries agree with it. -/
def runJob (server : Server) (stage : Stage) (session : Session) : Option Fault × Server :=
  let found := server.registries.stageOf session.id
  if found = some stage then
    match stage with
    | .readRegistered => server.read session
    | .processing => server.process session
    | .writePending => server.write session
  else server.fail session (.stageMismatch found (some stage))

end KeyValueServer.Server
