import KeyValueServer.Server.Start

/-!
# A server in service

A server with numbered clients that act one after the other, each after the server has come to
rest. The server is driven by its own steps in one fixed order: messages first, then jobs, then
the readiness set. At rest no order of steps would have led elsewhere, because the clients wait
for each other.
-/

namespace KeyValueServer

namespace Server

/-- Whether the readiness set reports a session that waits in it. -/
def isReady (server : Server) (parked : Parked) : Bool :=
  match parked with
  | .read session => (server.socket session.id).isReadable
  | .write _ => true

/-- The next event on the server's own side, if it is not at rest. -/
def nextEvent? (server : Server) : Option Event :=
  if server.polling && !server.control.isEmpty then some (.applyControl true)
  else
    let working := [Stage.writePending, .processing, .readRegistered].find? fun stage =>
      !(server.pool stage).isIdle
    match working with
    | some stage =>
      if (server.pool stage).running.isEmpty then some (.start stage) else some (.finish stage 0)
    | none =>
      if server.polling then
        (server.parked.values.find? server.isReady).map fun parked => .ready parked.session.id
      else none

/-- Runs to rest, in at most `fuel` steps. -/
def settleWith (server : Server) : Nat → Server
  | 0 => server
  | fuel + 1 =>
    match server.nextEvent? with
    | none => server
    | some event => (server.step event).settleWith fuel

/-- How much there is to read in a socket: its bytes and its other arrivals. -/
def unread (socket : Socket) : Nat :=
  (socket.arrivals.map fun arrival =>
    match arrival with
    | .bytes content => content.length + 1
    | _ => 1).foldl (· + ·) 0

/-- The sessions of the server, wherever they are. -/
def sessions (server : Server) : List Session :=
  server.control.map Control.session ++ server.parked.values.map Parked.session ++
    [Stage.readRegistered, .processing, .writePending].flatMap fun stage =>
      (server.pool stage).queue ++ (server.pool stage).running

/-- A bound for the steps to rest. Ten steps take a session once through all stages; each round
takes a byte from its input or its socket, but for the round that ends it. -/
def effort (server : Server) : Nat :=
  let waiting := (server.sockets.values.map unread).foldl (· + ·) 0
  let buffered := (server.sessions.map fun session => session.input.length + 4).foldl (· + ·) 0
  10 * (2 * waiting + buffered + 4)

/-- Runs to rest. -/
def settle (server : Server) : Server := server.settleWith server.effort

/-- Shuts the server down, stage by stage. -/
def shutdown (server : Server) : Server :=
  let stopped := server.run [.trigger, .stopAccepting, .stopPolling]
  let drained := [Stage.readRegistered, .processing, .writePending].foldl
    (fun server stage => (server.step (.closePool stage)).settle) stopped
  drained.step .complete

end Server

/-- A server and the connections of its numbered clients. -/
structure Service where
  server : Server
  clients : Bindings Nat ConnId

namespace Service

/-- The server alone. -/
def create (server : Server) : Service := ⟨server, .empty⟩

/-- Whether a client has a connection that is open at both ends. -/
def isConnected (service : Service) (client : Nat) : Bool :=
  match service.clients.find? client with
  | none => false
  | some id =>
    let socket := service.server.socket id
    !socket.closed && !socket.peerClosed

/-- A client connects from an address; the answer is whether it was turned away. -/
def connect (service : Service) (client : Nat) (peer : Address) : Bool × Service :=
  let id : ConnId := ⟨service.server.nextId⟩
  let server := service.server.step (.connect peer)
  if server.sockets.contains id then
    (false, ⟨server.settle, service.clients.insert client id⟩)
  else (true, ⟨server, service.clients.erase client⟩)

/-- What a client gets for what it sent. -/
structure Answer where
  reply : List UInt8
  /-- Whether the server closed the connection. -/
  closed : Bool

/-- A client sends bytes and receives all that the server answers, if it is connected. -/
def send (service : Service) (client : Nat) (content : List UInt8) :
    Option Answer × Service :=
  if service.isConnected client then
    match service.clients.find? client with
    | none => (none, service)
    | some id =>
      let server := (service.server.step (.arrive id (.bytes content))).settle
      let socket := server.socket id
      (some ⟨socket.delivered, socket.closed⟩,
        { service with server := server.step (.receive id) })
  else (none, service)

/-- A client closes its connection, whose socket is then of no further use. -/
def close (service : Service) (client : Nat) : Service :=
  match service.clients.find? client with
  | none => service
  | some id =>
    let server := (service.server.step (.closePeer id)).settle
    { server := { server with sockets := server.sockets.erase id }
      clients := service.clients.erase client }

/-- Looks a key up in the store, past the server. -/
def get (service : Service) (key : List UInt8) : Option (List UInt8) × Service :=
  let (found, store) := service.server.store.get key
  (found, { service with server := { service.server with store := store } })

/-- Sets a key in the store, past the server. -/
def set (service : Service) (key value : List UInt8) : Bool × Service :=
  let (isNew, store) := service.server.store.set key value
  (isNew, { service with server := { service.server with store := store } })

/-- Shuts the server down. -/
def shutdown (service : Service) : Service :=
  { service with server := service.server.shutdown }

end Service

end KeyValueServer
