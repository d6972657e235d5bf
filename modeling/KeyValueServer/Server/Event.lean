import KeyValueServer.Server.Job

/-!
# The steps of a server

Everything that happens to a server is one of the events below: what clients and the network do,
what the two loops do, and what the workers of the pools do. `step` says what an event changes; an
event that cannot happen in a state changes nothing. A run is any list of events, so a statement
about all runs is one about every order in which loops and workers can be scheduled and about every
behaviour of the network. Reports of ready connections are looked at one by one, so that the number
of those that come at once makes no difference to the runs there are.
-/

namespace KeyValueServer

/-- What can happen to a server. -/
inductive Event where
  /-- A client connects. -/
  | connect (peer : Address)
  /-- Something arrives at the socket of a connection. -/
  | arrive (id : ConnId) (arrival : Arrival)
  /-- The client of a connection ends its output. -/
  | endInput (id : ConnId)
  /-- The network says how much a later write will take. -/
  | allow (id : ConnId) (allowance : Allowance)
  /-- The client of a connection closes it. -/
  | closePeer (id : ConnId)
  /-- The client of a connection receives what was written for it. -/
  | receive (id : ConnId)
  /-- The loop looks at the oldest message; `registers` says whether the readiness set takes a
  socket that it is given. -/
  | applyControl (registers : Bool)
  /-- The readiness set reports a connection. -/
  | ready (id : ConnId)
  /-- An idle worker of a pool takes the oldest job. -/
  | start (stage : Stage)
  /-- A running job of a pool does its work and ends. -/
  | finish (stage : Stage) (index : Nat)
  /-- The shutdown begins. -/
  | trigger
  /-- The loop that accepts connections notices the shutdown and ends. -/
  | stopAccepting
  /-- The loop that owns the readiness set notices the shutdown and ends. -/
  | stopPolling
  /-- A pool is told to take no more jobs. -/
  | closePool (stage : Stage)
  /-- The shutdown closes what is left. -/
  | complete

namespace Server

/-- The server with a connection more in its registries, under a number that is new. -/
def enroll (server : Server) (peer : Address) : Server :=
  { server with
    nextId := server.nextId + 1
    registries := (server.registries.insert ⟨server.nextId⟩ peer).2
    traffic := server.traffic.opened 1
    sockets := server.sockets.insert ⟨server.nextId⟩ .fresh }

/-- A client connects. It is turned away when too many connections are open. When there can be no
room for its input the connection is registered already: only its socket is closed, and the loop
that accepts connections ends with the fault. -/
def accept (server : Server) (peer : Address) : Server :=
  if server.config.maxConnections.toNat ≤ server.registries.size then
    { server with traffic := server.traffic.turnedAway 1 }
  else
    let id : ConnId := ⟨server.nextId⟩
    let enrolled := server.enroll peer
    match Session.createWith id peer server.config.readBufferSize.toNat with
    | .error _ => { enrolled.setSocket id Socket.fresh.hangUp with accepting := false }
    | .ok session => enrolled.notify (.add session)

/-- Puts a session into the readiness set, if the set takes its socket. -/
def park (server : Server) (registers : Bool) (parked : Parked) : Server :=
  if registers then
    { server with parked := server.parked.insert parked.session.id parked }
  else server.close parked.session

/-- The loop that owns the readiness set does what a message asks for. -/
def apply (server : Server) (registers : Bool) : Control → Server
  | .add session =>
    match server.registries.transition session.id none .readRegistered with
    | .error _ => server.close session
    | .ok registries =>
      ({ server with registries := registries }).park registers (.read session)
  | .readMore session => server.park registers (.read session)
  | .rearm session =>
    if session.input.isEmpty then server.park registers (.read session)
    else server.submit .readRegistered session
  | .awaitWritable session => server.park registers (.write session)
  | .remove session => server.close session

/-- The loop that owns the readiness set looks at the oldest message. -/
def applyControl (server : Server) (registers : Bool) : Server :=
  match server.control with
  | [] => server
  | message :: messages => ({ server with control := messages }).apply registers message

/-- The readiness set reports a connection. One that is not in the set is with a job. -/
def ready (server : Server) (id : ConnId) : Server :=
  match server.parked.find? id with
  | none => server
  | some parked =>
    let taken := { server with parked := server.parked.erase id }
    match parked with
    | .read session => taken.submit .readRegistered session
    | .write session => taken.submit .writePending session

/-- An idle worker of a pool takes the oldest job. -/
def start (server : Server) (stage : Stage) : Server :=
  match (server.pool stage).start? with
  | none => server
  | some pool => server.setPool stage pool

/-- A running job of a pool does its work and ends. -/
def finish (server : Server) (stage : Stage) (index : Nat) : Server :=
  match (server.pool stage).running[index]? with
  | none => server
  | some session =>
    let (fault, server) := server.runJob stage session
    match (server.pool stage).finish? index fault.isSome with
    | none => server
    | some (_, pool) => server.setPool stage pool

/-- Closes sessions one by one. -/
def closeAll (server : Server) (sessions : List Session) : Server :=
  sessions.foldl close server

/-- The loop that owns the readiness set ends and closes what waits in the set. -/
def stopPolling (server : Server) : Server :=
  { server.closeAll (server.parked.values.map Parked.session) with
    polling := false
    parked := Bindings.empty }

/-- The pools that have to be closed and without jobs before a pool is closed. -/
def earlier : Stage → List Stage
  | .readRegistered => []
  | .processing => [.readRegistered]
  | .writePending => [.readRegistered, .processing]

/-- Whether a pool takes no more jobs and has ended those it had. -/
def isDrained (server : Server) (stage : Stage) : Bool :=
  !(server.pool stage).isOpen && (server.pool stage).isIdle

/-- Whether the shutdown has come to the pool of a stage. -/
def mayClosePool (server : Server) (stage : Stage) : Bool :=
  server.signal.triggered && !server.accepting && !server.polling &&
    (earlier stage).all server.isDrained

/-- Whether the shutdown has come to its last step. -/
def mayComplete (server : Server) : Bool :=
  server.mayClosePool .writePending && server.isDrained .writePending

/-- The shutdown closes the sessions in messages that nobody will look at, and clears the
registries. -/
def complete (server : Server) : Server :=
  let closed := server.closeAll (server.control.map Control.session)
  { closed with control := [], registries := closed.registries.clear.2, stopped := true }

/-- Changes the socket of a connection that was admitted. -/
def onSocket (server : Server) (id : ConnId) (change : Socket → Socket) : Server :=
  match server.sockets.find? id with
  | none => server
  | some socket => server.setSocket id (change socket)

/-- What an event changes. -/
def step (server : Server) : Event → Server
  | .connect peer => if server.accepting then server.accept peer else server
  | .arrive id arrival =>
    server.onSocket id fun socket => { socket with arrivals := socket.arrivals ++ [arrival] }
  | .endInput id => server.onSocket id Socket.endInput
  | .allow id allowance =>
    server.onSocket id fun socket => { socket with allowances := socket.allowances ++ [allowance] }
  | .closePeer id => server.onSocket id fun socket => socket.closePeer.2
  | .receive id => server.onSocket id fun socket => socket.receive.2
  | .applyControl registers => if server.polling then server.applyControl registers else server
  | .ready id => if server.polling then server.ready id else server
  | .start stage => server.start stage
  | .finish stage index => server.finish stage index
  | .trigger => { server with signal := server.signal.trigger.2 }
  | .stopAccepting =>
    if server.signal.triggered then { server with accepting := false } else server
  | .stopPolling =>
    if server.signal.triggered && server.polling then server.stopPolling else server
  | .closePool stage =>
    if server.mayClosePool stage then server.setPool stage (server.pool stage).close else server
  | .complete => if server.mayComplete && !server.stopped then server.complete else server

/-- The server after a run. -/
def run (server : Server) (events : List Event) : Server := events.foldl step server

end Server

end KeyValueServer
