import KeyValueServer.Network.Host
import KeyValueServer.Proofs.Server.Booking

/-!
# Accounting for connections

Every attempt of a client to connect, every end of a connection and every reply of a run are in its
history. The counters of the server agree with that history and with the map of open connections
after every step. Since the books are kept by the steps, a connection is counted as closed once,
whatever the reason was for closing it. The exception is the connection of a client for whose input
there is no room: no step closes it, so it is never counted as closed.
-/

namespace KeyValueServer

namespace Server

/-- The number of connections that a server ever admitted. -/
def admitted (server : Server) : Nat := server.nextId - 1

/-- The books of a server agree with what happened to it: the connections that ended, the attempts
to connect, and the replies that were queued. -/
structure Balances (server : Server) (ended : List ConnId) (attempts : List Address)
    (replies : List Value) : Prop where
  numbered : 0 < server.nextId
  accepted : server.traffic.accepted = UInt64.ofNat server.admitted
  active : server.traffic.active = UInt64.ofNat server.registries.size
  within : server.registries.size ≤ server.config.maxConnections.toNat
  once : (ended ++ server.registries.all.keys).Perm
    ((List.range' 1 server.admitted).map ConnId.mk)
  tried : server.admitted ≤ attempts.length
  rejected : server.traffic.rejected = UInt64.ofNat (attempts.length - server.admitted)
  answered : server.traffic.answered = UInt64.ofNat replies.length
  closed : ∀ id, (server.sockets.find? id).map Socket.closed =
    if id ∈ ended then some true else if id ∈ server.registries.all.keys then some false else none

variable {server after : Server} {ended gone : List ConnId} {attempts : List Address}
  {replies more : List Value}

/-- The books balance after connections ended and replies were queued. -/
theorem Balances.booked (balances : server.Balances ended attempts replies)
    (booked : server.Booked after gone more.length) :
    after.Balances (ended ++ gone) attempts (replies ++ more) := by
  have sizes : server.registries.size = gone.length + after.registries.size := by
    have lengths := booked.opened.length_eq
    rw [List.length_append] at lengths
    exact (Bindings.length_keys _).symm.trans (lengths.trans
      (congrArg (gone.length + ·) (Bindings.length_keys _)))
  have admitted : after.admitted = server.admitted := by
    rw [Server.admitted, booked.nextId, Server.admitted]
  constructor
  · rw [booked.nextId]
    exact balances.numbered
  · rw [booked.accepted, admitted]
    exact balances.accepted
  · rw [booked.active, balances.active, sizes, UInt64.ofNat_add]
    grind
  · rw [booked.config]
    have within := balances.within
    omega
  · rw [admitted, List.append_assoc]
    exact (booked.opened.symm.append_left ended).trans balances.once
  · rw [admitted]
    exact balances.tried
  · rw [booked.rejected, admitted]
    exact balances.rejected
  · rw [booked.answered, balances.answered, List.length_append, UInt64.ofNat_add]
  · intro id
    rw [booked.closed, balances.closed]
    have split := booked.opened.mem_iff (a := id)
    rw [List.mem_append] at split
    by_cases first : id ∈ ended <;> by_cases second : id ∈ gone <;> simp [first, second, split]

/-- The books balance after a client was turned away. -/
theorem Balances.turnedAway (balances : server.Balances ended attempts replies) (peer : Address) :
    ({ server with traffic := server.traffic.turnedAway 1 }).Balances ended (attempts ++ [peer])
      replies := by
  have tried := balances.tried
  refine { balances with tried := ?_, rejected := ?_ }
  · rw [List.length_append]
    exact Nat.le_add_right_of_le tried
  · have more : (attempts ++ [peer]).length - server.admitted =
        (attempts.length - server.admitted) + 1 := by
      rw [List.length_append, List.length_singleton]
      omega
    change server.traffic.rejected + 1 =
      UInt64.ofNat ((attempts ++ [peer]).length - server.admitted)
    rw [balances.rejected, more, UInt64.ofNat_add]
    rfl

/-- A connection that was admitted is open or has ended, and it has ended once. -/
theorem Balances.distinct (balances : server.Balances ended attempts replies) :
    (ended ++ server.registries.all.keys).Nodup := by
  apply balances.once.nodup_iff.mpr
  exact (List.nodup_range').map fun _ _ same => congrArg ConnId.number same

/-- The next connection has not been open before. -/
theorem Balances.fresh (balances : server.Balances ended attempts replies) :
    (⟨server.nextId⟩ : ConnId) ∉ ended ++ server.registries.all.keys := by
  intro member
  obtain ⟨number, inside, same⟩ := List.mem_map.mp (balances.once.mem_iff.mp member)
  have positive := balances.numbered
  have bounds := List.mem_range'_1.mp inside
  have number_eq : number = server.nextId := congrArg ConnId.number same
  rw [admitted] at bounds
  omega

/-- The books balance after a client was admitted. -/
theorem Balances.enroll (balances : server.Balances ended attempts replies) (peer : Address)
    (room : server.registries.size < server.config.maxConnections.toNat) :
    (server.enroll peer).Balances ended (attempts ++ [peer]) replies := by
  have positive := balances.numbered
  have tried := balances.tried
  have fresh := balances.fresh
  rw [List.mem_append, not_or] at fresh
  obtain ⟨notEnded, absent⟩ := fresh
  have missing : server.registries.all.find? ⟨server.nextId⟩ = none := by
    rw [Bindings.mem_keys_iff] at absent
    simpa [Bindings.contains] using absent
  have keys : (server.enroll peer).registries.all.keys =
      ⟨server.nextId⟩ :: server.registries.all.keys :=
    Bindings.keys_insert_of_absent _ _ peer missing
  have size : (server.enroll peer).registries.size = server.registries.size + 1 := by
    have lengths := congrArg List.length keys
    rw [List.length_cons] at lengths
    exact (Bindings.length_keys _).symm.trans (lengths.trans
      (congrArg (· + 1) (Bindings.length_keys _)))
  have admitted : (server.enroll peer).admitted = server.admitted + 1 := by
    change server.nextId + 1 - 1 = server.nextId - 1 + 1
    omega
  have nextId : server.nextId = server.admitted + 1 := by
    rw [Server.admitted]
    omega
  constructor
  · exact Nat.succ_pos _
  · rw [admitted, UInt64.ofNat_add, ← balances.accepted]
    rfl
  · rw [size, UInt64.ofNat_add, ← balances.active]
    rfl
  · rw [size]
    exact room
  · rw [keys, admitted, List.range'_concat, List.map_append]
    have last : [(⟨server.nextId⟩ : ConnId)] = [1 + 1 * server.admitted].map ConnId.mk := by
      rw [nextId, Nat.one_mul, Nat.add_comm]
      rfl
    rw [← last]
    apply List.perm_middle.trans
    apply (List.perm_append_singleton _ _).symm.trans
    exact balances.once.append_right _
  · rw [admitted, List.length_append]
    exact Nat.add_le_add_right tried 1
  · have same : (attempts ++ [peer]).length - (server.admitted + 1) =
        attempts.length - server.admitted := by
      rw [List.length_append, List.length_singleton]
      omega
    rw [admitted, same, ← balances.rejected]
    rfl
  · exact balances.answered
  · intro id
    rw [keys]
    simp only [Server.enroll, Bindings.find?_insert, List.mem_cons]
    by_cases same : id = ⟨server.nextId⟩
    · subst same
      simp [notEnded, Socket.fresh]
    · simp only [same, if_false, false_or]
      exact balances.closed id

/-- The books balance after a client that connects was turned away or got a session. -/
theorem Balances.accept (balances : server.Balances ended attempts replies)
    (roomy : server.config.Roomy) (peer : Address) :
    (server.accept peer).Balances ended (attempts ++ [peer]) replies := by
  by_cases full : server.config.maxConnections.toNat ≤ server.registries.size
  · rw [accept_of_full full]
    exact balances.turnedAway peer
  · have free := Nat.lt_of_not_le full
    rw [accept_of_roomy free roomy]
    exact { balances.enroll peer free with }

/-- An event ends no connection if all that were open stay open. -/
theorem ends_eq_nil {event : Event} (stays : ∀ id, server.registries.all.contains id = true →
    (server.step event).registries.all.contains id = true) : event.ends server = [] := by
  apply List.filter_eq_nil_iff.mpr
  intro id opened
  simpa using stays id ((Bindings.mem_keys_iff _ id).mp opened)

/-- A client that connects ends no connection. -/
theorem ends_connect (server : Server) (peer : Address) :
    (Event.connect peer).ends server = [] := by
  apply ends_eq_nil
  intro id opened
  have admitted : (server.registries.all.insert ⟨server.nextId⟩ peer).contains id = true := by
    rw [Bindings.contains, Bindings.find?_insert]
    split
    · rfl
    · exact opened
  simp only [Server.step]
  split
  · obtain same | ⟨_, same⟩ | ⟨_, same⟩ := server.accept_cases peer
    · rw [same]
      exact opened
    · rw [same]
      exact admitted
    · rw [same]
      exact admitted
  · exact opened

/-- The books balance after every step, with what the step adds to the history. -/
theorem Balances.step (balances : server.Balances ended attempts replies)
    (orderly : server.Orderly) (event : Event) :
    (server.step event).Balances (ended ++ event.ends server) (attempts ++ event.attempts server)
      (replies ++ event.replies server) := by
  by_cases connects : ∃ peer, event = .connect peer
  · obtain ⟨peer, rfl⟩ := connects
    have nothing : (Event.connect peer).replies server = [] := rfl
    rw [ends_connect, nothing, List.append_nil, List.append_nil]
    simp only [Server.step, Event.attempts]
    split
    · exact balances.accept orderly.disciplined.roomy peer
    · rw [List.append_nil]
      exact balances
  · have known : ∀ peer, event ≠ .connect peer := fun peer same => connects ⟨peer, same⟩
    rw [Event.attempts_eq_nil server known, List.append_nil]
    exact balances.booked (orderly.booked event known)

/-- The books balance after every run, with its history. -/
theorem Balances.run (balances : server.Balances ended attempts replies)
    (orderly : server.Orderly) (events : List Event) :
    (server.run events).Balances (ended ++ server.history Event.ends events)
      (attempts ++ server.history Event.attempts events)
      (replies ++ server.history Event.replies events) := by
  induction events generalizing server ended attempts replies with
  | nil =>
    simp only [history, List.append_nil]
    exact balances
  | cons event events inductionHypothesis =>
    simp only [history, ← List.append_assoc]
    exact inductionHypothesis (balances.step orderly event) (orderly.step event)

/-- The books of a server that was just started are empty. -/
theorem balances_of_launch {host : Host} {config : Config} {taken : Bool}
    (launched : launch host config taken = .ok server) : server.Balances [] [] [] := by
  obtain ⟨_, store, _, rfl⟩ := eq_fresh_of_launch launched
  constructor
  · exact Nat.one_pos
  · rfl
  · rfl
  · exact Nat.zero_le _
  · exact .refl _
  · exact Nat.le_refl _
  · rfl
  · rfl
  · intro id
    rfl

/-- What the counters of a server say when `ended`, `attempts` and `replies` are all connections
that ended, all attempts to connect, and all replies that were queued. -/
structure Audited (config : Config) (server : Server) (ended : List ConnId)
    (attempts : List Address) (replies : List Value) : Prop where
  /-- As many connections are counted as open as the registries hold. -/
  active : server.traffic.active.toNat = server.registries.size
  /-- There are never more than the configuration allows. -/
  within : server.traffic.active.toNat ≤ config.maxConnections.toNat
  /-- The others that were accepted have ended. -/
  accepted : server.traffic.accepted.toNat = server.traffic.active.toNat + ended.length
  /-- A connection that was accepted is open or has ended, not both, and it has ended once. -/
  once : (ended ++ server.registries.all.keys).Perm
    ((List.range' 1 server.traffic.accepted.toNat).map ConnId.mk)
  /-- The sockets of the connections that ended are closed, and no others are. -/
  closed : ∀ id, (server.sockets.find? id).map Socket.closed =
    if id ∈ ended then some true else if id ∈ server.registries.all.keys then some false else none
  /-- An attempt to connect is counted as accepted or as rejected. -/
  attempts : ∃ rejected, attempts.length = server.traffic.accepted.toNat + rejected ∧
    server.traffic.rejected = UInt64.ofNat rejected
  /-- A reply is counted as that to a command or to a protocol error. -/
  replies : server.traffic.commands + server.traffic.protocolErrors = UInt64.ofNat replies.length

/-- Books that balance say so, if there are not too many connections to count them. -/
theorem Balances.audited (balances : server.Balances ended attempts replies)
    (few : server.nextId < UInt64.size) :
    server.Audited server.config ended attempts replies := by
  have counted : ended.length + server.registries.size = server.admitted := by
    have lengths := balances.once.length_eq
    rw [List.length_append, List.length_map, List.length_range'] at lengths
    exact (congrArg (ended.length + ·) (Bindings.length_keys _).symm).trans lengths
  have small : server.admitted < UInt64.size := by
    rw [Server.admitted]
    omega
  have accepted : server.traffic.accepted.toNat = server.admitted := by
    rw [balances.accepted]
    exact UInt64.toNat_ofNat_of_lt small
  have active : server.traffic.active.toNat = server.registries.size := by
    rw [balances.active]
    exact UInt64.toNat_ofNat_of_lt (by omega)
  constructor
  · exact active
  · rw [active]
    exact balances.within
  · rw [accepted, active]
    omega
  · rw [accepted]
    exact balances.once
  · exact balances.closed
  · have tried := balances.tried
    rw [accepted]
    exact ⟨_, by omega, balances.rejected⟩
  · exact balances.answered

/-- What the counters say without room for the input of the clients in `attempts`. -/
structure Miscounted (server : Server) (attempts : List Address) : Prop where
  /-- Only one client is admitted, and it is counted. -/
  alone : attempts.length ≤ 1
  accepted : server.traffic.accepted.toNat = attempts.length
  /-- Its connection is counted as open for good. -/
  active : server.traffic.active.toNat = attempts.length
  /-- The registries hold it until the server is stopped. -/
  size : server.registries.size = if server.stopped then 0 else attempts.length
  /-- But its socket is closed. -/
  closed : ∀ id socket, server.sockets.find? id = some socket → socket.closed = true
  /-- Nothing else is counted. -/
  others : server.traffic.rejected = 0 ∧ server.traffic.commands = 0 ∧
    server.traffic.protocolErrors = 0

/-- A client that is stranded is counted as one of an open connection. -/
theorem Stranded.miscounted (stranded : server.Stranded attempts) :
    server.Miscounted attempts := by
  have alone := stranded.length_le
  have counted : (UInt64.ofNat attempts.length).toNat = attempts.length :=
    UInt64.toNat_ofNat_of_lt' (Nat.lt_of_le_of_lt alone (by decide))
  constructor
  · exact alone
  · rw [stranded.traffic]
    exact counted
  · rw [stranded.traffic]
    exact counted
  · have length := congrArg List.length stranded.keys
    rw [Bindings.length_keys] at length
    rw [Registries.size, length]
    split
    · rfl
    · exact List.length_map _
  · intro id socket found
    have closed := stranded.sockets id
    rw [found] at closed
    split at closed
    · exact Option.some.inj closed
    · cases closed
  · rw [stranded.traffic]
    exact ⟨rfl, rfl, rfl⟩

/-- In every run of a server that was started with room for its connections the counters agree with
what happened, as long as the connections can be numbered: whatever clients and the network do, and
in whatever order loops, workers and shutdown take their steps. The replies of the history are those
that are put behind the outputs of sessions. Without room a connection is counted as open for good
whose socket is closed. -/
theorem accounts_unless_roomless {host : Host} {config : Config} {taken : Bool}
    (bounded : config.maxRequestSize.toNat + 1 < UInt64.size)
    (launched : launch host config taken = .ok server) (events : List Event)
    (few : (server.run events).nextId < UInt64.size) :
    (config.Roomy →
      (server.run events).Audited config (server.history Event.ends events)
          (server.history Event.attempts events) (server.history Event.replies events) ∧
        ∀ front event back, events = front ++ event :: back →
          (server.run front).Queues event) ∧
      (¬ config.Roomy →
        (server.run events).Miscounted (server.history Event.attempts events)) := by
  constructor
  · intro roomy
    have orderly := orderly_of_launch roomy bounded launched
    constructor
    · have balances := (balances_of_launch launched).run orderly events
      have same : (server.run events).config = config := by
        obtain ⟨_, store, _, rfl⟩ := eq_fresh_of_launch launched
        exact (kept_of_run events).1
      rw [← same]
      exact balances.audited few
    · intro front event back _
      exact (orderly.run front).queues event
  · intro roomless
    exact (stranded_of_roomless roomless launched events).miscounted

/-- A client connects to the standard server and closes its connection, which the server notices. -/
def visit : List Event :=
  [.connect (Address.loopback 1), .applyControl true, .closePeer ⟨1⟩, .ready ⟨1⟩,
    .start .readRegistered, .finish .readRegistered 0, .applyControl true]

/-- The standard server counts a visitor as accepted and as gone. -/
theorem standard_server_accounts_for_visit : ∃ server,
    launch Host.loopback Config.standard false = .ok server ∧
      Config.standard.maxRequestSize.toNat + 1 < UInt64.size ∧ Config.standard.Roomy ∧
      (server.run visit).nextId < UInt64.size ∧
      server.history Event.ends visit = [⟨1⟩] ∧
      (server.run visit).Audited Config.standard [⟨1⟩] [Address.loopback 1] [] := by
  have bounded : Config.standard.maxRequestSize.toNat + 1 < UInt64.size := by decide
  have roomy : Config.standard.Roomy := by decide
  have launched : launch Host.loopback Config.standard false = .ok _ := rfl
  refine ⟨_, launched, bounded, roomy, ?few, rfl,
    ((accounts_unless_roomless bounded launched visit ?few).1 roomy).1⟩
  decide

/-- A client connects, and the server is shut down. -/
def visitAndShutdown : List Event :=
  [.connect (Address.loopback 1), .trigger, .stopAccepting, .stopPolling,
    .closePool .readRegistered, .closePool .processing, .closePool .writePending, .complete]

/-- A server that is accepted with a boundless demand for room still counts an open connection when
it is stopped, and holds none. -/
theorem stopped_server_counts_connection : ∃ server,
    launch Host.loopback boundless false = .ok server ∧
      boundless.maxRequestSize.toNat + 1 < UInt64.size ∧
      (server.run visitAndShutdown).nextId < UInt64.size ∧
      (server.run visitAndShutdown).stopped = true ∧
      (server.run visitAndShutdown).registries.size = 0 ∧
      (server.run visitAndShutdown).traffic.active = 1 :=
  ⟨_, rfl, by decide, by decide, rfl, rfl, rfl⟩

end Server

end KeyValueServer
