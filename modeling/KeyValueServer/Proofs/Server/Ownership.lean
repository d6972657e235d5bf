import KeyValueServer.Proofs.Server.Orderly
import KeyValueServer.Proofs.Server.Stranded

/-!
# Every connection is owned by one place

A server that was started with room for its connections stays orderly in every run: whatever clients
and the network do, in whatever order the loops and the workers are scheduled, and also while it is
shut down. So every open connection has exactly one session, in exactly one place, and this place
agrees with the stage that the registries give. The checks that jobs and hand-overs make can then
not fail. Without room the one connection that the server opens has no session at all.
-/

namespace KeyValueServer.Server

variable {server : Server}

/-- A server without sessions is orderly when its pools are open. -/
theorem orderly_fresh (config : Config) (store : Store) (read process write : String)
    (readers processors writers : Nat) (polling : Bool) (roomy : config.Roomy)
    (bounded : config.maxRequestSize.toNat + 1 < UInt64.size) :
    (fresh config store (JobPool.fresh read readers) (JobPool.fresh process processors)
      (JobPool.fresh write writers) polling).Orderly where
  accounted := .empty
  disciplined :=
    { ordered := fun stage closed => by cases stage <;> cases closed
      calm := fun stage => by cases stage <;> rfl
      roomy := roomy
      bounded := bounded }
  keyed := fun _ _ found => nomatch found
  emptied := fun _ => rfl
  connected := fun _ member => nomatch member

/-- A server that was started is orderly, if it has room for its connections. -/
theorem orderly_of_launch {host : Host} {config : Config} {taken : Bool} (roomy : config.Roomy)
    (bounded : config.maxRequestSize.toNat + 1 < UInt64.size)
    (launched : launch host config taken = .ok server) : server.Orderly := by
  obtain ⟨_, store, _, rfl⟩ := eq_fresh_of_launch launched
  exact orderly_fresh config store _ _ _ _ _ _ _ roomy bounded

/-- A client that connects gets a session in a message, or is turned away. -/
theorem Orderly.accept (orderly : server.Orderly) (peer : Address) :
    (server.accept peer).Orderly := by
  have disciplined := orderly.disciplined
  by_cases full : server.config.maxConnections.toNat ≤ server.registries.size
  · rw [accept_of_full full]
    exact ⟨orderly.accounted, { disciplined with }, orderly.keyed, orderly.emptied,
      orderly.connected⟩
  · rw [accept_of_roomy (Nat.lt_of_not_le full) disciplined.roomy]
    have arrives := (server.enroll peer).holdings_notify
      (.add (Session.create ⟨server.nextId⟩ peer))
    refine ⟨(orderly.accounted.insert peer).perm arrives.symm, { disciplined with },
      orderly.keyed, orderly.emptied, ?_⟩
    intro holding member
    have connected : ((server.enroll peer).sockets.find? holding.2.id).isSome = true := by
      simp only [enroll, Bindings.find?_insert]
      rcases List.mem_cons.mp (arrives.mem_iff.mp member) with rfl | stayed
      · exact congrArg Option.isSome (if_pos rfl)
      · split
        · rfl
        · exact orderly.connected holding stayed
    exact connected

/-- What happens to a socket from outside is no concern of the order. -/
theorem Orderly.onSocket (orderly : server.Orderly) (id : ConnId) (change : Socket → Socket) :
    (server.onSocket id change).Orderly := by
  unfold Server.onSocket
  split
  · exact orderly
  · next socket found =>
    have disciplined := orderly.disciplined
    refine ⟨orderly.accounted, { disciplined with },
      orderly.keyed, orderly.emptied, fun holding member => ?_⟩
    simp only [setSocket, Bindings.find?_insert]
    split
    · rfl
    · exact orderly.connected holding member

/-- Closing sessions concerns the registries, the counters and the sockets only. -/
theorem closeAll_eq (server : Server) (sessions : List Session) :
    server.closeAll sessions = { server with
      registries := (server.closeAll sessions).registries
      traffic := (server.closeAll sessions).traffic
      sockets := (server.closeAll sessions).sockets } := by
  unfold closeAll
  induction sessions generalizing server with
  | nil => rfl
  | cons session sessions inductionHypothesis =>
    rw [List.foldl_cons, inductionHypothesis]
    rfl

/-- Closing sessions takes no socket away. -/
theorem connected_closeAll (server : Server) (sessions : List Session) (id : ConnId)
    (connected : (server.sockets.find? id).isSome = true) :
    ((server.closeAll sessions).sockets.find? id).isSome = true := by
  unfold closeAll
  induction sessions generalizing server with
  | nil => exact connected
  | cons session sessions inductionHypothesis =>
    apply inductionHypothesis
    have sockets : (server.close session).sockets =
        server.sockets.insert session.id (server.socket session.id).hangUp := rfl
    rw [sockets, Bindings.find?_insert]
    split
    · rfl
    · exact connected

/-- Where several sessions in hand are dropped with their connections, the others are accounted
for. -/
theorem Balanced.closeAll {aside hand kept : List Holding}
    (balanced : server.Balanced aside hand kept) :
    (server.closeAll (hand.map Prod.snd)).Balanced aside [] kept := by
  unfold Server.closeAll
  induction hand generalizing server with
  | nil => exact balanced
  | cons holding hand inductionHypothesis => exact inductionHypothesis balanced.close

/-- The end of the loop closes the sessions in the readiness set and no others. -/
theorem Orderly.stopPolling (orderly : server.Orderly) : server.stopPolling.Orderly := by
  let waiting := server.parked.values.map Parked.holding
  let emptied := { server with polling := false, parked := Bindings.empty }
  have leaves : server.holdings.Perm (waiting ++ emptied.holdings) :=
    List.perm_append_comm_assoc _ _ _
  have balanced : server.Balanced waiting waiting emptied.holdings :=
    ⟨leaves, orderly.accounted.perm leaves⟩
  have sessions : waiting.map Prod.snd = server.parked.values.map Parked.session := by
    rw [List.map_map]
    refine List.map_congr_left fun parked _ => ?_
    cases parked <;> rfl
  have accounted := balanced.closeAll.2
  rw [sessions] at accounted
  have shape : server.stopPolling = { emptied with
      registries := (server.closeAll (server.parked.values.map Parked.session)).registries
      traffic := (server.closeAll (server.parked.values.map Parked.session)).traffic
      sockets := (server.closeAll (server.parked.values.map Parked.session)).sockets } := by
    rw [Server.stopPolling, closeAll_eq]
  have nextId : (server.closeAll (server.parked.values.map Parked.session)).nextId =
      server.nextId := by
    rw [closeAll_eq]
  rw [nextId] at accounted
  have disciplined := orderly.disciplined.endLoops server.accepting false id fun _ => rfl
  rw [shape]
  refine ⟨accounted, { disciplined with }, ?_, fun _ => rfl, fun holding member => ?_⟩
  · intro _ _ found
    cases found
  · exact connected_closeAll server _ _ (orderly.connected holding
      (leaves.mem_iff.mpr (List.mem_append_right _ member)))

/-- A pool that is closed in order. -/
theorem Orderly.closePool (orderly : server.Orderly) (stage : Stage)
    (may : server.mayClosePool stage = true) :
    (server.setPool stage (server.pool stage).close).Orderly := by
  have same : (server.setPool stage (server.pool stage).close).holdings = server.holdings := by
    cases stage <;> rfl
  apply orderly_setPool stage _ (same ▸ orderly.accounted) _ orderly.keyed orderly.emptied
    (same ▸ orderly.connected)
  exact orderly.disciplined.setPool stage _ (fun _ => .inr may)
    (fun drained => ⟨rfl, ((Bool.and_eq_true _ _).mp drained).2⟩) rfl

/-- Before its last step a shutdown has drained all pools. -/
theorem isDrained_of_mayComplete (may : server.mayComplete = true) (stage : Stage) :
    server.isDrained stage = true := by
  obtain ⟨mayClose, drained⟩ := (Bool.and_eq_true _ _).mp may
  have before := ((server.mayClosePool_iff .writePending).mp mayClose).2.2.2
  cases stage with
  | readRegistered => exact before _ List.mem_cons_self
  | processing => exact before _ (List.mem_cons_of_mem _ List.mem_cons_self)
  | writePending => exact drained

/-- Before the last step of a shutdown all sessions are in messages. -/
theorem Orderly.holdings_of_mayComplete (orderly : server.Orderly)
    (may : server.mayComplete = true) :
    server.holdings = server.control.map Control.holding := by
  have mayClose := ((Bool.and_eq_true _ _).mp may).1
  have polling := ((server.mayClosePool_iff .writePending).mp mayClose).2.2.1
  have idle (stage : Stage) : server.jobs stage = [] := by
    obtain ⟨_, queue, running⟩ :=
      (server.isDrained_iff stage).mp (isDrained_of_mayComplete may stage)
    rw [jobs, queue, running]
    rfl
  have values : server.parked.values = [] := by
    rw [Bindings.values, orderly.emptied polling, List.map_nil]
  simp only [holdings, values, idle, List.map_nil, List.append_nil]

/-- The last step of a shutdown leaves no session. -/
theorem Orderly.complete (orderly : server.Orderly) (may : server.mayComplete = true) :
    server.complete.Orderly := by
  have shape : server.complete = { server with
      control := []
      registries := .empty
      traffic := (server.closeAll (server.control.map Control.session)).traffic
      sockets := (server.closeAll (server.control.map Control.session)).sockets
      stopped := true } := by
    rw [Server.complete, closeAll_eq]
    rfl
  have nothing : server.complete.holdings = [] := by
    have messages := orderly.holdings_of_mayComplete may
    rw [holdings, List.append_right_eq_self] at messages
    rw [shape]
    exact messages
  have disciplined := orderly.disciplined
  refine ⟨?_, ?_, ?_, ?_, ?_⟩
  · rw [nothing, shape]
    exact .empty
  · rw [shape]
    exact { disciplined with }
  · rw [shape]
    exact orderly.keyed
  · rw [shape]
    exact orderly.emptied
  · rw [nothing]
    exact fun _ member => absurd member List.not_mem_nil

/-- Every step of an orderly server leaves it orderly. -/
theorem Orderly.step (orderly : server.Orderly) (event : Event) : (server.step event).Orderly := by
  have disciplined := orderly.disciplined
  have into : server.StepsInto Orderly := {
    idle := orderly
    accept := fun _ peer => orderly.accept peer
    onSocket := fun id change => orderly.onSocket id change
    applyControl := fun polling registers => (orderly.applyControl polling registers).1
    ready := fun polling id => (orderly.ready polling id).1
    start := fun stage => (orderly.start stage).1
    finish := fun stage index => (orderly.finish stage index).1
    trigger := ⟨orderly.accounted, disciplined.trigger, orderly.keyed, orderly.emptied,
      orderly.connected⟩
    stopAccepting := by
      have stopped := disciplined.endLoops false server.polling (fun _ => rfl) id
      exact fun _ => ⟨orderly.accounted, { stopped with }, orderly.keyed, orderly.emptied,
        orderly.connected⟩
    stopPolling := fun _ _ => orderly.stopPolling
    closePool := orderly.closePool
    complete := fun may _ => orderly.complete may }
  exact into.step event

/-- A run of an orderly server leaves it orderly. -/
theorem Orderly.run (orderly : server.Orderly) (events : List Event) :
    (server.run events).Orderly :=
  holds_run (fun event orderly => orderly.step event) orderly events

/-- Every open connection is owned by one place, and no check of this order can fail. -/
structure Owned (server : Server) : Prop where
  /-- An open connection has exactly one session, in exactly one place. The place agrees with the
  stage of the connection, and the session holds a request exactly on its way to execution. -/
  owner : ∀ id, server.registries.all.contains id = true → ∃ place session,
    server.holdings.filter (fun holding => holding.2.id = id) = [(place, session)] ∧
      place.Agrees (server.registries.stageOf id) ∧ session.command.isSome = place.executes
  /-- Only open connections have sessions. -/
  opened : ∀ holding ∈ server.holdings, server.registries.all.contains holding.2.id = true
  /-- A running job ends without a fault. -/
  faultless : ∀ stage, ∀ session ∈ (server.pool stage).running,
    (server.runJob stage session).1 = none
  /-- A change of stage that starts from the stage of the place is not refused. -/
  moves : ∀ holding ∈ server.holdings, ∀ found after, holding.1.expected = some found →
    ∃ moved, server.registries.transition holding.2.id found after = .ok moved
  /-- The session of the oldest message is not in the readiness set. -/
  unparked : ∀ message messages, server.control = message :: messages →
    server.parked.find? message.session.id = none
  /-- No job has ended with a fault. -/
  calm : ∀ stage, (server.pool stage).panicked = 0

/-- The sessions of an orderly server are owned. -/
theorem Orderly.owned (orderly : server.Orderly) : server.Owned := by
  have accounted := orderly.accounted
  refine ⟨fun id opened => ?_, fun holding member => ?_, fun stage session running => ?_,
    fun holding member found after goesWith => ?_, fun message messages heard => ?_,
    orderly.disciplined.calm⟩
  · obtain ⟨⟨place, session⟩, member, rfl⟩ := (accounted.registered id).mp opened
    obtain ⟨kept, leaves⟩ := exists_perm_of_mem member
    have listed := accounted.perm leaves
    have single : (((place, session) :: kept).filter fun holding => holding.2.id = session.id) =
        [(place, session)] := by
      have others : (kept.filter fun holding => holding.2.id = session.id) = [] := by
        rw [List.filter_eq_nil_iff]
        intro holding inside
        simpa only [decide_eq_true_eq] using listed.apart holding inside
      simp only [List.filter_cons, decide_true, ↓reduceIte, others]
    refine ⟨place, session, ?_, accounted.agreed _ member, accounted.stored _ member⟩
    exact List.perm_singleton.mp (single ▸ leaves.filter _)
  · exact (accounted.registered _).mpr ⟨holding, member, rfl⟩
  · have member : ((Place.running stage, session) : Holding) ∈ server.holdings := by
      refine (server.holdings_perm_jobs stage).mem_iff.mpr (List.mem_append_left _ ?_)
      exact List.mem_append_right _ (List.mem_map_of_mem running)
    obtain ⟨kept, leaves⟩ := exists_perm_of_mem member
    have busy : server.isDrained stage = false := busy_of_mem (List.mem_append_right _ running)
    have balanced : server.Balanced [(.running stage, session)] [(.running stage, session)] kept :=
      ⟨leaves, accounted.perm leaves⟩
    obtain ⟨_, _, ran, _⟩ := runJob_spec stage balanced orderly.disciplined.bounded
      (orderly.disciplined.onward stage busy)
    rw [ran]
  · obtain ⟨kept, leaves⟩ := exists_perm_of_mem member
    have listed := accounted.perm leaves
    obtain ⟨moved, moves, _⟩ := listed.transition found after (listed.stageOf found goesWith)
    exact ⟨moved, moves⟩
  · let popped := { server with control := messages }
    have leaves : server.holdings = message.holding :: popped.holdings := by
      simp only [holdings, heard, List.map_cons, List.cons_append, popped]
      rfl
    rw [leaves] at accounted
    have balanced : popped.Balanced [] [message.holding] popped.holdings :=
      ⟨.refl _, accounted⟩
    have absent := balanced.absent orderly.keyed
    cases message <;> exact absent

/-- What becomes of the clients in `attempts` without room for their input: nobody owns a
connection. -/
structure Ownerless (server : Server) (attempts : List Address) : Prop where
  /-- Only one client is admitted. -/
  alone : attempts.length ≤ 1
  /-- Its connection is open until the server is stopped. -/
  opened : server.registries.all.keys =
    if server.stopped then [] else attempts.map fun _ => firstId
  /-- It has no session in any place, and no stage. -/
  nothing : server.holdings = []
  unstaged : ∀ id, server.registries.stageOf id = none
  /-- Its socket is closed. -/
  closed : ∀ id, server.registries.all.contains id = true → (server.socket id).closed = true

/-- Nobody owns the connection of a client that is stranded. -/
theorem Stranded.ownerless {attempts : List Address} (stranded : server.Stranded attempts) :
    server.Ownerless attempts := by
  refine ⟨stranded.length_le, stranded.keys, stranded.nothing, stranded.stageOf, ?_⟩
  intro id opened
  have member := (Bindings.mem_keys_iff _ id).mpr opened
  rw [stranded.keys] at member
  split at member
  · cases member
  · have closed := stranded.sockets id
    rw [if_pos member] at closed
    obtain ⟨socket, found, isClosed⟩ := Option.map_eq_some_iff.mp closed
    rw [Server.socket, found]
    exact isClosed

/-- In every run of a server that was started with room for its connections, whatever clients and
the network do and however the loops and the workers are scheduled, every open connection is owned
by one place. Without room none is. -/
theorem owned_unless_roomless {host : Host} {config : Config} {taken : Bool}
    (bounded : config.maxRequestSize.toNat + 1 < UInt64.size)
    (launched : launch host config taken = .ok server) (events : List Event) :
    (config.Roomy → (server.run events).Owned) ∧
      (¬ config.Roomy →
        (server.run events).Ownerless (server.history Event.attempts events)) := by
  constructor
  · intro roomy
    exact ((orderly_of_launch roomy bounded launched).run events).owned
  · intro roomless
    exact (stranded_of_roomless roomless launched events).ownerless

/-- The standard server owns the connection of a client whose first bytes a worker is reading. -/
theorem standard_server_owns_first_connection : ∃ server,
    launch Host.loopback Config.standard false = .ok server ∧
      Config.standard.maxRequestSize.toNat + 1 < UInt64.size ∧ Config.standard.Roomy ∧
      ((server.run [.connect (Address.loopback 1), .applyControl true,
        .arrive ⟨1⟩ (.bytes [0x2a]), .ready ⟨1⟩, .start .readRegistered]).pool
          .readRegistered).running.length = 1 ∧
      (server.run [.connect (Address.loopback 1), .applyControl true,
        .arrive ⟨1⟩ (.bytes [0x2a]), .ready ⟨1⟩, .start .readRegistered]).Owned :=
  have bounded : Config.standard.maxRequestSize.toNat + 1 < UInt64.size := by decide
  have roomy : Config.standard.Roomy := by decide
  have launched : launch Host.loopback Config.standard false = .ok _ := rfl
  ⟨_, launched, bounded, roomy, rfl, (owned_unless_roomless bounded launched _).1 roomy⟩

/-- A server that is accepted with a boundless demand for room has an open connection without a
session behind its first client. -/
theorem connection_without_session : ∃ server,
    launch Host.loopback boundless false = .ok server ∧
      boundless.maxRequestSize.toNat + 1 < UInt64.size ∧
      (server.run [.connect (Address.loopback 1)]).registries.all.contains firstId = true ∧
      (server.run [.connect (Address.loopback 1)]).holdings = [] :=
  ⟨_, rfl, by decide, rfl, rfl⟩

end KeyValueServer.Server
