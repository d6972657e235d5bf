import KeyValueServer.Proofs.Server.Admission
import KeyValueServer.Proofs.Server.Placement
import KeyValueServer.Proofs.Server.Start

/-!
# A server without room for the input of its clients

A configuration is accepted whatever room it asks for. When there cannot be so much of it, the first
client that connects is the last: it gets a number and is counted, its socket is closed, and nobody
accepts another client. No loop or worker ever learns of the connection, so nothing takes it out of
the registries before the last step of a shutdown, and nothing counts it as closed at all.
-/

namespace KeyValueServer.Server

variable {server : Server} {attempts : List Address}

/-- A server without room for input, to which the clients in `attempts` have connected. -/
structure Stranded (server : Server) (attempts : List Address) : Prop where
  roomless : ¬ server.config.Roomy
  admits : 0 < server.config.maxConnections.toNat
  /-- Nobody accepts a client behind the first. -/
  alone : attempts = [] ∨ server.accepting = false ∧ ∃ peer, attempts = [peer]
  finished : server.stopped = true → server.accepting = false
  /-- There is no session. -/
  nothing : server.holdings = []
  /-- No pool ever had a job. -/
  unused : ∀ stage, (server.pool stage).submitted = 0 ∧ (server.pool stage).completed = 0 ∧
    (server.pool stage).panicked = 0
  nextId : server.nextId = attempts.length + 1
  /-- The client is registered until a shutdown is complete, and in no stage. -/
  registries : server.registries =
    ⟨if server.stopped then .empty else attempts.foldl (·.insert firstId ·) .empty, [], [], []⟩
  /-- It is counted, and nothing else is. -/
  traffic : server.traffic =
    ⟨UInt64.ofNat attempts.length, UInt64.ofNat attempts.length, 0, 0, 0, 0, 0⟩
  /-- Its socket is closed. -/
  sockets : ∀ id, (server.sockets.find? id).map Socket.closed =
    if id ∈ attempts.map (fun _ => firstId) then some true else none

/-- There are no sessions where none is in a message, in the readiness set or with a job. -/
theorem holdings_eq_nil_iff (server : Server) :
    server.holdings = [] ↔ server.control = [] ∧ server.parked.values = [] ∧
      ∀ stage, (server.pool stage).queue = [] ∧ (server.pool stage).running = [] := by
  simp only [holdings, jobs, List.append_eq_nil_iff, List.map_eq_nil_iff]
  constructor
  · rintro ⟨control, parked, read, process, write⟩
    refine ⟨control, parked, fun stage => ?_⟩
    cases stage with
    | readRegistered => exact read
    | processing => exact process
    | writePending => exact write
  · rintro ⟨control, parked, jobs⟩
    exact ⟨control, parked, jobs .readRegistered, jobs .processing, jobs .writePending⟩

/-- Without sessions the loop and the workers have nothing to do. -/
theorem step_of_nothing (nothing : server.holdings = []) (event : Event)
    (waits : event matches .applyControl _ | .ready _ | .start _ | .finish _ _) :
    server.step event = server := by
  obtain ⟨control, parked, jobs⟩ := server.holdings_eq_nil_iff.mp nothing
  cases event with
  | applyControl registers => simp [step, applyControl, control]
  | ready id =>
    have absent : server.parked.find? id = none := by
      cases found : server.parked.find? id with
      | none => rfl
      | some waiting =>
        have member := Bindings.mem_values_of_find? _ id waiting found
        rw [parked] at member
        cases member
    simp [step, ready, absent]
  | start stage => simp [step, start, JobPool.start?, (jobs stage).1]
  | finish stage index => simp [step, finish, (jobs stage).2]
  | _ => cases waits

/-- Nobody has connected to a server that was just started. -/
theorem stranded_of_launch {host : Host} {config : Config} {taken : Bool}
    (roomless : ¬ config.Roomy) (launched : launch host config taken = .ok server) :
    server.Stranded [] := by
  obtain ⟨valid, store, _, rfl⟩ := eq_fresh_of_launch launched
  exact
    { roomless := roomless
      admits := positive_of_validate valid ("max_connections", config.maxConnections)
        (by simp [Config.sizes])
      alone := .inl rfl
      finished := Bool.noConfusion
      nothing := rfl
      unused := fun stage => by cases stage <;> exact ⟨rfl, rfl, rfl⟩
      nextId := rfl
      registries := rfl
      traffic := rfl
      sockets := fun _ => rfl }

/-- The first client that connects is registered and counted, and the last. -/
theorem Stranded.connect (stranded : server.Stranded attempts) (peer : Address) :
    (server.step (.connect peer)).Stranded (attempts ++ (Event.connect peer).attempts server) := by
  cases accepting : server.accepting with
  | false =>
    have same : server.step (.connect peer) = server := by
      simp [step, accepting]
    simp only [same, Event.attempts, accepting, Bool.false_eq_true, if_false, List.append_nil]
    exact stranded
  | true =>
    obtain rfl : attempts = [] := by
      rcases stranded.alone with nobody | ⟨ended, _⟩
      · exact nobody
      · rw [accepting] at ended
        cases ended
    have goesOn : server.stopped = false := by
      cases stopped : server.stopped with
      | false => rfl
      | true =>
        rw [stranded.finished stopped] at accepting
        cases accepting
    have registries := stranded.registries
    rw [goesOn] at registries
    have free : server.registries.size < server.config.maxConnections.toNat := by
      rw [registries]
      exact stranded.admits
    have nextId : server.nextId = 1 := stranded.nextId
    have connects : server.step (.connect peer) =
        { (server.enroll peer).setSocket firstId Socket.fresh.hangUp with accepting := false } := by
      simp only [step, accepting, if_true, accept_of_roomless free stranded.roomless, nextId]
      rfl
    rw [connects]
    simp only [Event.attempts, accepting, if_true, List.nil_append]
    exact
      { roomless := stranded.roomless
        admits := stranded.admits
        alone := .inr ⟨rfl, peer, rfl⟩
        finished := fun _ => rfl
        nothing := stranded.nothing
        unused := stranded.unused
        nextId := congrArg (· + 1) nextId
        registries := by
          simp only [enroll, setSocket, goesOn, nextId, registries]
          rfl
        traffic := by
          simp only [enroll, setSocket, stranded.traffic]
          rfl
        sockets := fun id => by
          have before := stranded.sockets id
          simp only [List.map_nil, List.not_mem_nil, if_false, Option.map_eq_none_iff] at before
          simp only [enroll, setSocket, nextId, Bindings.find?_insert, before, List.map_cons,
            List.map_nil, List.mem_singleton]
          by_cases same : id = firstId
          · simp only [same, if_true, Option.map_some, Socket.hangUp]
          · have differs : id ≠ ⟨1⟩ := same
            simp only [same, differs, if_false, Option.map_none] }

/-- What happens to its socket from outside does not open it. -/
theorem Stranded.onSocket (stranded : server.Stranded attempts) (id : ConnId)
    {change : Socket → Socket} (keeps : ∀ socket, (change socket).closed = socket.closed) :
    (server.onSocket id change).Stranded attempts := by
  unfold Server.onSocket
  split
  · exact stranded
  · next socket found =>
    refine { stranded with sockets := fun other => ?_ }
    rw [← stranded.sockets other]
    simp only [setSocket, Bindings.find?_insert]
    by_cases same : other = id
    · subst same
      simp [found, keeps]
    · rw [if_neg same]

/-- A pool that closes never had a job either. -/
theorem Stranded.closePool (stranded : server.Stranded attempts) (stage : Stage) :
    (server.setPool stage (server.pool stage).close).Stranded attempts := by
  have unused : ∀ other,
      ((server.setPool stage (server.pool stage).close).pool other).submitted = 0 ∧
        ((server.setPool stage (server.pool stage).close).pool other).completed = 0 ∧
          ((server.setPool stage (server.pool stage).close).pool other).panicked = 0 := by
    intro other
    have same := stranded.unused other
    cases stage <;> cases other <;> exact same
  have nothing : (server.setPool stage (server.pool stage).close).holdings = [] := by
    rw [← stranded.nothing]
    cases stage <;> rfl
  cases stage <;> exact { stranded with unused := unused, nothing := nothing }

/-- The last step of a shutdown takes the client out of the registries, and counts nothing. -/
theorem Stranded.complete (stranded : server.Stranded attempts) (may : server.mayComplete = true) :
    server.complete.Stranded attempts := by
  have control := (server.holdings_eq_nil_iff.mp stranded.nothing).1
  have completes : server.complete =
      { server with registries := .empty, stopped := true } := by
    simp only [Server.complete, control, List.map_nil, closeAll, List.foldl_nil]
    rfl
  have ended : server.accepting = false := by
    simp only [mayComplete, mayClosePool, Bool.and_eq_true, Bool.not_eq_true'] at may
    exact may.1.1.1.2
  rw [completes]
  exact { stranded with finished := fun _ => ended, registries := rfl }

/-- The end of the loop that owns the readiness set closes nothing, as the set is empty. -/
theorem Stranded.stopPolling (stranded : server.Stranded attempts) :
    server.stopPolling.Stranded attempts := by
  obtain ⟨control, parked, jobs⟩ := server.holdings_eq_nil_iff.mp stranded.nothing
  have ends : server.stopPolling = { server with polling := false, parked := .empty } := by
    simp only [Server.stopPolling, parked, List.map_nil, closeAll, List.foldl_nil]
  rw [ends]
  exact { stranded with nothing := (holdings_eq_nil_iff _).mpr ⟨control, rfl, jobs⟩ }

/-- A step that admits nobody leaves the client where it is. -/
theorem Stranded.keeps (stranded : server.Stranded attempts) (event : Event)
    (known : ∀ peer, event ≠ .connect peer) : (server.step event).Stranded attempts := by
  cases event with
  | connect peer => exact absurd rfl (known peer)
  | applyControl | ready | start | finish =>
    rw [step_of_nothing stranded.nothing _ rfl]
    exact stranded
  | arrive id | endInput id | allow id | closePeer id | receive id =>
    exact stranded.onSocket id fun _ => rfl
  | trigger => exact { stranded with }
  | stopAccepting =>
    simp only [Server.step]
    split
    · exact { stranded with
        alone := stranded.alone.imp_right fun others => ⟨rfl, others.2⟩
        finished := fun _ => rfl }
    · exact stranded
  | stopPolling =>
    simp only [Server.step]
    split
    · exact stranded.stopPolling
    · exact stranded
  | closePool stage =>
    simp only [Server.step]
    split
    · exact stranded.closePool stage
    · exact stranded
  | complete =>
    simp only [Server.step]
    split
    · next last => exact stranded.complete ((Bool.and_eq_true _ _).mp last).1
    · exact stranded

/-- Every step leaves the client where it is, or brings it there. -/
theorem Stranded.step (stranded : server.Stranded attempts) (event : Event) :
    (server.step event).Stranded (attempts ++ event.attempts server) := by
  by_cases connects : ∃ peer, event = .connect peer
  · obtain ⟨peer, rfl⟩ := connects
    exact stranded.connect peer
  · have known : ∀ peer, event ≠ .connect peer := fun peer same => connects ⟨peer, same⟩
    rw [Event.attempts_eq_nil server known, List.append_nil]
    exact stranded.keeps event known

/-- Every run leaves the client where it is. -/
theorem Stranded.run (stranded : server.Stranded attempts) (events : List Event) :
    (server.run events).Stranded (attempts ++ server.history Event.attempts events) := by
  induction events generalizing server attempts with
  | nil =>
    rw [history, List.append_nil]
    exact stranded
  | cons event events inductionHypothesis =>
    rw [history, ← List.append_assoc]
    exact inductionHypothesis (stranded.step event)

/-- A server without room that was started is in this state in every run. -/
theorem stranded_of_roomless {host : Host} {config : Config} {taken : Bool}
    (roomless : ¬ config.Roomy) (launched : launch host config taken = .ok server)
    (events : List Event) :
    (server.run events).Stranded (server.history Event.attempts events) :=
  (stranded_of_launch roomless launched).run events

/-- Where there is a session, there is room. -/
theorem roomy_of_holding {host : Host} {config : Config} {taken : Bool}
    (launched : launch host config taken = .ok server) {events : List Event} {holding : Holding}
    (member : holding ∈ (server.run events).holdings) : config.Roomy := by
  by_contra roomless
  rw [(stranded_of_roomless roomless launched events).nothing] at member
  cases member

/-- The client that connected is registered as long as a shutdown is not complete. -/
theorem Stranded.keys (stranded : server.Stranded attempts) :
    server.registries.all.keys =
      if server.stopped then [] else attempts.map fun _ => firstId := by
  rw [stranded.registries]
  cases server.stopped with
  | true => rfl
  | false =>
    obtain rfl | ⟨_, peer, rfl⟩ := stranded.alone
    · rfl
    · rfl

/-- It is not in any stage. -/
theorem Stranded.stageOf (stranded : server.Stranded attempts) (id : ConnId) :
    server.registries.stageOf id = none := by
  rw [stranded.registries]
  rfl

/-- No other client connects. -/
theorem Stranded.length_le (stranded : server.Stranded attempts) : attempts.length ≤ 1 := by
  obtain rfl | ⟨_, peer, rfl⟩ := stranded.alone
  · exact Nat.zero_le 1
  · exact Nat.le_refl 1

/-- The standard configuration, but for more room than any block of memory has. -/
def boundless : Config := { Config.standard with readBufferSize := 0x8000000000000000 }

end KeyValueServer.Server
