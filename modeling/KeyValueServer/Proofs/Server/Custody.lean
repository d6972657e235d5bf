import KeyValueServer.Proofs.Server.Turn

/-!
# Handing sessions on

Every job and every message takes one session in hand and either puts it in another place or ends
its connection. This module proves, for each of these moves, that afterwards all sessions are
accounted for again, provided they were before, counting the one in hand.

While a job runs, the pool still lists its session, in the state in which the job began. Such
entries are set aside: they are no holdings any more, and the pool forgets them when the job ends.
-/

namespace KeyValueServer.Server

variable {server : Server} {aside hand kept : List Holding} {place : Place} {session : Session}

/-- All sessions in their places but those of the jobs of one stage. -/
def elsewhere (server : Server) : Stage → List Holding
  | .readRegistered =>
    server.control.map Control.holding ++ (server.parked.values.map Parked.holding ++
      (server.jobs .processing ++ server.jobs .writePending))
  | .processing =>
    server.control.map Control.holding ++ (server.parked.values.map Parked.holding ++
      (server.jobs .readRegistered ++ server.jobs .writePending))
  | .writePending =>
    server.control.map Control.holding ++ (server.parked.values.map Parked.holding ++
      (server.jobs .readRegistered ++ server.jobs .processing))

/-- The jobs of a stage can be listed first. -/
theorem holdings_perm_jobs (server : Server) (stage : Stage) :
    server.holdings.Perm (server.jobs stage ++ server.elsewhere stage) := by
  have front : ∀ left first rest : List Holding,
      (left ++ (first ++ rest)).Perm (first ++ (left ++ rest)) := fun left first rest =>
    List.perm_append_comm_assoc left first rest
  cases stage with
  | readRegistered => exact ((front _ _ _).append_left _).trans (front _ _ _)
  | processing =>
    exact ((((front _ _ _).append_left _).trans (front _ _ _)).append_left _).trans (front _ _ _)
  | writePending =>
    refine ((((List.Perm.append_left _ ?_).trans (front _ _ _)).append_left _).trans (front _ _ _))
    exact (List.perm_append_comm.append_left _).trans (front _ _ _)

/-- A change of the jobs of one stage is the same change of all holdings. -/
theorem holdings_perm_of_jobs (before after : Server) (stage : Stage) (left right : List Holding)
    (others : after.elsewhere stage = before.elsewhere stage)
    (changed : (left ++ after.jobs stage).Perm (right ++ before.jobs stage)) :
    (left ++ after.holdings).Perm (right ++ before.holdings) := by
  have first := (holdings_perm_jobs after stage).append_left left
  have last := (holdings_perm_jobs before stage).append_left right
  rw [others, ← List.append_assoc] at first
  rw [← List.append_assoc] at last
  exact first.trans ((changed.append_right _).trans last.symm)

/-- A message adds its session to the holdings. -/
theorem holdings_notify (server : Server) (message : Control) :
    (server.notify message).holdings.Perm (message.holding :: server.holdings) := by
  simp only [holdings, notify, List.map_append, List.map_cons, List.map_nil, List.append_assoc,
    List.singleton_append]
  exact List.perm_middle

/-- A change of one pool concerns no other place. -/
theorem elsewhere_setPool (server : Server) (stage : Stage) (pool : JobPool Session) :
    (server.setPool stage pool).elsewhere stage = server.elsewhere stage := by
  cases stage <;> rfl

/-- The pool that was put in place of another. -/
theorem pool_setPool (server : Server) (stage other : Stage) (pool : JobPool Session) :
    (server.setPool stage pool).pool other = if other = stage then pool else server.pool other := by
  cases stage <;> cases other <;> rfl

/-- The jobs of a pool that was put in place of another. -/
theorem jobs_setPool (server : Server) (stage : Stage) (pool : JobPool Session) :
    (server.setPool stage pool).jobs stage =
      pool.queue.map (.queued stage, ·) ++ pool.running.map (.running stage, ·) := by
  simp only [jobs, pool_setPool, ↓reduceIte]

/-- A job that waits adds its session to the holdings. -/
theorem holdings_enqueue (server : Server) (stage : Stage) (session : Session)
    (pool : JobPool Session) (taken : (server.pool stage).submit session = .ok pool) :
    (server.setPool stage pool).holdings.Perm ((.queued stage, session) :: server.holdings) := by
  have shape : pool.queue = (server.pool stage).queue ++ [session] ∧
      pool.running = (server.pool stage).running := by
    unfold JobPool.submit at taken
    split at taken
    · obtain rfl := Except.ok.inj taken
      exact ⟨rfl, rfl⟩
    · cases taken
  apply holdings_perm_of_jobs server _ stage [] [(.queued stage, session)]
    (elsewhere_setPool server stage pool)
  rw [jobs_setPool, shape.1, shape.2, jobs]
  simp only [List.map_append, List.map_cons, List.map_nil, List.append_assoc,
    List.singleton_append, List.nil_append]
  exact List.perm_middle

/-- All sessions but those set aside are those kept, and these are accounted for together with the
ones in hand. -/
def Balanced (server : Server) (aside hand kept : List Holding) : Prop :=
  server.holdings.Perm (aside ++ kept) ∧
    Accounted server.registries server.nextId (hand ++ kept)

/-- What a job leaves alone that has the session of a connection in hand. -/
structure Surroundings where
  config : Config
  nextId : Nat
  parked : Bindings ConnId Parked
  signal : ShutdownSignal
  accepting : Bool
  polling : Bool
  stopped : Bool
  running : Stage → List Session
  panicked : Stage → UInt64
  /-- The pools that take no more jobs. -/
  closedPools : Stage → Option (JobPool Session)
  /-- The sockets of all other connections. -/
  otherSockets : ConnId → Option Socket

/-- The surroundings of the session of a connection. -/
def surroundings (server : Server) (id : ConnId) : Surroundings where
  config := server.config
  nextId := server.nextId
  parked := server.parked
  signal := server.signal
  accepting := server.accepting
  polling := server.polling
  stopped := server.stopped
  running stage := (server.pool stage).running
  panicked stage := (server.pool stage).panicked
  closedPools stage := if (server.pool stage).isOpen then none else some (server.pool stage)
  otherSockets other := if other = id then none else server.sockets.find? other

/-- A new socket of a connection is no part of the surroundings of its session. -/
theorem surroundings_setSocket (server : Server) (id : ConnId) (socket : Socket) :
    (server.setSocket id socket).surroundings id = server.surroundings id := by
  have others : ((server.setSocket id socket).surroundings id).otherSockets =
      (server.surroundings id).otherSockets := by
    funext other
    simp only [surroundings, setSocket, Bindings.find?_insert]
    by_cases same : other = id
    · rw [if_pos same, if_pos same]
    · rw [if_neg same, if_neg same, if_neg same]
  exact congrArg (fun sockets => { server.surroundings id with otherSockets := sockets }) others

/-- A pool that is put in place of another concerns no surroundings, if both are open and run the
same jobs. -/
theorem surroundings_setPool (server : Server) (stage : Stage) (pool : JobPool Session)
    (id : ConnId) (running : pool.running = (server.pool stage).running)
    (panicked : pool.panicked = (server.pool stage).panicked)
    (opened : (server.pool stage).isOpen = true) (stillOpen : pool.isOpen = true) :
    (server.setPool stage pool).surroundings id = server.surroundings id := by
  have pools : ∀ other, ((server.setPool stage pool).pool other).running =
        (server.pool other).running ∧
      ((server.setPool stage pool).pool other).panicked = (server.pool other).panicked ∧
      (if ((server.setPool stage pool).pool other).isOpen then none
        else some ((server.setPool stage pool).pool other)) =
        if (server.pool other).isOpen then none else some (server.pool other) := by
    intro other
    rw [pool_setPool]
    by_cases same : other = stage
    · subst same
      simp only [↓reduceIte, running, panicked, opened, stillOpen, and_self]
    · simp only [same, ↓reduceIte, and_self]
  simp only [surroundings, fun other => (pools other).1, fun other => (pools other).2.1,
    fun other => (pools other).2.2]
  cases stage <;> rfl

/-- The socket that a connection was given. -/
theorem socket_setSocket (server : Server) (id : ConnId) (socket : Socket) :
    (server.setSocket id socket).socket id = socket := by
  simp only [Server.socket, setSocket, Bindings.find?_insert, ↓reduceIte, Option.getD_some]

/-- The socket of a session that is dropped hangs up, and no other does. -/
theorem socket_drop (server : Server) (session : Session) (id : ConnId) :
    (server.drop session).socket id =
      if id = session.id then (server.socket session.id).hangUp else server.socket id := by
  simp only [drop, setSocket, Server.socket, Bindings.find?_insert]
  split <;> rfl

/-- A connection that was given a socket has one. -/
theorem connected_setSocket (server : Server) (id : ConnId) (socket : Socket) :
    ((server.setSocket id socket).sockets.find? id).isSome = true := by
  simp only [setSocket, Bindings.find?_insert, ↓reduceIte, Option.isSome_some]

/-- A session in hand came to a place, and nothing else changed. -/
structure Delivered (server after : Server) (aside kept : List Holding) (next : Holding) :
    Prop where
  balanced : after.Balanced aside [] (next :: kept)
  surroundings : ∀ id, after.surroundings id = server.surroundings id
  scene : ∀ id, after.scene id = server.scene id
  sockets : after.sockets = server.sockets

/-- A session in hand that is put into a message is accounted for there. -/
theorem Balanced.notify (balanced : server.Balanced aside [(place, session)] kept)
    (message : Control) (same : message.holding.2.id = session.id)
    (agrees : message.holding.1.Agrees (server.registries.stageOf session.id))
    (stored : message.holding.2.command.isSome = message.holding.1.executes) :
    server.Delivered (server.notify message) aside kept message.holding := by
  obtain ⟨perm, accounted⟩ := balanced
  refine ⟨⟨?_, ?_⟩, fun _ => rfl, fun _ => rfl, rfl⟩
  · exact (holdings_notify server message).trans ((perm.cons _).trans List.perm_middle.symm)
  · exact accounted.move message.holding.1 message.holding.2 same agrees stored

/-- Where a session in hand is dropped with its connection, the others are accounted for. -/
theorem Balanced.close (balanced : server.Balanced aside ((place, session) :: hand) kept) :
    (server.close session).Balanced aside hand kept :=
  ⟨balanced.1, balanced.2.remove⟩

/-- A session in hand that is submitted to an open pool is accounted for there. -/
theorem Balanced.submit (balanced : server.Balanced aside [(place, session)] kept) (stage : Stage)
    (submitted : Session) (same : submitted.id = session.id)
    (opened : (server.pool stage).isOpen = true)
    (found : server.registries.stageOf session.id = some stage)
    (stored : submitted.command.isSome = (Place.queued stage).executes) :
    server.Delivered (server.submit stage submitted) aside kept (.queued stage, submitted) := by
  let pool := { server.pool stage with
    queue := (server.pool stage).queue ++ [submitted]
    submitted := (server.pool stage).submitted + 1 }
  have taken : (server.pool stage).submit submitted = .ok pool := by
    rw [JobPool.submit, if_pos opened]
  have landed : server.submit stage submitted = server.setPool stage pool := by
    rw [Server.submit, taken]
  obtain ⟨perm, accounted⟩ := balanced
  rw [landed]
  refine ⟨⟨?_, ?_⟩, fun id => ?_, fun id => ?_, ?_⟩
  · exact (holdings_enqueue server stage submitted pool taken).trans
      ((perm.cons _).trans List.perm_middle.symm)
  · have moved := accounted.move (.queued stage) submitted same
      (fun expected goesWith => found.trans (Option.some.inj goesWith)) stored
    cases stage <;> exact moved
  · exact surroundings_setPool server stage pool id rfl rfl opened opened
  · cases stage <;> rfl
  · cases stage <;> rfl

/-- The place to which a session goes from the stage before. -/
def landing : Stage → Place
  | .readRegistered => .rearm
  | .processing => .queued .processing
  | .writePending => .queued .writePending

/-- A session in hand whose connection is in the stage that it is to leave is accounted for after
it was handed on. -/
theorem Balanced.advance (balanced : server.Balanced aside [(place, session)] kept)
    (before after : Stage) (changed : Session) (same : changed.id = session.id)
    (opened : after ≠ .readRegistered → (server.pool after).isOpen = true)
    (found : server.registries.stageOf session.id = some before)
    (stored : changed.command.isSome = (landing after).executes) :
    server.Delivered (server.advance changed before after) aside kept (landing after, changed) := by
  obtain ⟨perm, accounted⟩ := balanced
  obtain ⟨moved, moves, arrived, accounts⟩ := accounted.transition (some before) after found
  rw [← same] at moves
  have inHand : ({ server with registries := moved } : Server).Balanced aside
      [(landing after, changed)] kept := by
    refine ⟨perm, accounts (landing after) changed same ?_ stored⟩
    cases after <;> exact fun expected goesWith => Option.some.inj goesWith
  rw [← same] at arrived
  have handsOver : ({ server with registries := moved } : Server).Delivered
      (server.advance changed before after) aside kept (landing after, changed) := by
    unfold Server.advance
    rw [moves]
    cases after with
    | readRegistered =>
      exact inHand.notify (.rearm changed) rfl
        (fun expected goesWith => arrived.trans (Option.some.inj goesWith)) stored
    | processing =>
      exact inHand.submit .processing changed rfl (opened Stage.noConfusion) arrived stored
    | writePending =>
      exact inHand.submit .writePending changed rfl (opened Stage.noConfusion) arrived stored
  exact ⟨handsOver.balanced, handsOver.surroundings, handsOver.scene, handsOver.sockets⟩

end KeyValueServer.Server
