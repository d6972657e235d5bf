import KeyValueServer.Proofs.JobPool
import KeyValueServer.Proofs.Server.Admission

/-!
# What stays with a server

Jobs and loops give jobs to the pools, take them, and end them; they end no loop, close no pool and
use up no number. Each operation of the server is looked at once for that. It follows that the
configuration of a server and the sizes of its pools never change, and that connections are numbered
upwards: only a client that connects uses a number up.
-/

namespace KeyValueServer

/-- What jobs and loops leave as it is. -/
structure Fixture where
  config : Config
  nextId : Nat
  sizes : Stage → Nat

/-- How far a server is on its way to a shutdown. -/
structure Posture where
  signal : ShutdownSignal
  accepting : Bool
  polling : Bool
  stopped : Bool

/-- What happens to the socket of a connection from outside. -/
def Event.isOutside : Event → Bool
  | .arrive _ _ | .endInput _ | .allow _ _ | .closePeer _ | .receive _ => true
  | _ => false

/-- The events that are part of the work of a server: all but the admission of clients and the moves
of a shutdown. -/
def Event.isWork : Event → Bool
  | .applyControl _ | .ready _ | .start _ | .finish _ _ => true
  | event => event.isOutside

namespace Server

/-- What jobs and loops leave as it is in a server. -/
def fixture (server : Server) : Fixture :=
  ⟨server.config, server.nextId, fun stage => (server.pool stage).size⟩

/-- How far a server is on its way to a shutdown. -/
def posture (server : Server) : Posture :=
  ⟨server.signal, server.accepting, server.polling, server.stopped⟩

/-- A server went on with its work: its pools moved, and nothing was shut down. -/
structure Works (server after : Server) : Prop where
  config : after.config = server.config
  nextId : after.nextId = server.nextId
  posture : after.posture = server.posture
  pools : ∀ stage, JobPool.Moves (server.pool stage) (after.pool stage)

variable {server after last : Server}

/-- A server that does nothing goes on. -/
theorem Works.refl (server : Server) : server.Works server :=
  ⟨rfl, rfl, rfl, fun _ => .refl⟩

/-- A server that goes on and on goes on. -/
theorem Works.trans (works : server.Works after) (more : after.Works last) : server.Works last :=
  ⟨more.config.trans works.config, more.nextId.trans works.nextId,
    more.posture.trans works.posture, fun stage => (works.pools stage).trans (more.pools stage)⟩

/-- A server that goes on keeps what stays with it. -/
theorem Works.fixture (works : server.Works after) : after.fixture = server.fixture := by
  have sizes : after.fixture.sizes = server.fixture.sizes := by
    funext stage
    exact (works.pools stage).frame.2.1
  calc after.fixture
      = ⟨after.config, after.nextId, after.fixture.sizes⟩ := rfl
    _ = server.fixture := by
      rw [works.config, works.nextId, sizes]
      rfl

/-- A server whose pools stay as they are goes on, if it is on no other way to a shutdown. -/
theorem works_of_same (config : after.config = server.config)
    (nextId : after.nextId = server.nextId) (posture : after.posture = server.posture)
    (pools : ∀ stage, after.pool stage = server.pool stage) : server.Works after := by
  refine ⟨config, nextId, posture, fun stage => ?_⟩
  rw [pools]
  exact .refl

/-- A pool that moves lets the server go on. -/
theorem works_setPool (stage : Stage) {pool : JobPool Session}
    (moves : JobPool.Moves (server.pool stage) pool) :
    server.Works (server.setPool stage pool) := by
  constructor
  · cases stage <;> rfl
  · cases stage <;> rfl
  · cases stage <;> rfl
  · intro other
    cases stage <;> cases other <;> first | exact moves | exact .refl

/-- A session can be parked in the course of the work. -/
theorem works_park (registers : Bool) (parked : Parked) :
    server.Works (server.park registers parked) := by
  cases registers <;> exact works_of_same rfl rfl rfl fun _ => rfl

/-- A session can be queued in the course of the work. -/
theorem works_submit (stage : Stage) (session : Session) :
    server.Works (server.submit stage session) := by
  unfold submit
  split
  · next pool taken => exact works_setPool stage (.single (.submits session taken))
  · exact works_of_same rfl rfl rfl fun _ => rfl

/-- A session can change its stage in the course of the work. -/
theorem works_advance (session : Session) (before stage : Stage) :
    server.Works (server.advance session before stage) := by
  unfold advance
  split
  · exact works_of_same rfl rfl rfl fun _ => rfl
  · next registries _ =>
    have moved : server.Works { server with registries := registries } :=
      works_of_same rfl rfl rfl fun _ => rfl
    cases stage with
    | readRegistered => exact works_of_same rfl rfl rfl fun _ => rfl
    | processing => exact moved.trans (works_submit .processing session)
    | writePending => exact moved.trans (works_submit .writePending session)

/-- A job can hand its session on when it has changed the session and what that meets. -/
theorem works_handOn (session : Session) (before stage : Stage)
    (config : after.config = server.config) (nextId : after.nextId = server.nextId)
    (posture : after.posture = server.posture)
    (pools : ∀ stage, after.pool stage = server.pool stage) :
    server.Works (after.advance session before stage) :=
  (works_of_same config nextId posture pools).trans (works_advance session before stage)

/-- A job is part of the work. -/
theorem works_runJob (stage : Stage) (session : Session) :
    server.Works (server.runJob stage session).2 := by
  unfold runJob
  dsimp only
  split
  · cases stage with
    | readRegistered =>
      simp only [Server.read]
      split
      · exact works_of_same rfl rfl rfl fun _ => rfl
      · split
        · exact works_of_same rfl rfl rfl fun _ => rfl
        · unfold decodeNext
          split
          · exact works_of_same rfl rfl rfl fun _ => rfl
          · exact works_handOn _ _ _ rfl rfl rfl fun _ => rfl
          · dsimp only
            split
            · exact works_of_same rfl rfl rfl fun _ => rfl
            · exact works_handOn _ _ _ rfl rfl rfl fun _ => rfl
    | processing =>
      simp only [Server.process]
      split
      · exact works_of_same rfl rfl rfl fun _ => rfl
      · exact works_handOn _ _ _ rfl rfl rfl fun _ => rfl
      · exact works_handOn _ _ _ rfl rfl rfl fun _ => rfl
    | writePending =>
      simp only [Server.write]
      split
      · exact works_of_same rfl rfl rfl fun _ => rfl
      · exact works_of_same rfl rfl rfl fun _ => rfl
      · split
        · exact works_of_same rfl rfl rfl fun _ => rfl
        · exact works_handOn _ _ _ rfl rfl rfl fun _ => rfl
  · exact works_of_same rfl rfl rfl fun _ => rfl

/-- A worker can take a job in the course of the work. -/
theorem works_start (stage : Stage) : server.Works (server.start stage) := by
  unfold start
  split
  · exact .refl server
  · next pool started => exact works_setPool stage (.single (.starts started))

/-- A worker can end a job in the course of the work. -/
theorem works_finish (stage : Stage) (index : Nat) : server.Works (server.finish stage index) := by
  unfold finish
  split
  · exact .refl server
  · next session _ =>
    have ran := server.works_runJob stage session
    dsimp only
    split
    · exact ran
    · next job pool ended =>
      exact ran.trans (works_setPool stage (.single (.finishes index _ job ended)))

/-- What a message asks for is part of the work. -/
theorem works_apply (registers : Bool) (message : Control) :
    server.Works (server.apply registers message) := by
  cases message with
  | add session =>
    simp only [apply]
    split
    · exact works_of_same rfl rfl rfl fun _ => rfl
    · next registries _ =>
      have moved : server.Works { server with registries := registries } :=
        works_of_same rfl rfl rfl fun _ => rfl
      exact moved.trans (works_park registers _)
  | readMore session => exact works_park registers _
  | rearm session =>
    simp only [apply]
    split
    · exact works_park registers _
    · exact works_submit .readRegistered session
  | awaitWritable session => exact works_park registers _
  | remove session => exact works_of_same rfl rfl rfl fun _ => rfl

/-- A loop can look at its next message in the course of the work. -/
theorem works_applyControl (registers : Bool) :
    server.Works (server.applyControl registers) := by
  unfold applyControl
  split
  · exact .refl server
  · next message messages _ =>
    have popped : server.Works { server with control := messages } :=
      works_of_same rfl rfl rfl fun _ => rfl
    exact popped.trans (works_apply registers message)

/-- A loop can be told of a ready connection in the course of the work. -/
theorem works_ready (id : ConnId) : server.Works (server.ready id) := by
  unfold ready
  split
  · exact .refl server
  · have taken : server.Works { server with parked := server.parked.erase id } :=
      works_of_same rfl rfl rfl fun _ => rfl
    dsimp only
    split <;> exact taken.trans (works_submit _ _)

/-- Sessions can be closed in the course of the work. -/
theorem works_closeAll (sessions : List Session) : server.Works (server.closeAll sessions) := by
  unfold closeAll
  induction sessions generalizing server with
  | nil => exact .refl server
  | cons session sessions inductionHypothesis =>
    have closed : server.Works (server.close session) := works_of_same rfl rfl rfl fun _ => rfl
    exact closed.trans inductionHypothesis

/-- What happens to a socket from outside goes on beside the work. -/
theorem works_onSocket (id : ConnId) (change : Socket → Socket) :
    server.Works (server.onSocket id change) := by
  unfold onSocket
  split
  · exact .refl server
  · exact works_of_same rfl rfl rfl fun _ => rfl

/-- A pool of the same size may take the place of another. -/
theorem fixture_setPool (stage : Stage) (pool : JobPool Session)
    (same : pool.size = (server.pool stage).size) :
    (server.setPool stage pool).fixture = server.fixture := by
  have sizes : ((server.setPool stage pool).fixture).sizes = server.fixture.sizes := by
    funext other
    cases stage <;> cases other <;> first | rfl | exact same
  calc (server.setPool stage pool).fixture
      = { server.fixture with sizes := ((server.setPool stage pool).fixture).sizes } := by
        cases stage <;> rfl
    _ = server.fixture := by rw [sizes]

/-- A client that connects uses a number up, or is turned away. -/
theorem fixture_accept (peer : Address) :
    (server.accept peer).fixture = server.fixture ∨
      (server.accept peer).fixture = { server.fixture with nextId := server.nextId + 1 } := by
  obtain same | ⟨_, same⟩ | ⟨_, same⟩ := server.accept_cases peer
  · rw [same]
    exact .inl rfl
  · rw [same]
    exact .inr rfl
  · rw [same]
    exact .inr rfl

/-- A server goes on with its work as long as no client is admitted and nothing is shut down. -/
theorem works_step (event : Event) (work : event.isWork = true) :
    server.Works (server.step event) := by
  cases event with
  | arrive id arrival | endInput id | allow id allowance | closePeer id | receive id =>
    exact works_onSocket id _
  | applyControl registers =>
    simp only [step]
    split
    · exact works_applyControl registers
    · exact .refl server
  | ready id =>
    simp only [step]
    split
    · exact works_ready id
    · exact .refl server
  | start stage => exact works_start stage
  | finish stage index => exact works_finish stage index
  | connect | trigger | stopAccepting | stopPolling | closePool | complete => cases work

/-- No step changes the configuration or the size of a pool, and numbers are only used up. -/
theorem fixture_step (event : Event) :
    (server.step event).fixture = server.fixture ∨
      (server.step event).fixture = { server.fixture with nextId := server.nextId + 1 } := by
  have into : server.StepsInto fun after => after.fixture = server.fixture ∨
      after.fixture = { server.fixture with nextId := server.nextId + 1 } := {
    idle := .inl rfl
    accept := fun _ peer => fixture_accept peer
    onSocket := fun id change => .inl (works_onSocket id change).fixture
    applyControl := fun _ registers => .inl (works_applyControl registers).fixture
    ready := fun _ id => .inl (works_ready id).fixture
    start := fun stage => .inl (works_start stage).fixture
    finish := fun stage index => .inl (works_finish stage index).fixture
    trigger := .inl rfl
    stopAccepting := fun _ => .inl rfl
    stopPolling := fun _ _ =>
      .inl (works_closeAll (server.parked.values.map Parked.session)).fixture
    closePool := fun stage _ => .inl (fixture_setPool stage _ rfl)
    complete := fun _ _ => .inl (works_closeAll (server.control.map Control.session)).fixture }
  exact into.step event

/-- A server goes on while all events of a run are part of its work. -/
theorem works_run (events : List Event) (work : ∀ event ∈ events, event.isWork = true) :
    server.Works (server.run events) := by
  unfold run
  induction events generalizing server with
  | nil => exact .refl server
  | cons event events inductionHypothesis =>
    obtain ⟨first, later⟩ := List.forall_mem_cons.mp work
    exact (works_step event first).trans (inductionHypothesis later)

/-- What a step keeps, part by part. -/
theorem kept_of_step (event : Event) :
    (server.step event).config = server.config ∧
      (∀ stage, ((server.step event).pool stage).size = (server.pool stage).size) ∧
      server.nextId ≤ (server.step event).nextId := by
  rcases server.fixture_step event with same | same
  · exact ⟨congrArg Fixture.config same, congrFun (congrArg Fixture.sizes same),
      Nat.le_of_eq (congrArg Fixture.nextId same).symm⟩
  · exact ⟨congrArg Fixture.config same, congrFun (congrArg Fixture.sizes same),
      Nat.le_trans (Nat.le_succ _) (Nat.le_of_eq (congrArg Fixture.nextId same).symm)⟩

/-- No run changes the configuration or the size of a pool, and numbers are only used up. -/
theorem kept_of_run (events : List Event) :
    (server.run events).config = server.config ∧
      (∀ stage, ((server.run events).pool stage).size = (server.pool stage).size) ∧
      server.nextId ≤ (server.run events).nextId := by
  unfold run
  induction events generalizing server with
  | nil => exact ⟨rfl, fun _ => rfl, Nat.le_refl _⟩
  | cons event events inductionHypothesis =>
    obtain ⟨config, sizes, upwards⟩ := @inductionHypothesis (server.step event)
    obtain ⟨configFirst, sizesFirst, upwardsFirst⟩ := server.kept_of_step event
    exact ⟨config.trans configFirst, fun stage => (sizes stage).trans (sizesFirst stage),
      Nat.le_trans upwardsFirst upwards⟩

end Server

end KeyValueServer
