import KeyValueServer.Proofs.Server.Outcome

/-!
# How far a shutdown has gone

Where there is room for clients the loop that accepts them ends only behind the signal, a pool is
closed only behind the loops and the pools before it, and the last step is taken only when all pools
are drained. When it
was taken nothing is left that any later event could act on, but for what clients do to their own
ends of the sockets.
-/

namespace KeyValueServer

/-- The events that the loops have a part in, and the steps by which a shutdown ends the loops. -/
def Event.needsLoops : Event → Bool
  | .connect _ | .applyControl _ | .ready _ | .trigger | .stopAccepting | .stopPolling => true
  | _ => false

namespace Server

variable {server after : Server}

/-- A shutdown has begun and both loops have ended. -/
structure LoopsEnded (server : Server) : Prop where
  triggered : server.signal.triggered = true
  accepting : server.accepting = false
  polling : server.polling = false

/-- A shutdown has gone no further than it may, and no pool has lost a job. -/
structure Staged (server : Server) : Prop where
  /-- Where no client can be stranded the loop that accepts clients ends only behind the signal. -/
  signalled : server.config.Roomy → server.accepting = false → server.signal.triggered = true
  /-- The last step is behind all others, and leaves no message. -/
  finished : server.stopped = true → server.mayComplete = true ∧ server.control = []
  /-- Every job that was submitted is accounted for. -/
  pools : ∀ stage, (server.pool stage).Sound

/-- The loops have ended in every state that is as far on the way to a shutdown. -/
theorem LoopsEnded.of_posture (ended : server.LoopsEnded) (same : after.posture = server.posture) :
    after.LoopsEnded where
  triggered := (congrArg (·.signal.triggered) same).trans ended.triggered
  accepting := (congrArg Posture.accepting same).trans ended.accepting
  polling := (congrArg Posture.polling same).trans ended.polling

/-- Both loops have ended when a shutdown may take its last step. -/
theorem ended_of_mayComplete (may : server.mayComplete = true) : server.LoopsEnded := by
  have mayClose := ((Bool.and_eq_true _ _).mp may).1
  obtain ⟨triggered, accepting, polling, _⟩ :=
    (server.mayClosePool_iff .writePending).mp mayClose
  exact ⟨triggered, accepting, polling⟩

/-- When both loops have ended, what they have a part in changes nothing any more. -/
theorem LoopsEnded.step_eq (ended : server.LoopsEnded) (event : Event)
    (loops : event.needsLoops = true) :
    server.step event = server := by
  obtain ⟨triggered, accepting, polling⟩ := ended
  cases event with
  | connect peer => simp [Server.step, accepting]
  | applyControl registers => simp [Server.step, polling]
  | ready id => simp [Server.step, polling]
  | trigger => simp [Server.step, ShutdownSignal.trigger, triggered]
  | stopAccepting =>
    simp only [Server.step, triggered, if_true]
    rw [← accepting]
  | stopPolling => simp [Server.step, polling]
  | arrive | endInput | allow | closePeer | receive | start | finish | closePool | complete =>
    cases loops

/-- A pool that is closed already stays as it is. -/
theorem step_closePool_of_closed {stage : Stage} (closed : (server.pool stage).isOpen = false) :
    server.step (.closePool stage) = server := by
  have same : (server.pool stage).close = server.pool stage := by
    rw [JobPool.close, ← closed]
  simp only [Server.step, same]
  split
  · cases stage <;> rfl
  · rfl

/-- After a shutdown only what happens to sockets from outside changes anything. -/
theorem Staged.step_of_stopped (staged : server.Staged) (stopped : server.stopped = true)
    (event : Event) (inside : event.isOutside = false) : server.step event = server := by
  obtain ⟨may, control⟩ := staged.finished stopped
  have idle (stage : Stage) := (server.isDrained_iff stage).mp (isDrained_of_mayComplete may stage)
  cases event with
  | arrive | endInput | allow | closePeer | receive => cases inside
  | connect | applyControl | ready | trigger | stopAccepting | stopPolling =>
    exact (ended_of_mayComplete may).step_eq _ rfl
  | start stage => simp [Server.step, Server.start, JobPool.start?, (idle stage).2.1]
  | finish stage index => simp [Server.step, Server.finish, (idle stage).2.2]
  | closePool stage => exact step_closePool_of_closed (idle stage).1
  | complete => simp [Server.step, stopped]

/-- What happens to a socket from outside is no step of a shutdown. -/
theorem Staged.onSocket (staged : server.Staged) (id : ConnId) (change : Socket → Socket) :
    (server.onSocket id change).Staged := by
  unfold Server.onSocket
  split
  · exact staged
  · exact ⟨staged.signalled, staged.finished, staged.pools⟩

/-- A server that goes on with its work is as far on its way to a shutdown as it was. -/
theorem Staged.works (staged : server.Staged) (goesOn : server.stopped = false)
    (works : server.Works after) : after.Staged := by
  have signal : after.signal = server.signal := congrArg Posture.signal works.posture
  have accepting : after.accepting = server.accepting :=
    congrArg Posture.accepting works.posture
  have stopped : after.stopped = server.stopped := congrArg Posture.stopped works.posture
  constructor
  · rw [works.config, accepting, signal]
    exact staged.signalled
  · rw [stopped, goesOn]
    intro impossible
    cases impossible
  · intro stage
    exact (staged.pools stage).moves (works.pools stage)

/-- A client that connects is no step of a shutdown. -/
theorem Staged.accept (staged : server.Staged) (goesOn : server.stopped = false)
    (peer : Address) : (server.accept peer).Staged := by
  obtain ⟨_, _, stopped, pools⟩ := server.accept_beside peer
  constructor
  · obtain same | ⟨_, same⟩ | ⟨roomless, same⟩ := server.accept_cases peer
    · rw [same]
      exact staged.signalled
    · rw [same]
      exact staged.signalled
    · rw [same]
      exact fun roomy => absurd roomy roomless
  · rw [stopped, goesOn]
    intro impossible
    cases impossible
  · intro stage
    rw [pools]
    exact staged.pools stage

/-- A loop that ends behind the signal keeps to the order of a shutdown. -/
theorem Staged.endLoop (staged : server.Staged) (goesOn : after.stopped = false)
    (triggered : after.signal.triggered = true)
    (pools : ∀ stage, after.pool stage = server.pool stage) : after.Staged := by
  constructor
  · exact fun _ _ => triggered
  · intro stopped
    rw [goesOn] at stopped
    cases stopped
  · intro stage
    rw [pools]
    exact staged.pools stage

/-- A pool that is closed keeps its jobs. -/
theorem Staged.closePool (staged : server.Staged) (goesOn : server.stopped = false)
    (stage : Stage) : (server.setPool stage (server.pool stage).close).Staged := by
  have closed : ∀ other, ((server.setPool stage (server.pool stage).close).pool other).Sound := by
    intro other
    rw [pool_setPool]
    split
    · exact (staged.pools stage).close
    · exact staged.pools other
  constructor
  · cases stage <;> exact staged.signalled
  · intro stopped
    have same : (server.setPool stage (server.pool stage).close).stopped = server.stopped := by
      cases stage <;> rfl
    rw [same, goesOn] at stopped
    cases stopped
  · exact closed

/-- The last step of a shutdown leaves no message behind. -/
theorem Staged.complete (staged : server.Staged) (goesOn : server.stopped = false)
    (may : server.mayComplete = true) : server.complete.Staged := by
  have closed := staged.works goesOn (works_closeAll (server.control.map Control.session))
  have same : server.complete.mayComplete = server.mayComplete := by
    rw [Server.complete, closeAll_eq]
    rfl
  exact ⟨closed.signalled, fun _ => ⟨same.trans may, rfl⟩, closed.pools⟩

/-- Every step keeps to the order of a shutdown. -/
theorem Staged.step (staged : server.Staged) (event : Event) : (server.step event).Staged := by
  cases stopped : server.stopped with
  | true =>
    cases event with
    | arrive id | endInput id | allow id | closePeer id | receive id =>
      exact staged.onSocket id _
    | _ =>
      rw [staged.step_of_stopped stopped _ rfl]
      exact staged
  | false =>
    have into : server.StepsInto Staged := {
      idle := staged
      accept := fun _ peer => staged.accept stopped peer
      onSocket := fun id change => staged.onSocket id change
      applyControl := fun _ registers => staged.works stopped (works_applyControl registers)
      ready := fun _ id => staged.works stopped (works_ready id)
      start := fun stage => staged.works stopped (works_start stage)
      finish := fun stage index => staged.works stopped (works_finish stage index)
      trigger := staged.endLoop stopped server.triggered_trigger fun _ => rfl
      stopAccepting := fun triggered => staged.endLoop stopped triggered fun _ => rfl
      stopPolling := by
        intro triggered _
        have works := server.works_closeAll (server.parked.values.map Parked.session)
        have signal := congrArg Posture.signal works.posture
        have goesOn := (congrArg Posture.stopped works.posture).trans stopped
        exact (staged.works stopped works).endLoop goesOn
          ((congrArg ShutdownSignal.triggered signal).trans triggered) fun _ => rfl
      closePool := fun stage _ => staged.closePool stopped stage
      complete := fun may goesOn => staged.complete goesOn may }
    exact into.step event

/-- Every run keeps to the order of a shutdown. -/
theorem Staged.run (staged : server.Staged) (events : List Event) : (server.run events).Staged :=
  holds_run (fun event staged => staged.step event) staged events

/-- No shutdown of a server that was just started has begun. -/
theorem staged_of_launch {host : Host} {config : Config} {taken : Bool}
    (launched : launch host config taken = .ok server) : server.Staged := by
  obtain ⟨_, store, _, rfl⟩ := eq_fresh_of_launch launched
  constructor
  · intro _ ended
    cases ended
  · intro stopped
    cases stopped
  · intro stage
    cases stage <;> exact JobPool.sound_fresh _ _

end Server

end KeyValueServer
