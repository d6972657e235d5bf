import KeyValueServer.Proofs.Server.Admission
import KeyValueServer.Proofs.Server.Jobs

/-!
# Order between the loops and the pools

Jobs hand sessions to later pools and the loop hands them to the first and the last, so no session
is lost at a pool as long as pools are closed in order: a pool is closed only after both loops have
ended and the pools before it have no jobs left. This module states that discipline and shows which
pools are open while somebody may still submit to them.
-/

namespace KeyValueServer.Server

variable {server after : Server}

/-- Pools are closed in order, no job has ended with a fault, there is room for the input of a new
connection, and the sizes that jobs compute with are words. -/
structure Disciplined (server : Server) : Prop where
  ordered : ∀ stage, (server.pool stage).isOpen = false → server.mayClosePool stage = true
  calm : ∀ stage, (server.pool stage).panicked = 0
  roomy : server.config.Roomy
  bounded : server.requestLimit + 1 < UInt64.size

/-- A pool may be closed once the shutdown has begun, both loops have ended and the pools before it
are drained. -/
theorem mayClosePool_iff (server : Server) (stage : Stage) :
    server.mayClosePool stage = true ↔ server.signal.triggered = true ∧
      server.accepting = false ∧ server.polling = false ∧
      ∀ before ∈ earlier stage, server.isDrained before = true := by
  simp only [mayClosePool, Bool.and_eq_true, Bool.not_eq_true', List.all_eq_true, and_assoc]

/-- A pool is drained when it is closed and has no jobs. -/
theorem isDrained_iff (server : Server) (stage : Stage) :
    server.isDrained stage = true ↔ (server.pool stage).isOpen = false ∧
      (server.pool stage).queue = [] ∧ (server.pool stage).running = [] := by
  simp only [isDrained, JobPool.isIdle, Bool.and_eq_true, Bool.not_eq_true', List.isEmpty_iff]

/-- A pool with a job is not drained. -/
theorem busy_of_mem {server : Server} {stage : Stage} {session : Session}
    (member : session ∈ (server.pool stage).queue ++ (server.pool stage).running) :
    server.isDrained stage = false := by
  rw [← Bool.not_eq_true, isDrained_iff]
  rintro ⟨_, queue, running⟩
  rw [queue, running] at member
  cases member

/-- What ended stays ended in `after`. -/
structure Continues (server after : Server) : Prop where
  config : after.config = server.config
  triggered : server.signal.triggered = true → after.signal.triggered = true
  accepting : server.accepting = false → after.accepting = false
  polling : server.polling = false → after.polling = false
  drained : ∀ stage, server.isDrained stage = true → after.isDrained stage = true
  panicked : ∀ stage, (after.pool stage).panicked = (server.pool stage).panicked
  closed : ∀ stage, (after.pool stage).isOpen = false →
    (server.pool stage).isOpen = false ∨ server.mayClosePool stage = true

/-- A step after which what ended stays ended keeps the discipline. -/
theorem Continues.disciplined (continues : server.Continues after)
    (disciplined : server.Disciplined) : after.Disciplined := by
  refine ⟨fun stage closed => ?_, fun stage => ?_, ?_, ?_⟩
  · have may : server.mayClosePool stage = true := by
      rcases continues.closed stage closed with closedBefore | may
      · exact disciplined.ordered stage closedBefore
      · exact may
    obtain ⟨triggered, accepting, polling, drained⟩ := (server.mayClosePool_iff stage).mp may
    exact (after.mayClosePool_iff stage).mpr
      ⟨continues.triggered triggered, continues.accepting accepting, continues.polling polling,
        fun before member => continues.drained before (drained before member)⟩
  · rw [continues.panicked]
    exact disciplined.calm stage
  · rw [continues.config]
    exact disciplined.roomy
  · unfold requestLimit
    rw [continues.config]
    exact disciplined.bounded

/-- What leaves the surroundings of a session alone keeps the discipline. -/
theorem Disciplined.of_surroundings (disciplined : server.Disciplined) (id : ConnId)
    (same : after.surroundings id = server.surroundings id) : after.Disciplined := by
  have pools (stage : Stage) :
      (if (after.pool stage).isOpen then none else some (after.pool stage)) =
        if (server.pool stage).isOpen then none else some (server.pool stage) :=
    congrFun (congrArg Surroundings.closedPools same) stage
  have closed (stage : Stage) (closed : (server.pool stage).isOpen = false) :
      after.pool stage = server.pool stage := by
    have pools := pools stage
    rw [closed] at pools
    cases still : (after.pool stage).isOpen with
    | true => rw [still] at pools; cases pools
    | false => rw [still] at pools; exact Option.some.inj pools
  refine (?_ : server.Continues after).disciplined disciplined
  constructor
  · exact congrArg Surroundings.config same
  · exact (congrArg (·.signal.triggered) same).trans
  · exact (congrArg Surroundings.accepting same).trans
  · exact (congrArg Surroundings.polling same).trans
  · intro stage drained
    have isClosed := ((server.isDrained_iff stage).mp drained).1
    rw [isDrained, closed stage isClosed]
    exact drained
  · exact congrFun (congrArg Surroundings.panicked same)
  · intro stage isClosed
    left
    have pools := pools stage
    rw [isClosed] at pools
    cases was : (server.pool stage).isOpen with
    | true => rw [was] at pools; cases pools
    | false => rfl

/-- A change of one pool keeps the discipline, if it closes the pool only in order and gives no
jobs to a pool that is drained. -/
theorem Disciplined.setPool (disciplined : server.Disciplined) (stage : Stage)
    (pool : JobPool Session)
    (closed : pool.isOpen = false →
      (server.pool stage).isOpen = false ∨ server.mayClosePool stage = true)
    (drained : server.isDrained stage = true → pool.isOpen = false ∧ pool.isIdle = true)
    (panicked : pool.panicked = (server.pool stage).panicked) :
    (server.setPool stage pool).Disciplined := by
  refine (?_ : server.Continues (server.setPool stage pool)).disciplined disciplined
  constructor
  · cases stage <;> rfl
  · cases stage <;> exact id
  · cases stage <;> exact id
  · cases stage <;> exact id
  · intro other drainedBefore
    rw [isDrained, pool_setPool]
    by_cases same : other = stage
    · subst same
      obtain ⟨isClosed, isIdle⟩ := drained drainedBefore
      rw [if_pos rfl, isClosed, isIdle]
      rfl
    · rw [if_neg same]
      exact drainedBefore
  · intro other
    rw [pool_setPool]
    by_cases same : other = stage
    · subst same
      rw [if_pos rfl, panicked]
    · rw [if_neg same]
  · intro other
    rw [pool_setPool]
    by_cases same : other = stage
    · subst same
      rw [if_pos rfl]
      exact closed
    · rw [if_neg same]
      exact .inl

/-- A change of the jobs of a pool that has some keeps the discipline. -/
theorem Disciplined.setJobs (disciplined : server.Disciplined) (stage : Stage)
    (pool : JobPool Session) (busy : server.isDrained stage = false)
    (isOpen : pool.isOpen = (server.pool stage).isOpen)
    (panicked : pool.panicked = (server.pool stage).panicked) :
    (server.setPool stage pool).Disciplined := by
  apply disciplined.setPool stage pool
  · rw [isOpen]
    exact .inl
  · rw [busy]
    intro impossible
    cases impossible
  · exact panicked

/-- While the loop runs that owns the readiness set, every pool is open. -/
theorem Disciplined.opened (disciplined : server.Disciplined) (polling : server.polling = true)
    (stage : Stage) : (server.pool stage).isOpen = true := by
  by_contra closed
  have may := disciplined.ordered stage (eq_false_of_ne_true closed)
  have ended := ((server.mayClosePool_iff stage).mp may).2.2.1
  rw [polling] at ended
  cases ended

/-- While a pool has jobs, the pools behind it are open. -/
theorem Disciplined.onward (disciplined : server.Disciplined) (stage : Stage)
    (busy : server.isDrained stage = false) : server.Onward stage := by
  intro later behind
  by_contra closed
  have may := disciplined.ordered later (eq_false_of_ne_true closed)
  have drained := ((server.mayClosePool_iff later).mp may).2.2.2 stage behind
  rw [busy] at drained
  cases drained

/-- A shutdown begins with the signal. -/
theorem triggered_trigger (server : Server) : (server.step .trigger).signal.triggered = true := by
  simp only [Server.step, ShutdownSignal.trigger]
  split
  · assumption
  · rfl

/-- The signal keeps the discipline. -/
theorem Disciplined.trigger (disciplined : server.Disciplined) :
    (server.step .trigger).Disciplined := by
  have continues : server.Continues (server.step .trigger) :=
    ⟨rfl, fun _ => server.triggered_trigger, id, id, fun _ => id, fun _ => rfl, fun _ => .inl⟩
  exact continues.disciplined disciplined

/-- The end of a loop keeps the discipline. -/
theorem Disciplined.endLoops (disciplined : server.Disciplined) (accepting polling : Bool)
    (notAgain : server.accepting = false → accepting = false)
    (neverAgain : server.polling = false → polling = false) :
    ({ server with accepting := accepting, polling := polling }).Disciplined := by
  have continues : server.Continues { server with accepting := accepting, polling := polling } :=
    ⟨rfl, id, notAgain, neverAgain, fun _ => id, fun _ => rfl, fun _ => .inl⟩
  exact continues.disciplined disciplined

end KeyValueServer.Server
