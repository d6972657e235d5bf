import Mathlib.Algebra.GroupWithZero.Nat
import KeyValueServer.Proofs.Server.Closing
import KeyValueServer.Server.Service

/-!
# The work that is left

Once the loops have ended nothing is handed to the workers from outside any more. A session is then
at most six steps of workers away from the message that its jobs end in: two for each stage. The sum
of these steps falls with every step that a worker makes, and there is such a step as long as there
are jobs. So the pools run empty in whatever order the workers proceed, and the shutdown comes to
its end.
-/

namespace KeyValueServer

/-- How many steps of workers a session in a place is away from a message at most. -/
def Place.labour : Place → Nat
  | .queued .readRegistered => 6
  | .running .readRegistered => 5
  | .queued .processing => 4
  | .running .processing => 3
  | .queued .writePending => 2
  | .running .writePending => 1
  | .added | .readMore | .rearm | .awaitWritable | .removed | .parkedRead | .parkedWrite => 0

/-- No session is further away than six steps. -/
theorem Place.labour_le (place : Place) : place.labour ≤ 6 := by
  rcases place with _ | _ | _ | _ | _ | _ | _ | stage | stage <;>
    first
    | decide
    | cases stage <;> decide

/-- Every step of a worker takes its session nearer to a message. -/
theorem Turn.labour_lt {limit : Nat} {before next : Holding} {scene later : Scene}
    (turn : Turn limit before scene next later) (works : 0 < before.1.labour) :
    next.1.labour < before.1.labour := by
  cases turn with
  | passed _ _ _ _ passage =>
    cases passage with
    | started stage => cases stage <;> simp [Place.labour]
    | admitted | wantsMore | wantsNext | hasNext | wantsRoom | readable | writable =>
      exact absurd works (Nat.lt_irrefl 0)
  | lost | short | oversized | malformed | decoded | executed | refused | broken | blocked | ended
  | answered => simp [Place.labour]

namespace Server

variable {server after : Server}

/-- A server at rest is settled. -/
theorem settle_of_rest (rests : server.nextEvent? = none) : server.settle = server := by
  rw [settle]
  cases server.effort with
  | zero => rfl
  | succ fuel => rw [settleWith, rests]

/-- How many steps the workers can still make if nothing is handed to them from outside. -/
def labour (server : Server) : Nat :=
  (server.holdings.map fun holding => holding.1.labour).sum

/-- A step of a worker leaves less to do. -/
theorem Took.labour_lt {kept : List Holding} {before next : Holding}
    (took : server.Took after kept before next) (works : 0 < before.1.labour) :
    after.labour < server.labour := by
  have fewer := took.turn.labour_lt works
  have leaves := (took.leaves.map fun holding => holding.1.labour).sum_nat
  have arrives := (took.arrives.map fun holding => holding.1.labour).sum_nat
  rw [List.map_cons, List.sum_cons] at leaves arrives
  rw [labour, labour, leaves, arrives]
  omega

/-- A job, whether it waits or runs, is left to do. -/
theorem labour_pos_of_job (stage : Stage) :
    0 < (Place.queued stage).labour ∧ 0 < (Place.running stage).labour := by
  cases stage <;> decide

/-- A worker that takes a job leaves less to do. -/
theorem Orderly.start_labour (orderly : server.Orderly) (stage : Stage) :
    server.start stage = server ∨ (server.start stage).labour < server.labour := by
  obtain same | ⟨_, session, kept, took⟩ := orderly.start_cases stage
  · exact .inl same
  · exact .inr (took.labour_lt (labour_pos_of_job stage).1)

/-- A worker that ends a job leaves less to do. -/
theorem Orderly.finish_labour (orderly : server.Orderly) (stage : Stage) (index : Nat) :
    server.finish stage index = server ∨ (server.finish stage index).labour < server.labour := by
  obtain ⟨_, same⟩ | ⟨_, session, kept, next, _, took⟩ := orderly.finish_cases stage index
  · exact .inl same
  · exact .inr (took.labour_lt (labour_pos_of_job stage).2)

/-- What the workers of a pool do next when they are left to themselves: they end the jobs that
run before they take others. -/
def nextWork (server : Server) (stage : Stage) : Event :=
  if (server.pool stage).running.isEmpty then .start stage else .finish stage 0

/-- What workers do is part of the work. -/
theorem isWork_nextWork (server : Server) (stage : Stage) :
    (server.nextWork stage).isWork = true := by
  unfold nextWork
  split <;> rfl

/-- A pool with jobs has a worker that can make a step. -/
theorem Orderly.works_on (orderly : server.Orderly) (stage : Stage)
    (staffed : 0 < (server.pool stage).size) (busy : (server.pool stage).isIdle = false) :
    (server.step (server.nextWork stage)).labour < server.labour := by
  unfold nextWork
  cases running : (server.pool stage).running with
  | nil =>
    cases queue : (server.pool stage).queue with
    | nil =>
      rw [JobPool.isIdle, queue, running] at busy
      cases busy
    | cons session jobs =>
      have room : (server.pool stage).running.length < (server.pool stage).size := by
        rw [running]
        exact staffed
      obtain ⟨_, kept, took⟩ := orderly.starts stage queue room
      exact took.labour_lt (labour_pos_of_job stage).1
  | cons session jobs =>
    have found : (server.pool stage).running[0]? = some session := by
      rw [running]
      rfl
    obtain ⟨_, kept, next, took⟩ := orderly.finishes stage 0 found
    exact took.labour_lt (labour_pos_of_job stage).2

/-- Every pool of a server has workers. -/
def Staffed (server : Server) : Prop := ∀ stage, 0 < (server.pool stage).size

/-- No run takes workers away. -/
theorem Staffed.run (staffed : server.Staffed) (events : List Event) :
    (server.run events).Staffed := by
  intro stage
  rw [(server.kept_of_run events).2.1 stage]
  exact staffed stage

/-- When the loops have ended, what is next is a step of a pool that has jobs. -/
theorem nextEvent?_of_ended (polling : server.polling = false) :
    (server.nextEvent? = none ∧ ∀ stage, (server.pool stage).isIdle = true) ∨
      ∃ stage, (server.pool stage).isIdle = false ∧
        server.nextEvent? = some (server.nextWork stage) := by
  cases working : [Stage.writePending, .processing, .readRegistered].find? fun stage =>
      !(server.pool stage).isIdle with
  | none =>
    left
    refine ⟨?_, fun stage => ?_⟩
    · simp only [nextEvent?, polling, working, Bool.false_and, Bool.false_eq_true, if_false]
    · have idle := List.find?_eq_none.mp working stage (by cases stage <;> simp)
      simpa using idle
  | some stage =>
    right
    refine ⟨stage, by simpa using List.find?_some working, ?_⟩
    simp only [nextEvent?, nextWork, polling, working, Bool.false_and, Bool.false_eq_true,
      if_false]
    split <;> rfl

/-- A server whose loops have ended runs until its pools have no jobs, if there is fuel for all that
is left to do. -/
theorem Orderly.settles (orderly : server.Orderly) (staffed : server.Staffed)
    (polling : server.polling = false) {fuel : Nat} (enough : server.labour ≤ fuel) :
    ∃ events, (∀ event ∈ events, event.isWork = true) ∧
      server.settleWith fuel = server.run events ∧
      ∀ stage, ((server.settleWith fuel).pool stage).isIdle = true := by
  induction fuel generalizing server with
  | zero =>
    refine ⟨[], fun _ member => absurd member List.not_mem_nil, rfl, fun stage => ?_⟩
    by_contra busy
    have fewer := orderly.works_on stage (staffed stage) (eq_false_of_ne_true busy)
    omega
  | succ fuel inductionHypothesis =>
    obtain ⟨rest, idle⟩ | ⟨stage, busy, next⟩ := nextEvent?_of_ended polling
    · have stays : server.settleWith (fuel + 1) = server := by
        rw [settleWith, rest]
      rw [stays]
      exact ⟨[], fun _ member => absurd member List.not_mem_nil, rfl, idle⟩
    · have fewer := orderly.works_on stage (staffed stage) busy
      have work := server.isWork_nextWork stage
      have works := server.works_step _ work
      have goesOn : server.settleWith (fuel + 1) =
          (server.step (server.nextWork stage)).settleWith fuel := by
        rw [settleWith, next]
      obtain ⟨events, later, runs, idle⟩ := inductionHypothesis (orderly.step _)
        (staffed.run [server.nextWork stage])
        ((congrArg Posture.polling works.posture).trans polling) (by omega)
      rw [goesOn]
      exact ⟨_ :: events, List.forall_mem_cons.mpr ⟨work, later⟩, runs, idle⟩

/-- The sessions of a server are those in its places. -/
theorem sessions_eq (server : Server) : server.sessions = server.holdings.map Prod.snd := by
  have control : ∀ message : Control, message.holding.2 = message.session := by
    intro message
    cases message <;> rfl
  have parked : ∀ parked : Parked, parked.holding.2 = parked.session := by
    intro parked
    cases parked <;> rfl
  simp [sessions, holdings, jobs, Function.comp_def, control, parked]

/-- The steps that a server allows itself to come to rest are enough for what its workers have left
to do. -/
theorem labour_le_effort (server : Server) : server.labour ≤ server.effort := by
  have each : ∀ holdings : List Holding, (holdings.map fun holding => holding.1.labour).sum ≤
      10 * ((holdings.map Prod.snd).map fun session => session.input.length + 4).sum := by
    intro holdings
    induction holdings with
    | nil => exact Nat.le_refl 0
    | cons holding holdings inductionHypothesis =>
      have bound := holding.1.labour_le
      simp only [List.map_cons, List.sum_cons]
      omega
  have bound := each server.holdings
  rw [← sessions_eq] at bound
  simp only [labour, effort, ← List.sum_eq_foldl]
  omega

/-- Whatever happens to a server first, its workers come to rest without jobs when they are left to
themselves. -/
def ComesToRest (server : Server) : Prop :=
  ∀ events, (server.run events).polling = false →
    ∃ later, (server.run events).settle = (server.run events).run later ∧
      (server.run events).Works (server.run events).settle ∧
      ∀ stage, ((server.run events).settle.pool stage).isIdle = true

/-- It is so in later states if it is in one. -/
theorem ComesToRest.run (rests : server.ComesToRest) (events : List Event) :
    (server.run events).ComesToRest := by
  intro more
  rw [← run_append]
  exact rests (events ++ more)

/-- The workers of an orderly server come to rest. -/
theorem Orderly.comes_to_rest (orderly : server.Orderly) (staffed : server.Staffed) :
    server.ComesToRest := by
  intro events polling
  obtain ⟨later, work, settled, idle⟩ := (orderly.run events).settles (staffed.run events) polling
    (server.run events).labour_le_effort
  rw [← settle] at settled idle
  refine ⟨later, settled, ?_, idle⟩
  rw [settled]
  exact works_run later work

/-- Where no session is and none ever comes, the workers rest already. -/
theorem Stranded.comes_to_rest {attempts : List Address} (stranded : server.Stranded attempts) :
    server.ComesToRest := by
  intro events polling
  have jobs := ((holdings_eq_nil_iff _).mp (stranded.run events).nothing).2.2
  have idle (stage : Stage) : ((server.run events).pool stage).isIdle = true := by
    rw [JobPool.isIdle, (jobs stage).1, (jobs stage).2]
    rfl
  have rests : (server.run events).nextEvent? = none := by
    obtain ⟨rests, _⟩ | ⟨stage, busy, _⟩ := nextEvent?_of_ended polling
    · exact rests
    · rw [idle stage] at busy
      cases busy
  rw [settle_of_rest rests]
  exact ⟨[], rfl, .refl _, idle⟩

/-- A pool that the shutdown has come to is drained by closing it and letting the workers proceed.
The pools before it stay drained. -/
theorem ComesToRest.closes (rests : server.ComesToRest) (stage : Stage) (ended : server.LoopsEnded)
    (drained : ∀ before ∈ earlier stage, server.isDrained before = true) :
    ∃ events, (server.step (.closePool stage)).settle = server.run events ∧
      (server.run events).posture = server.posture ∧
      ∀ other ∈ stage :: earlier stage, (server.run events).isDrained other = true := by
  have closes : server.step (.closePool stage) =
      server.setPool stage (server.pool stage).close :=
    if_pos ((server.mayClosePool_iff stage).mpr
      ⟨ended.triggered, ended.accepting, ended.polling, drained⟩)
  have posture : (server.step (.closePool stage)).posture = server.posture := by
    rw [closes]
    cases stage <;> rfl
  obtain ⟨events, settled, works, idle⟩ := rests [.closePool stage]
    (ended.of_posture posture).polling
  have runs : (server.step (.closePool stage)).settle = server.run (.closePool stage :: events) :=
    settled
  refine ⟨.closePool stage :: events, runs, ?_, ?_⟩
  · rw [← runs]
    exact works.posture.trans posture
  · intro other closed
    have isClosed : ((server.step (.closePool stage)).pool other).isOpen = false := by
      rw [closes, pool_setPool]
      split
      · rfl
      · next differs =>
        have before := (List.mem_cons.mp closed).resolve_left differs
        exact ((server.isDrained_iff other).mp (drained other before)).1
    have stays : ((server.step (.closePool stage)).settle.pool other).isOpen = false :=
      (works.pools other).frame.2.2.trans isClosed
    have isIdle : ((server.step (.closePool stage)).settle.pool other).isIdle = true := idle other
    rw [← runs, isDrained, stays, isIdle]
    rfl

/-- Behind the signal the loop that owns the readiness set can end, and the other loop stays as it
is. -/
theorem polling_ends (triggered : server.signal.triggered = true)
    (accepting : server.accepting = false) : (server.step .stopPolling).LoopsEnded := by
  simp only [Server.step, triggered, Bool.true_and]
  split
  · rw [stopPolling, closeAll_eq]
    exact ⟨triggered, accepting, rfl⟩
  · next ended => exact ⟨triggered, accepting, eq_false_of_ne_true ended⟩

/-- Both loops end when a shutdown begins. -/
theorem loops_end (server : Server) :
    (server.run [.trigger, .stopAccepting, .stopPolling]).LoopsEnded := by
  have triggered := server.triggered_trigger
  have ends : (server.step .trigger).step .stopAccepting =
      { server.step .trigger with accepting := false } := if_pos triggered
  have ended := @polling_ends { server.step .trigger with accepting := false } triggered rfl
  simp only [Server.run, List.foldl_cons, List.foldl_nil, ends]
  exact ended

/-- A server can always be shut down: its shutdown is a run at whose end it is stopped. -/
theorem ComesToRest.shutdown_stops (rests : server.ComesToRest) :
    ∃ events, server.shutdown = server.run events ∧ server.shutdown.stopped = true := by
  have ended := server.loops_end
  let begun : List Event := [.trigger, .stopAccepting, .stopPolling]
  -- each pool is closed and drained in its turn, which leaves the loops ended
  obtain ⟨first, read, readPosture, readDrained⟩ :=
    (rests.run begun).closes .readRegistered ended
      (fun before member => absurd member List.not_mem_nil)
  rw [← run_append] at read readPosture readDrained
  obtain ⟨second, process, processPosture, processDrained⟩ :=
    (rests.run _).closes .processing (ended.of_posture readPosture) readDrained
  rw [← run_append] at process processPosture processDrained
  have endedThen := ended.of_posture (processPosture.trans readPosture)
  obtain ⟨third, write, writePosture, writeDrained⟩ :=
    (rests.run _).closes .writePending endedThen
      (fun before member => processDrained before (by simpa [earlier, or_comm] using member))
  rw [← run_append] at write writePosture writeDrained
  obtain ⟨triggered, accepting, polling⟩ := endedThen.of_posture writePosture
  let events := begun ++ first ++ second ++ third
  have drains : server.shutdown = (server.run events).step .complete := by
    simp only [shutdown, List.foldl_cons, List.foldl_nil]
    rw [read, process, write]
  have may : (server.run events).mayComplete = true := by
    have mayClose := (mayClosePool_iff (server.run events) .writePending).mpr
      ⟨triggered, accepting, polling, fun before member =>
        writeDrained before (List.mem_cons_of_mem _ member)⟩
    rw [mayComplete, mayClose, writeDrained .writePending List.mem_cons_self]
    rfl
  refine ⟨events ++ [.complete], ?_, ?_⟩
  · exact drains.trans (run_append server events [.complete]).symm
  · rw [drains]
    simp only [Server.step, may, Bool.true_and]
    split
    · rfl
    · next stopped => simpa using stopped

end Server

end KeyValueServer
