import KeyValueServer.Proofs.Server.Accounting
import KeyValueServer.Proofs.Server.Closing
import KeyValueServer.Proofs.Server.Labour
import KeyValueServer.Proofs.Server.Reopening

/-!
# The shutdown

When the loops have ended the workers drain one pool after the other, and the last step closes the
connections that were handed back. However these steps are scheduled there are only so many of them,
one of them is possible as long as the server is not stopped, and no job is refused on the way. What
they leave is a server without connections and jobs, in which every connection was closed once.
-/

namespace KeyValueServer.Server

variable {server after : Server}

/-- How many steps are left at most once the loops have ended: those of the workers, one for each
pool that is open, and the last. -/
def remaining (server : Server) : Nat :=
  server.labour + [Stage.readRegistered, .processing, .writePending].countP
    (fun stage => (server.pool stage).isOpen) + if server.stopped then 0 else 1

/-- Work that is done is not left. -/
theorem Works.remaining_lt (works : server.Works after) (fewer : after.labour < server.labour) :
    after.remaining < server.remaining := by
  have stopped : after.stopped = server.stopped := congrArg Posture.stopped works.posture
  have opened (stage : Stage) : (after.pool stage).isOpen = (server.pool stage).isOpen :=
    (works.pools stage).frame.2.2
  simp only [remaining, opened, stopped]
  omega

/-- A pool that was closed is not left to close. -/
theorem remaining_close (stage : Stage) (opened : (server.pool stage).isOpen = true) :
    (server.setPool stage (server.pool stage).close).remaining < server.remaining := by
  have labour : (server.setPool stage (server.pool stage).close).labour = server.labour := by
    cases stage <;> rfl
  have stopped : (server.setPool stage (server.pool stage).close).stopped = server.stopped := by
    cases stage <;> rfl
  rw [remaining, remaining, labour, stopped]
  cases stage <;> simp [pool_setPool, JobPool.close, opened, List.countP_cons]

/-- A server that is stopped has no sessions. -/
theorem Orderly.holdings_of_stopped (orderly : server.Orderly) (staged : server.Staged)
    (stopped : server.stopped = true) : server.holdings = [] := by
  obtain ⟨may, control⟩ := staged.finished stopped
  rw [orderly.holdings_of_mayComplete may, control]
  rfl

/-- The last step is not left when it was taken. -/
theorem Orderly.remaining_complete (orderly : server.Orderly) (staged : server.Staged)
    (may : server.mayComplete = true) (goesOn : server.stopped = false) :
    server.complete.remaining < server.remaining := by
  have labour : server.complete.labour = 0 := by
    have holdings := (orderly.complete may).holdings_of_stopped (staged.complete goesOn may) rfl
    rw [Server.labour, holdings]
    rfl
  have opened (stage : Stage) :
      (server.complete.pool stage).isOpen = (server.pool stage).isOpen := by
    rw [Server.complete, closeAll_eq]
    cases stage <;> rfl
  have stopped : server.complete.stopped = true := rfl
  simp only [remaining, labour, opened, stopped, goesOn, if_true, Bool.false_eq_true, if_false]
  omega

/-- Once the loops have ended, a step that does anything leaves fewer steps to take. -/
theorem Orderly.remaining_step (orderly : server.Orderly) (staged : server.Staged)
    (ended : server.LoopsEnded) (event : Event)
    (inside : event.isOutside = false) :
    server.step event = server ∨ (server.step event).remaining < server.remaining := by
  cases event with
  | arrive | endInput | allow | closePeer | receive => cases inside
  | connect | applyControl | ready | trigger | stopAccepting | stopPolling =>
    exact .inl (ended.step_eq _ rfl)
  | start stage => exact (orderly.start_labour stage).imp_right (works_start stage).remaining_lt
  | finish stage index =>
    exact (orderly.finish_labour stage index).imp_right (works_finish stage index).remaining_lt
  | closePool stage =>
    cases opened : (server.pool stage).isOpen with
    | false => exact .inl (step_closePool_of_closed opened)
    | true =>
      simp only [Server.step]
      split
      · exact .inr (remaining_close stage opened)
      · exact .inl rfl
  | complete =>
    simp only [Server.step]
    split
    · next last =>
      obtain ⟨may, goesOn⟩ := (Bool.and_eq_true _ _).mp last
      exact .inr (orderly.remaining_complete staged may (by simpa using goesOn))
    · exact .inl rfl

/-- What happens to a socket from outside leaves as many steps to take. -/
theorem remaining_outside (event : Event) (outside : event.isOutside = true) :
    (server.step event).remaining = server.remaining := by
  have onSocket (id : ConnId) (change : Socket → Socket) :
      (server.onSocket id change).remaining = server.remaining := by
    unfold Server.onSocket
    split <;> rfl
  cases event with
  | arrive id | endInput id | allow id | closePeer id | receive id => exact onSocket id _
  | _ => cases outside

/-- Loops that have ended do not begin again. -/
theorem LoopsEnded.step (ended : server.LoopsEnded) (event : Event) :
    (server.step event).LoopsEnded := by
  have works (work : event.isWork = true) : (server.step event).LoopsEnded :=
    ended.of_posture (server.works_step event work).posture
  obtain ⟨triggered, accepting, polling⟩ := ended
  cases event with
  | arrive | endInput | allow | closePeer | receive | start | finish => exact works rfl
  | connect | applyControl | ready | trigger | stopAccepting | stopPolling =>
    rw [LoopsEnded.step_eq ⟨triggered, accepting, polling⟩ _ rfl]
    exact ⟨triggered, accepting, polling⟩
  | closePool stage =>
    simp only [Server.step]
    split
    · cases stage <;> exact ⟨triggered, accepting, polling⟩
    · exact ⟨triggered, accepting, polling⟩
  | complete =>
    simp only [Server.step]
    split
    · rw [Server.complete, closeAll_eq]
      exact ⟨triggered, accepting, polling⟩
    · exact ⟨triggered, accepting, polling⟩

/-- Once the loops have ended, no run takes more steps that do anything than are left. -/
theorem Orderly.length_le_remaining (orderly : server.Orderly) (staged : server.Staged)
    (ended : server.LoopsEnded) (events : List Event)
    (proceeds : ∀ front event back, events = front ++ event :: back → event.isOutside = false →
      (server.run front).step event ≠ server.run front) :
    (events.filter fun event => !event.isOutside).length ≤ server.remaining := by
  induction events generalizing server with
  | nil => exact Nat.zero_le _
  | cons event events inductionHypothesis =>
    have later := inductionHypothesis (orderly.step event) (staged.step event) (ended.step event)
      fun front other back split => proceeds (event :: front) other back (by
        rw [split, List.cons_append])
    cases outside : event.isOutside with
    | true =>
      rw [remaining_outside event outside] at later
      simpa [outside] using later
    | false =>
      have changes := proceeds [] event events rfl outside
      have fewer := (orderly.remaining_step staged ended event outside).resolve_left
        changes
      simp only [List.filter_cons, outside, Bool.not_false, if_true, List.length_cons]
      omega

/-- A server in which nothing more can happen is stopped. -/
theorem Orderly.stopped_of_still (orderly : server.Orderly) (staffed : server.Staffed)
    (still : ∀ event : Event, event.isOutside = false → server.step event = server) :
    server.stopped = true := by
  have triggered : server.signal.triggered = true := by
    rw [← still .trigger rfl]
    exact server.triggered_trigger
  have accepting : server.accepting = false := by
    have ends : server.step .stopAccepting = { server with accepting := false } :=
      if_pos triggered
    rw [← still .stopAccepting rfl, ends]
  have polling : server.polling = false := by
    rw [← still .stopPolling rfl]
    exact (polling_ends triggered accepting).polling
  have idle (stage : Stage) : (server.pool stage).isIdle = true := by
    by_contra busy
    have fewer := orderly.works_on stage (staffed stage) (eq_false_of_ne_true busy)
    have inside : (server.nextWork stage).isOutside = false := by
      unfold nextWork
      split <;> rfl
    rw [still _ inside] at fewer
    exact Nat.lt_irrefl _ fewer
  have drained (stage : Stage) (before : ∀ other ∈ earlier stage, server.isDrained other = true) :
      server.isDrained stage = true := by
    have closes : server.step (.closePool stage) =
        server.setPool stage (server.pool stage).close :=
      if_pos ((server.mayClosePool_iff stage).mpr ⟨triggered, accepting, polling, before⟩)
    rw [isDrained, ← still (.closePool stage) rfl, closes, pool_setPool, if_pos rfl]
    exact idle stage
  have read := drained .readRegistered (by simp [earlier])
  have process := drained .processing (by simp [earlier, read])
  have write := drained .writePending (by simp [earlier, read, process])
  have may : server.mayComplete = true := by
    simp [mayComplete, mayClosePool, triggered, accepting, polling, earlier, read, process, write]
  cases goesOn : server.stopped with
  | true => rfl
  | false =>
    have completes : server.step .complete = server.complete :=
      if_pos (by simp [may, goesOn])
    have same : server.complete = server := completes.symm.trans (still .complete rfl)
    have stopped : server.complete.stopped = true := rfl
    rw [same, goesOn] at stopped
    exact stopped

/-- A shutdown of a server that is stopped does nothing. -/
theorem Staged.shutdown_of_stopped (staged : server.Staged) (stopped : server.stopped = true) :
    server.shutdown = server := by
  have still := staged.step_of_stopped stopped
  have may := (staged.finished stopped).1
  have rests : server.nextEvent? = none := by
    obtain ⟨rests, _⟩ | ⟨stage, busy, _⟩ := nextEvent?_of_ended (ended_of_mayComplete may).polling
    · exact rests
    · have drained := isDrained_of_mayComplete may stage
      rw [isDrained, busy, Bool.and_false] at drained
      cases drained
  have settled := settle_of_rest rests
  have closes (stage : Stage) := still (.closePool stage) rfl
  simp only [shutdown, Server.run, List.foldl_cons, List.foldl_nil, still .trigger rfl,
    still .stopAccepting rfl, still .stopPolling rfl, closes, settled, still .complete rfl]

/-- When no connection is left, those that ended since the books were last looked at are those that
were open then and those that were admitted since. -/
theorem Balances.ended_since {ended since : List ConnId} {attempts later : List Address}
    {replies more : List Value} (balances : server.Balances ended attempts replies)
    (balancesThen : after.Balances (ended ++ since) later more)
    (upwards : server.nextId ≤ after.nextId) (nothing : after.registries.all.keys = []) :
    since.Perm (server.registries.all.keys ++
      (List.range' server.nextId (after.nextId - server.nextId)).map ConnId.mk) := by
  have positive := balances.numbered
  have pieces : (List.range' 1 after.admitted).map ConnId.mk =
      (List.range' 1 server.admitted).map ConnId.mk ++
        (List.range' server.nextId (after.nextId - server.nextId)).map ConnId.mk := by
    have next : server.nextId = 1 + server.admitted := by
      rw [admitted]
      omega
    have all : after.admitted = server.admitted + (after.nextId - server.nextId) := by
      rw [admitted, admitted]
      omega
    rw [all, ← List.map_append, next, List.range'_append_1]
  have once := balancesThen.once
  rw [nothing, List.append_nil, pieces] at once
  have known := balances.once.symm.append_right
    ((List.range' server.nextId (after.nextId - server.nextId)).map ConnId.mk)
  rw [List.append_assoc] at known
  exact (List.perm_append_left_iff ended).mp (once.trans known)

/-- How a server stops, whatever it is doing and whatever part of a shutdown is behind it. -/
structure Stops (server : Server) : Prop where
  /-- A pool takes jobs while somebody can submit one: the loop that owns the readiness set, or a
  job of a pool before it. -/
  taken : ∀ stage, (server.polling = true ∨
      ∃ before ∈ earlier stage, (server.pool before).isIdle = false) →
    ∀ session, ∃ pool, (server.pool stage).submit session = .ok pool
  /-- So no job is refused: until its last step every run is one of a server whose pools are never
  closed. -/
  unrefused : ∀ events, .complete ∉ events → (server.run events).reopened =
    server.reopened.run (events.filter fun event => !event.isTeardown)
  /-- The last step finds no connection behind those that it closes. -/
  leftover : server.mayComplete = true →
    (server.closeAll (server.control.map Control.session)).registries.clear.1 = 0
  /-- Once the loops have ended, there are only so many steps that do anything. -/
  finite : server.accepting = false → server.polling = false → ∀ events,
    (∀ front event back, events = front ++ event :: back → event.isOutside = false →
      (server.run front).step event ≠ server.run front) →
    (events.filter fun event => !event.isOutside).length ≤ server.remaining
  /-- It is stopped when nothing more can happen. -/
  complete : (∀ event : Event, event.isOutside = false → server.step event = server) →
    server.stopped = true
  /-- A shutdown is one of the ways to stop it. -/
  shutdown : ∃ events, server.shutdown = server.run events ∧ server.shutdown.stopped = true

/-- What is left of a server when it is stopped `after` the connections in `ended` have ended. -/
structure Stopped (server after : Server) (ended : List ConnId) : Prop where
  /-- No job waits or runs. -/
  idle : ∀ stage, (after.pool stage).queue = [] ∧ (after.pool stage).running = []
  /-- Every job that was submitted has completed, as the pools report. -/
  jobs : ∀ stage, (after.pool stage).usage.submitted = (after.pool stage).usage.completed ∧
    (after.pool stage).usage.active = 0 ∧ (after.pool stage).usage.queued = 0
  /-- Every connection that was open has ended once. -/
  once : ∀ id, server.registries.all.contains id = true → ended.count id = 1
  /-- So have those that were admitted later, and no others. -/
  others : ended.Perm (server.registries.all.keys ++
    (List.range' server.nextId (after.nextId - server.nextId)).map ConnId.mk)
  /-- All sockets are closed. -/
  sockets : ∀ id socket, after.sockets.find? id = some socket → socket.closed = true
  /-- There are no sessions and no connections, and none are counted. -/
  nothing : after.holdings = [] ∧ after.registries.size = 0 ∧ after.traffic.active = 0
  /-- Only clients can still do something, at their own ends of the sockets. -/
  still : ∀ event : Event, event.isOutside = false → after.step event = after
  /-- Another shutdown does nothing. -/
  again : after.shutdown = after

/-- An orderly server with workers stops. -/
theorem Orderly.stops (orderly : server.Orderly) (staged : server.Staged)
    (staffed : server.Staffed) : server.Stops := by
  have disciplined := orderly.disciplined
  constructor
  · intro stage someone session
    have opened : (server.pool stage).isOpen = true := by
      rcases someone with polling | ⟨before, behind, busy⟩
      · exact disciplined.opened polling stage
      · refine disciplined.onward before ?_ stage behind
        rw [isDrained, busy, Bool.and_false]
    exact ⟨_, if_pos opened⟩
  · exact orderly.reopened_run
  · intro may
    exact Bindings.size_of_keys_nil _ (orderly.booked_complete may).2
  · intro accepting polling
    have triggered := staged.signalled disciplined.roomy accepting
    exact orderly.length_le_remaining staged ⟨triggered, accepting, polling⟩
  · exact orderly.stopped_of_still staffed
  · exact (orderly.comes_to_rest staffed).shutdown_stops

/-- What is left of a server that was stopped by any number of steps. -/
theorem Orderly.stopped (orderly : server.Orderly) (staged : server.Staged)
    {ended : List ConnId} {attempts : List Address} {replies : List Value}
    (balances : server.Balances ended attempts replies) (events : List Event)
    (stopped : (server.run events).stopped = true) :
    server.Stopped (server.run events) (server.history Event.ends events) := by
  have orderlyThen := orderly.run events
  have stagedThen := staged.run events
  have balancesThen := balances.run orderly events
  have may := (stagedThen.finished stopped).1
  have holdings := orderlyThen.holdings_of_stopped stagedThen stopped
  have keys : (server.run events).registries.all.keys = [] := by
    have known := orderlyThen.keys_perm
    rw [holdings] at known
    exact known.eq_nil
  have size : (server.run events).registries.size = 0 := Bindings.size_of_keys_nil _ keys
  have since := balances.ended_since balancesThen (server.kept_of_run events).2.2 keys
  have distinct : (server.history Event.ends events).Nodup :=
    (List.nodup_append.mp (List.nodup_append.mp balancesThen.distinct).1).2.1
  have idle (stage : Stage) :=
    ((server.run events).isDrained_iff stage).mp (isDrained_of_mayComplete may stage)
  constructor
  · exact fun stage => (idle stage).2
  · intro stage
    have jobs := (stagedThen.pools stage).jobs
    obtain ⟨isClosed, queue, running⟩ := idle stage
    rw [queue, running] at jobs
    refine ⟨jobs.trans ((UInt64.add_zero _).trans (UInt64.add_zero _)), ?_, ?_⟩
    · simp [JobPool.usage, running]
    · simp [JobPool.usage, isClosed]
  · intro id opened
    have known := (Bindings.mem_keys_iff _ id).mpr opened
    exact List.count_eq_one_of_mem distinct (since.mem_iff.mpr (List.mem_append_left _ known))
  · exact since
  · intro id socket found
    have closed := balancesThen.closed id
    rw [found, keys, if_neg List.not_mem_nil] at closed
    split at closed
    · exact Option.some.inj closed
    · cases closed
  · refine ⟨holdings, size, ?_⟩
    rw [balancesThen.active, size]
    rfl
  · exact stagedThen.step_of_stopped stopped
  · exact stagedThen.shutdown_of_stopped stopped

/-- How a server stops without room for the input of the clients in `attempts`. -/
structure Strands (server : Server) (attempts : List Address) : Prop where
  /-- Only one client is admitted. -/
  alone : attempts.length ≤ 1
  /-- No pool ever has a job. -/
  jobs : ∀ stage, (server.pool stage).queue = [] ∧ (server.pool stage).running = [] ∧
    (server.pool stage).submitted = 0
  /-- A shutdown stops the server. -/
  shutdown : ∃ events, server.shutdown = server.run events ∧ server.shutdown.stopped = true
  /-- Its last step finds the connection of the client left. -/
  leftover : server.mayComplete = true → server.stopped = false →
    (server.closeAll (server.control.map Control.session)).registries.clear.1 = attempts.length
  /-- The connection counts as open before and behind it. -/
  active : server.traffic.active.toNat = attempts.length

/-- Without room for their input the clients that connected are left behind a shutdown. -/
theorem Stranded.strands {attempts : List Address} (stranded : server.Stranded attempts) :
    server.Strands attempts := by
  obtain ⟨control, _, jobs⟩ := (holdings_eq_nil_iff _).mp stranded.nothing
  have miscounted := stranded.miscounted
  refine ⟨miscounted.alone, fun stage => ?_, stranded.comes_to_rest.shutdown_stops, ?_,
    miscounted.active⟩
  · exact ⟨(jobs stage).1, (jobs stage).2, (stranded.unused stage).1⟩
  · intro _ goesOn
    have size := miscounted.size
    rw [goesOn] at size
    rw [control]
    exact size

/-- A server that was started with room for its connections can be shut down from every state that a
run brings it to, also from one in the middle of a shutdown: whatever clients and the network do,
and in whatever order the loops end and the workers proceed. When it is stopped, by whatever steps,
nothing is lost or left. Without room the connection of the one client that it admits is left. -/
theorem stops_unless_roomless {host : Host} {config : Config} {taken : Bool}
    (bounded : config.maxRequestSize.toNat + 1 < UInt64.size)
    (launched : launch host config taken = .ok server) (events : List Event) :
    (config.Roomy →
      (server.run events).Stops ∧
        ∀ later, ((server.run events).run later).stopped = true →
          (server.run events).Stopped ((server.run events).run later)
            ((server.run events).history Event.ends later)) ∧
      (¬ config.Roomy → (server.run events).Strands (server.history Event.attempts events)) := by
  constructor
  · intro roomy
    have orderly := orderly_of_launch roomy bounded launched
    have staged := (staged_of_launch launched).run events
    have staffed : server.Staffed := staffed_of_launch launched
    have balances := (balances_of_launch launched).run orderly events
    exact ⟨(orderly.run events).stops staged (staffed.run events),
      (orderly.run events).stopped staged balances⟩
  · intro roomless
    exact (stranded_of_roomless roomless launched events).strands

/-- One client of the standard server has a job that reads, and another was not looked at yet. -/
def busy : List Event :=
  [.connect (Address.loopback 1), .applyControl true, .arrive ⟨1⟩ (.bytes [0x2a]), .ready ⟨1⟩,
    .connect (Address.loopback 2)]

/-- The steps that shut the busy server down. -/
def closing : List Event :=
  [.trigger, .stopPolling, .stopAccepting, .closePool .readRegistered, .start .readRegistered,
    .finish .readRegistered 0, .closePool .processing, .closePool .writePending, .complete]

/-- The standard server stops when it is busy, and ends the connections of both clients. -/
theorem standard_server_stops_when_busy : ∃ server,
    launch Host.loopback Config.standard false = .ok server ∧
      Config.standard.maxRequestSize.toNat + 1 < UInt64.size ∧ Config.standard.Roomy ∧
      (server.run busy).Stops ∧
      (server.run busy).registries.size = 2 ∧
      ((server.run busy).run closing).stopped = true ∧
      (server.run busy).Stopped ((server.run busy).run closing) [⟨2⟩, ⟨1⟩] := by
  have bounded : Config.standard.maxRequestSize.toNat + 1 < UInt64.size := by decide
  have roomy : Config.standard.Roomy := by decide
  have launched : launch Host.loopback Config.standard false = .ok _ := rfl
  obtain ⟨stops, stopped⟩ := (stops_unless_roomless bounded launched busy).1 roomy
  exact ⟨_, launched, bounded, roomy, stops, rfl, rfl, stopped closing rfl⟩

/-- A client connects, and everything but the last step of a shutdown follows. -/
def visitBeforeClear : List Event :=
  [.connect (Address.loopback 1), .trigger, .stopAccepting, .stopPolling,
    .closePool .readRegistered, .closePool .processing, .closePool .writePending]

/-- A server that is accepted with a boundless demand for room has a connection left at the last
step of its shutdown. -/
theorem connection_left_at_last_step : ∃ server,
    launch Host.loopback boundless false = .ok server ∧
      boundless.maxRequestSize.toNat + 1 < UInt64.size ∧
      (server.run visitBeforeClear).mayComplete = true ∧
      (server.run visitBeforeClear).control.map Control.session = [] ∧
      (server.run visitBeforeClear).registries.clear.1 = 1 ∧
      (server.run [.connect (Address.loopback 1)]).shutdown.stopped = true ∧
      (server.run [.connect (Address.loopback 1)]).shutdown.traffic.active = 1 :=
  ⟨_, rfl, by decide, rfl, rfl, rfl, rfl, rfl⟩

end KeyValueServer.Server
