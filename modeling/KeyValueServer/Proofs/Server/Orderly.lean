import KeyValueServer.Proofs.Server.Steps

/-!
# Orderly servers

A server is orderly when its sessions are accounted for, its pools are closed in order, and the
readiness set and the sockets fit the sessions. Every step of an orderly server leaves it orderly.
A step of the loop or of a worker takes one session through a turn or ends its connection; the
statements say which.
-/

namespace KeyValueServer.Server

variable {server after : Server} {kept : List Holding}

/-- Sessions are accounted for, pools are closed in order, sessions wait in the readiness set under
their own numbers and only while the loop runs, and every session has a socket. -/
structure Orderly (server : Server) : Prop where
  accounted : Accounted server.registries server.nextId server.holdings
  disciplined : server.Disciplined
  keyed : server.Keyed
  emptied : server.polling = false → server.parked.entries = []
  connected : ∀ holding ∈ server.holdings, (server.sockets.find? holding.2.id).isSome = true

/-- One session was taken through a turn, and all others stayed. -/
structure Took (server after : Server) (kept : List Holding) (before next : Holding) : Prop where
  config : after.config = server.config
  polling : after.polling = server.polling
  leaves : server.holdings.Perm (before :: kept)
  arrives : after.holdings.Perm (next :: kept)
  same : next.2.id = before.2.id
  turn : Turn server.requestLimit before (server.scene before.2.id) next (after.scene before.2.id)
  others : ∀ other, other ≠ before.2.id →
    after.sockets.find? other = server.sockets.find? other

/-- The connection of one session was ended, and all others stayed. -/
structure Closed (server after : Server) (kept : List Holding) (gone : Holding) : Prop where
  config : after.config = server.config
  leaves : server.holdings.Perm (gone :: kept)
  remains : after.holdings.Perm kept
  scene : after.scene gone.2.id =
    ⟨(server.socket gone.2.id).hangUp, server.store, server.traffic.closed 1⟩
  others : ∀ other, other ≠ gone.2.id →
    after.sockets.find? other = server.sockets.find? other

/-- The sockets of other connections are part of the surroundings of a session. -/
theorem others_of_surroundings (id : ConnId)
    (same : (after.surroundings id).otherSockets = (server.surroundings id).otherSockets)
    (other : ConnId) (differs : other ≠ id) :
    after.sockets.find? other = server.sockets.find? other := by
  have same := congrFun same other
  simpa only [Server.surroundings, if_neg differs] using same

/-- Sessions keep their sockets where the sockets of all other connections stay. -/
theorem connected_of_others (id : ConnId) (holdings : List Holding)
    (connected : ∀ holding ∈ holdings, (server.sockets.find? holding.2.id).isSome = true)
    (own : (server.sockets.find? id).isSome = true → (after.sockets.find? id).isSome = true)
    (others : ∀ other, other ≠ id → after.sockets.find? other = server.sockets.find? other) :
    ∀ holding ∈ holdings, (after.sockets.find? holding.2.id).isSome = true := by
  intro holding member
  by_cases same : holding.2.id = id
  · rw [same]
    exact own (same ▸ connected holding member)
  · rw [others _ same]
    exact connected holding member

/-- A session that the loop passed on leaves the server orderly. -/
theorem Passed.orderly {session : Session} {before next : Place}
    (passed : server.Passed after kept session before next) (disciplined : server.Disciplined)
    (keyed : server.Keyed) (polling : server.polling = true)
    (connected : ∀ holding ∈ (before, session) :: kept,
      (server.sockets.find? holding.2.id).isSome = true) : after.Orderly := by
  have disciplinedThen : ({ server with parked := after.parked }).Disciplined :=
    { disciplined with }
  have connectedThen := List.forall_mem_cons.mp connected
  obtain ⟨arrives, accounted⟩ := passed.balanced
  refine ⟨accounted.perm arrives.symm, ?_, passed.keyed keyed, ?_, ?_⟩
  · exact disciplinedThen.of_surroundings session.id passed.surroundings
  · intro ended
    have same : after.polling = server.polling :=
      congrArg Surroundings.polling passed.surroundings
    rw [same, polling] at ended
    cases ended
  · intro holding member
    rw [passed.sockets]
    rcases List.mem_cons.mp (arrives.mem_iff.mp member) with rfl | stayed
    · exact connectedThen.1
    · exact connectedThen.2 holding stayed

/-- A connection that is over leaves the server orderly. -/
theorem Ended.orderly {session : Session} (ended : server.Ended after kept session)
    (disciplined : server.Disciplined) (keyed : server.Keyed)
    (emptied : server.polling = false → server.parked.entries = [])
    (apart : ∀ holding ∈ kept, holding.2.id ≠ session.id)
    (connected : ∀ holding ∈ kept, (server.sockets.find? holding.2.id).isSome = true) :
    after.Orderly := by
  obtain ⟨remains, accounted⟩ := ended.balanced
  have polling : after.polling = server.polling :=
    congrArg Surroundings.polling ended.surroundings
  have parked : after.parked = server.parked := congrArg Surroundings.parked ended.surroundings
  refine ⟨accounted.perm remains.symm, ?_, ended.keyed keyed, ?_, ?_⟩
  · exact disciplined.of_surroundings session.id ended.surroundings
  · rw [polling, parked]
    exact emptied
  · intro holding member
    have stayed := remains.mem_iff.mp member
    rw [others_of_surroundings session.id
      (congrArg Surroundings.otherSockets ended.surroundings) _ (apart holding stayed)]
    exact connected holding stayed

/-- The oldest message is either passed on or ends its connection, and it is the loop that looks at
it. -/
theorem Orderly.hears (orderly : server.Orderly) (polling : server.polling = true)
    (registers : Bool) {message : Control} {messages : List Control}
    (heard : server.control = message :: messages) :
    (server.applyControl registers).Orderly ∧
      ((message.holding.1 ≠ .removed ∧ ∃ kept next,
          server.Took (server.applyControl registers) kept message.holding next) ∨
        ((message.holding.1 = .removed ∨ registers = false) ∧ ∃ kept,
          server.Closed (server.applyControl registers) kept message.holding)) := by
  let popped := { server with control := messages }
  have applied : server.applyControl registers = popped.apply registers message := by
    rw [Server.applyControl, heard]
  have leaves : server.holdings = message.holding :: popped.holdings := by
    simp only [holdings, heard, List.map_cons, List.cons_append, popped]
    rfl
  have accounted : Accounted server.registries server.nextId
      (message.holding :: popped.holdings) := leaves ▸ orderly.accounted
  have connected : ∀ holding ∈ message.holding :: popped.holdings,
      (server.sockets.find? holding.2.id).isSome = true := leaves ▸ orderly.connected
  have balanced : popped.Balanced [] [message.holding] popped.holdings :=
    ⟨.refl _, accounted⟩
  have disciplined : popped.Disciplined :=
    { orderly.disciplined with }
  rw [applied]
  rcases apply_spec registers message balanced orderly.keyed
      (disciplined.opened polling .readRegistered) with
    ⟨goesOn, next, passed⟩ | ⟨cause, ended⟩
  · refine ⟨passed.orderly disciplined orderly.keyed polling connected, .inl ⟨goesOn, ?_⟩⟩
    refine ⟨popped.holdings, (next, message.holding.2),
      congrArg Surroundings.config passed.surroundings,
      congrArg Surroundings.polling passed.surroundings, .of_eq leaves, passed.balanced.1, rfl,
      ?_, ?_⟩
    · rw [passed.scene]
      exact .passed _ _ _ _ passed.passage
    · intro other _
      rw [passed.sockets]
  · have apart := fun holding member => accounted.apart holding member
    refine ⟨ended.orderly disciplined orderly.keyed orderly.emptied apart
      (List.forall_mem_cons.mp connected).2, .inr ⟨cause, ?_⟩⟩
    refine ⟨popped.holdings, congrArg Surroundings.config ended.surroundings, .of_eq leaves,
      ended.balanced.1, ended.scene, ?_⟩
    exact others_of_surroundings _ (congrArg Surroundings.otherSockets ended.surroundings)

/-- A message that the loop looks at is either passed on or ends a connection. -/
theorem Orderly.applyControl (orderly : server.Orderly) (polling : server.polling = true)
    (registers : Bool) :
    (server.applyControl registers).Orderly ∧
      (server.applyControl registers = server ∨
        (∃ kept before next, before.1 ≠ .removed ∧
          server.Took (server.applyControl registers) kept before next) ∨
        ∃ kept gone, (gone.1 = .removed ∨ registers = false) ∧
          server.Closed (server.applyControl registers) kept gone) := by
  cases heard : server.control with
  | nil =>
    have same : server.applyControl registers = server := by
      rw [Server.applyControl, heard]
    rw [same]
    exact ⟨orderly, .inl rfl⟩
  | cons message messages =>
    obtain ⟨stays, ⟨goesOn, kept, next, took⟩ | ⟨cause, kept, closed⟩⟩ :=
      orderly.hears polling registers heard
    · exact ⟨stays, .inr (.inl ⟨kept, _, next, goesOn, took⟩)⟩
    · exact ⟨stays, .inr (.inr ⟨kept, _, cause, closed⟩)⟩

/-- A session that leaves the readiness set leaves the other holdings. -/
theorem holdings_eraseParked (server : Server) (id : ConnId) (parked : Parked)
    (found : server.parked.find? id = some parked) :
    server.holdings.Perm
      (parked.holding :: ({ server with parked := server.parked.erase id }).holdings) := by
  have values := (Bindings.values_perm_erase _ id parked found).map Parked.holding
  exact ((values.append_right _).append_left _).trans List.perm_middle

/-- A session that waits in the readiness set is taken to a job when its connection is
reported. -/
theorem Orderly.reports (orderly : server.Orderly) (polling : server.polling = true) (id : ConnId)
    {parked : Parked} (found : server.parked.find? id = some parked) :
    (server.ready id).Orderly ∧
      ∃ kept next, server.Took (server.ready id) kept parked.holding next := by
  let taken := { server with parked := server.parked.erase id }
  have leaves := server.holdings_eraseParked id parked found
  have accounted := orderly.accounted.perm leaves
  have disciplined : taken.Disciplined :=
    { orderly.disciplined with }
  have keyed : taken.Keyed := by
    intro other waiting there
    simp only [taken, Bindings.find?_erase] at there
    by_cases same : other = id
    · rw [if_pos same] at there
      cases there
    · rw [if_neg same] at there
      exact orderly.keyed other waiting there
  have connected : ∀ holding ∈ parked.holding :: taken.holdings,
      (taken.sockets.find? holding.2.id).isSome = true :=
    fun holding member => orderly.connected holding (leaves.mem_iff.mpr member)
  have passes : ∃ next,
      taken.Passed (server.ready id) taken.holdings parked.holding.2 parked.holding.1 next := by
    cases parked with
    | read session =>
      have balanced : taken.Balanced [] [(.parkedRead, session)] taken.holdings :=
        ⟨.refl _, accounted⟩
      have applied : server.ready id = taken.submit .readRegistered session := by
        rw [Server.ready, found]
      rw [applied]
      exact ⟨_, balanced.submitted .readRegistered (disciplined.opened polling _)
        (accounted.stageOf _ rfl) (accounted.stored _ List.mem_cons_self) .readable⟩
    | write session =>
      have balanced : taken.Balanced [] [(.parkedWrite, session)] taken.holdings :=
        ⟨.refl _, accounted⟩
      have applied : server.ready id = taken.submit .writePending session := by
        rw [Server.ready, found]
      rw [applied]
      exact ⟨_, balanced.submitted .writePending (disciplined.opened polling _)
        (accounted.stageOf _ rfl) (accounted.stored _ List.mem_cons_self) .writable⟩
  obtain ⟨next, passed⟩ := passes
  refine ⟨passed.orderly disciplined keyed polling connected, ?_⟩
  refine ⟨taken.holdings, (next, parked.holding.2),
    congrArg Surroundings.config passed.surroundings,
    congrArg Surroundings.polling passed.surroundings, leaves, passed.balanced.1, rfl, ?_, ?_⟩
  · rw [passed.scene]
    exact .passed _ _ _ _ passed.passage
  · intro other _
    rw [passed.sockets]

/-- A connection that the readiness set reports is taken to a job, if it waits in the set. -/
theorem Orderly.ready (orderly : server.Orderly) (polling : server.polling = true) (id : ConnId) :
    (server.ready id).Orderly ∧
      (server.ready id = server ∨ ∃ kept before next,
        before.1 ≠ .removed ∧ server.Took (server.ready id) kept before next) := by
  cases found : server.parked.find? id with
  | none =>
    have same : server.ready id = server := by
      rw [Server.ready, found]
    rw [same]
    exact ⟨orderly, .inl rfl⟩
  | some parked =>
    obtain ⟨stays, kept, next, took⟩ := orderly.reports polling id found
    refine ⟨stays, .inr ⟨kept, _, next, ?_, took⟩⟩
    cases parked <;> exact Place.noConfusion

/-- A changed pool is part of an orderly server where it fits the rest. -/
theorem orderly_setPool (stage : Stage) (pool : JobPool Session)
    (accounted : Accounted server.registries server.nextId (server.setPool stage pool).holdings)
    (disciplined : (server.setPool stage pool).Disciplined) (keyed : server.Keyed)
    (emptied : server.polling = false → server.parked.entries = [])
    (connected : ∀ holding ∈ (server.setPool stage pool).holdings,
      (server.sockets.find? holding.2.id).isSome = true) :
    (server.setPool stage pool).Orderly := by
  refine ⟨?_, disciplined, ?_, ?_, ?_⟩
  · cases stage <;> exact accounted
  · cases stage <;> exact keyed
  · cases stage <;> exact emptied
  · cases stage <;> exact connected

/-- A member of a list can be listed first. -/
theorem exists_perm_of_mem {holding : Holding} {holdings : List Holding}
    (member : holding ∈ holdings) : ∃ kept, holdings.Perm (holding :: kept) := by
  obtain ⟨front, back, split⟩ := List.append_of_mem member
  exact ⟨front ++ back, split ▸ List.perm_middle⟩

/-- The oldest job of a pool is taken when a worker is idle. -/
theorem Orderly.starts (orderly : server.Orderly) (stage : Stage) {session : Session}
    {jobs : List Session} (queue : (server.pool stage).queue = session :: jobs)
    (room : (server.pool stage).running.length < (server.pool stage).size) :
    (server.start stage).Orderly ∧ ∃ kept,
      server.Took (server.start stage) kept (.queued stage, session) (.running stage, session) := by
  let pool := { server.pool stage with
    queue := jobs, running := (server.pool stage).running ++ [session] }
  have started : server.start stage = server.setPool stage pool := by
    rw [Server.start, JobPool.start?, queue]
    simp only [room, ↓reduceIte]
    rfl
  have left : pool.queue = jobs := rfl
  have busyThen : pool.running = (server.pool stage).running ++ [session] := rfl
  have member : ((Place.queued stage, session) : Holding) ∈ server.holdings := by
    refine (server.holdings_perm_jobs stage).mem_iff.mpr (List.mem_append_left _ ?_)
    rw [Server.jobs, queue]
    exact List.mem_append_left _ List.mem_cons_self
  obtain ⟨kept, leaves⟩ := exists_perm_of_mem member
  have arrives :
      (server.setPool stage pool).holdings.Perm ((.running stage, session) :: kept) := by
    have moved := holdings_perm_of_jobs server (server.setPool stage pool) stage
      [(.queued stage, session)] [(.running stage, session)]
      (elsewhere_setPool server stage pool) (by
        rw [jobs_setPool, left, busyThen, Server.jobs, queue]
        simp only [List.map_append, List.map_cons, List.map_nil, List.cons_append,
          List.nil_append, ← List.append_assoc]
        exact (List.perm_append_singleton _ _).cons _ |>.trans (List.Perm.swap _ _ _))
    exact ((moved.trans (leaves.cons _)).trans (List.Perm.swap _ _ _)).cons_inv
  have accounted := (orderly.accounted.perm leaves).move (.running stage) session rfl
    (fun expected goesWith => ((orderly.accounted.perm leaves).stageOf (some stage) rfl).trans
      (Option.some.inj goesWith))
    (((orderly.accounted.perm leaves).stored _ List.mem_cons_self).trans (by cases stage <;> rfl))
  have busy : server.isDrained stage = false :=
    busy_of_mem (List.mem_append_left _ (queue ▸ List.mem_cons_self))
  have disciplined : (server.setPool stage pool).Disciplined :=
    orderly.disciplined.setJobs stage pool busy rfl rfl
  have connected : ∀ holding ∈ (server.setPool stage pool).holdings,
      (server.sockets.find? holding.2.id).isSome = true := by
    intro holding inside
    rcases List.mem_cons.mp (arrives.mem_iff.mp inside) with rfl | stayed
    · exact orderly.connected (.queued stage, session) member
    · exact orderly.connected holding (leaves.mem_iff.mpr (List.mem_cons_of_mem _ stayed))
  rw [started]
  refine ⟨orderly_setPool stage pool (accounted.perm arrives.symm) disciplined orderly.keyed
    orderly.emptied connected,
    ⟨kept, ?_, ?_, leaves, arrives, rfl, ?_, fun _ _ => ?_⟩⟩
  · cases stage <;> rfl
  · cases stage <;> rfl
  · have sameScene : (server.setPool stage pool).scene session.id = server.scene session.id := by
      cases stage <;> rfl
    rw [sameScene]
    exact .passed _ _ _ _ (.started stage)
  · cases stage <;> rfl

/-- A worker takes the oldest job of its pool, unless there is no job or no idle worker. -/
theorem Orderly.start_cases (orderly : server.Orderly) (stage : Stage) :
    server.start stage = server ∨
      (server.start stage).Orderly ∧ ∃ session kept, server.Took (server.start stage) kept
        (.queued stage, session) (.running stage, session) := by
  cases queue : (server.pool stage).queue with
  | nil =>
    left
    simp only [Server.start, JobPool.start?, queue]
  | cons session jobs =>
    by_cases room : (server.pool stage).running.length < (server.pool stage).size
    · obtain ⟨stays, kept, took⟩ := orderly.starts stage queue room
      exact .inr ⟨stays, session, kept, took⟩
    · left
      simp only [Server.start, JobPool.start?, queue, room, ↓reduceIte]

/-- A worker that is idle takes the oldest job of its pool. -/
theorem Orderly.start (orderly : server.Orderly) (stage : Stage) :
    (server.start stage).Orderly ∧
      (server.start stage = server ∨
        ∃ kept before next, before.1 ≠ .removed ∧
          server.Took (server.start stage) kept before next) := by
  obtain same | ⟨stays, session, kept, took⟩ := orderly.start_cases stage
  · rw [same]
    exact ⟨orderly, .inl rfl⟩
  · exact ⟨stays, .inr ⟨kept, _, _, Place.noConfusion, took⟩⟩

/-- A running job leaves the holdings when its pool forgets it. -/
theorem holdings_forget (server : Server) (stage : Stage) (index : Nat) (session : Session)
    (pool : JobPool Session) (found : (server.pool stage).running[index]? = some session)
    (queue : pool.queue = (server.pool stage).queue)
    (running : pool.running = (server.pool stage).running.eraseIdx index) :
    server.holdings.Perm ((.running stage, session) :: (server.setPool stage pool).holdings) := by
  obtain ⟨inside, rfl⟩ := List.getElem?_eq_some_iff.mp found
  have erased := (List.getElem_cons_eraseIdx_perm inside).map (Place.running stage, ·)
  have jobs : ([(Place.running stage, (server.pool stage).running[index])] ++
      (server.setPool stage pool).jobs stage).Perm ([] ++ server.jobs stage) := by
    rw [jobs_setPool, queue, running, Server.jobs, List.nil_append]
    rw [List.map_cons] at erased
    have front := @List.perm_middle _ (Place.running stage, (server.pool stage).running[index])
      ((server.pool stage).queue.map (Place.queued stage, ·))
      (((server.pool stage).running.eraseIdx index).map (Place.running stage, ·))
    exact front.symm.trans (erased.append_left _)
  exact (holdings_perm_of_jobs server _ stage _ []
    (elsewhere_setPool server stage pool) jobs).symm

/-- The pool of a stage when its job at `index` has ended without a fault. -/
def forgotten (server : Server) (stage : Stage) (index : Nat) : JobPool Session :=
  { server.pool stage with
    running := (server.pool stage).running.eraseIdx index
    completed := (server.pool stage).completed + 1 }

/-- A job without a fault ends with its pool forgetting it. -/
theorem finish_of_ran {stage : Stage} {index : Nat} {session : Session}
    (found : (server.pool stage).running[index]? = some session)
    (ran : server.runJob stage session = (none, after))
    (stillRunning : (after.pool stage).running[index]? = some session) :
    server.finish stage index = after.setPool stage (after.forgotten stage index) := by
  simp only [Server.finish, found, ran, JobPool.finish?, stillRunning, Option.isSome_none]
  rfl

/-- A job that has turned its session and is forgotten leaves an orderly server. -/
theorem Turned.finished {stage : Stage} {index : Nat} {session : Session} {next : Holding}
    (turned : server.Turned after [(.running stage, session)] kept (.running stage, session) next)
    (orderly : server.Orderly)
    (leaves : server.holdings.Perm ((.running stage, session) :: kept))
    (stillRunning : (after.pool stage).running[index]? = some session) :
    (after.setPool stage (after.forgotten stage index)).Orderly ∧
      server.Took (after.setPool stage (after.forgotten stage index)) kept
        (.running stage, session) next := by
  have arrives : (after.setPool stage (after.forgotten stage index)).holdings.Perm
      (next :: kept) := by
    have forgets := after.holdings_forget stage index session (after.forgotten stage index)
      stillRunning rfl rfl
    exact (forgets.symm.trans turned.balanced.1).cons_inv
  have busy : after.isDrained stage = false :=
    busy_of_mem (List.mem_append_right _ (List.mem_of_getElem? stillRunning))
  have disciplined := (orderly.disciplined.of_surroundings session.id turned.surroundings).setJobs
    stage (after.forgotten stage index) busy rfl rfl
  have others := others_of_surroundings session.id
    (congrArg Surroundings.otherSockets turned.surroundings)
  have connected : ∀ holding ∈ next :: kept, (after.sockets.find? holding.2.id).isSome = true := by
    apply connected_of_others session.id (next :: kept) _ turned.connected others
    have connectedBefore := List.forall_mem_cons.mp fun holding member =>
      orderly.connected holding (leaves.mem_iff.mpr member)
    rw [List.forall_mem_cons, turned.same]
    exact connectedBefore
  have parked : after.parked = server.parked := congrArg Surroundings.parked turned.surroundings
  have polling : after.polling = server.polling :=
    congrArg Surroundings.polling turned.surroundings
  have config : after.config = server.config := congrArg Surroundings.config turned.surroundings
  constructor
  · apply orderly_setPool stage _ (turned.balanced.2.perm arrives.symm) disciplined
    · unfold Keyed
      rw [parked]
      exact orderly.keyed
    · rw [polling, parked]
      exact orderly.emptied
    · exact fun holding member => connected holding (arrives.mem_iff.mp member)
  · have scene : (after.setPool stage (after.forgotten stage index)).scene session.id =
        after.scene session.id := by
      cases stage <;> rfl
    have sockets : (after.setPool stage (after.forgotten stage index)).sockets =
        after.sockets := by
      cases stage <;> rfl
    refine ⟨?_, ?_, leaves, arrives, turned.same, ?_, ?_⟩
    · rw [← config]
      cases stage <;> rfl
    · rw [← polling]
      cases stage <;> rfl
    · rw [scene]
      exact turned.turn
    · rw [sockets]
      exact others

/-- A running job ends without a fault, and its end is a turn of its session. -/
theorem Orderly.finishes (orderly : server.Orderly) (stage : Stage) (index : Nat)
    {session : Session} (found : (server.pool stage).running[index]? = some session) :
    (server.finish stage index).Orderly ∧ ∃ kept next,
      server.Took (server.finish stage index) kept (.running stage, session) next := by
  let kept := (server.setPool stage (server.forgotten stage index)).holdings
  have leaves : server.holdings.Perm ((.running stage, session) :: kept) :=
    server.holdings_forget stage index session _ found rfl rfl
  have balanced : server.Balanced [(.running stage, session)] [(.running stage, session)] kept :=
    ⟨leaves, orderly.accounted.perm leaves⟩
  have busy : server.isDrained stage = false :=
    busy_of_mem (List.mem_append_right _ (List.mem_of_getElem? found))
  obtain ⟨next, after, ran, turned⟩ := runJob_spec stage balanced orderly.disciplined.bounded
    (orderly.disciplined.onward stage busy)
  have stillRunning : (after.pool stage).running[index]? = some session := by
    have same : (after.pool stage).running = (server.pool stage).running :=
      congrFun (congrArg Surroundings.running turned.surroundings) stage
    rw [same, found]
  obtain ⟨stays, took⟩ := turned.finished orderly leaves stillRunning
  rw [finish_of_ran found ran stillRunning]
  exact ⟨stays, kept, next, took⟩

/-- The end of a job is a turn of its session, unless there is no such job. -/
theorem Orderly.finish_cases (orderly : server.Orderly) (stage : Stage) (index : Nat) :
    ((server.pool stage).running[index]? = none ∧ server.finish stage index = server) ∨
      (server.finish stage index).Orderly ∧ ∃ session kept next,
        (server.pool stage).running[index]? = some session ∧
          server.Took (server.finish stage index) kept (.running stage, session) next := by
  cases found : (server.pool stage).running[index]? with
  | none =>
    left
    simp only [Server.finish, found, and_self]
  | some session =>
    obtain ⟨stays, kept, next, took⟩ := orderly.finishes stage index found
    exact .inr ⟨stays, session, kept, next, rfl, took⟩

/-- A running job ends without a fault, and it is a turn of its session. -/
theorem Orderly.finish (orderly : server.Orderly) (stage : Stage) (index : Nat) :
    (server.finish stage index).Orderly ∧
      (server.finish stage index = server ∨
        ∃ kept before next, before.1 ≠ .removed ∧
          server.Took (server.finish stage index) kept before next) := by
  obtain ⟨_, same⟩ | ⟨stays, session, kept, next, _, took⟩ := orderly.finish_cases stage index
  · rw [same]
    exact ⟨orderly, .inl rfl⟩
  · exact ⟨stays, .inr ⟨kept, _, next, Place.noConfusion, took⟩⟩

end KeyValueServer.Server
