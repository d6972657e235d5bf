import KeyValueServer.Proofs.Server.Conversation
import KeyValueServer.Proofs.Server.Outcome

/-!
# The course of one connection

For one connection an event is one of two things. It ends the job of the session, which is a turn of
it, or it spares the session: this stays as it is, perhaps in its next place, and what was sent for
it is in the socket or with the client. A connection that is spared can be over behind the event,
and there are only three causes for that: its removal had been asked for, its socket fails, or the
loop that owns the readiness set has ended.
-/

namespace KeyValueServer

/-- Whether an event shows that the socket of a connection fails. -/
inductive Event.Fails (server : Server) (id : ConnId) : Event → Prop
  /-- The readiness set does not take the socket. -/
  | unregistered (message : Control) (later : List Control)
      (heard : server.control = message :: later) (named : message.holding.2.id = id)
      (stays : message.holding.1 ≠ .removed) : Event.Fails server id (.applyControl false)
  /-- A job cannot write to the socket. -/
  | unwritable (event : Event) (session flushed : Session) (error : ConnectionError)
      (socket : Socket) (ended : event.ended server = some (.writePending, session))
      (named : session.id = id)
      (written : session.flush (server.socket session.id) = (.error error, flushed, socket)) :
      Event.Fails server id event

namespace Server

variable {server after : Server} {event : Event} {id : ConnId} {kept : List Holding}
  {before next : Holding}

/-- An event ends no job of a connection. -/
structure Spares (server : Server) (event : Event) (id : ConnId) : Prop where
  idle : ∀ stage session, event.ended server = some (stage, session) → session.id ≠ id
  /-- What was sent for the client stays in the socket, unless the client receives it. -/
  sent : event.received server id ++ ((server.step event).socket id).delivered =
    (server.socket id).delivered
  /-- The session goes on as it is, or the connection is over. -/
  goesOn : ∀ holding ∈ server.holdings, holding.2.id = id →
    (∃ place, (place = holding.1 ∨ Passage holding.2 holding.1 place) ∧
        (place, holding.2) ∈ (server.step event).holdings) ∨
      (∀ other ∈ (server.step event).holdings, other.2.id ≠ id) ∧
        (holding.1 = .removed ∨ event.Fails server id ∨ (server.step event).polling = false)
  /-- No session of the connection is new. -/
  known : ∀ holding ∈ (server.step event).holdings, holding.2.id = id →
    ∃ earlier ∈ server.holdings, earlier.2.id = id

/-- What an event does to a connection. -/
inductive Course (server : Server) (event : Event) (id : ConnId) : Prop
  /-- The job of its session ends, which is a turn of the session. -/
  | worked (stage : Stage) (session : Session) (kept : List Holding) (next : Holding)
      (ended : event.ended server = some (stage, session)) (named : session.id = id)
      (took : server.Took (server.step event) kept (.running stage, session) next)
  /-- No job of it ends. -/
  | spared (spares : server.Spares event id)

/-- A connection has one session. -/
theorem Orderly.unique (orderly : server.Orderly) (first : before ∈ server.holdings)
    (second : next ∈ server.holdings) (same : before.2.id = next.2.id) : before = next :=
  List.inj_on_of_nodup_map orderly.accounted.distinct first second same

/-- No client receives anything by the end of a job. -/
theorem received_of_ended {stage : Stage} {session : Session}
    (ended : event.ended server = some (stage, session)) : event.received server id = [] := by
  cases event with
  | finish stage index => rfl
  | connect | arrive | endInput | allow | closePeer | receive | applyControl | ready | start
  | trigger | stopAccepting | stopPolling | closePool | complete => cases ended

/-- A loop that has ended does not begin again. -/
theorem polling_of_step (event : Event) (ended : server.polling = false) :
    (server.step event).polling = false := by
  have works {after : Server} (works : server.Works after) : after.polling = false :=
    (congrArg Posture.polling works.posture).trans ended
  have into : server.StepsInto fun after => after.polling = false := {
    idle := ended
    accept := fun _ peer => (server.accept_beside peer).1.trans ended
    onSocket := fun id change => works (works_onSocket id change)
    applyControl := fun _ registers => works (works_applyControl registers)
    ready := fun _ id => works (works_ready id)
    start := fun stage => works (works_start stage)
    finish := fun stage index => works (works_finish stage index)
    trigger := ended
    stopAccepting := fun _ => ended
    stopPolling := fun _ _ => rfl
    closePool := fun stage _ => by cases stage <;> exact ended
    complete := by
      have closed := works (server.works_closeAll (server.control.map Control.session))
      exact fun _ _ => closed }
  exact into.step event

section Sockets

/-- Sessions that are closed leave what was sent for their clients. -/
theorem delivered_closeAll (server : Server) (sessions : List Session) (id : ConnId) :
    ((server.closeAll sessions).socket id).delivered = (server.socket id).delivered := by
  unfold closeAll
  induction sessions generalizing server with
  | nil => rfl
  | cons session sessions inductionHypothesis =>
    have closed : (server.close session).socket id = (server.drop session).socket id := rfl
    rw [List.foldl_cons, inductionHypothesis, closed, socket_drop]
    split
    · next same =>
      rw [same]
      rfl
    · rfl

/-- What happens to sockets from outside leaves what was sent for a client, but for what the client
takes. -/
theorem sent_onSocket (server : Server) (id other : ConnId) (change : Socket → Socket)
    (taken : Socket → List UInt8)
    (conserves : ∀ socket, taken socket ++ (change socket).delivered = socket.delivered) :
    (if other = id then taken (server.socket id) else []) ++
        ((server.onSocket other change).socket id).delivered = (server.socket id).delivered := by
  unfold onSocket
  cases found : server.sockets.find? other with
  | none =>
    split
    · next same =>
      have unknown : server.socket id = .fresh := by
        rw [Server.socket, ← same, found]
        rfl
      have nothing := List.append_eq_nil_iff.mp (conserves .fresh)
      rw [unknown, nothing.1]
      rfl
    · rfl
  | some socket =>
    by_cases same : other = id
    · subst same
      have current : server.socket other = socket := by
        rw [Server.socket, found]
        rfl
      rw [if_pos rfl, current]
      dsimp only
      rw [socket_setSocket]
      exact conserves socket
    · have elsewhere : (server.setSocket other (change socket)).socket id = server.socket id := by
        simp only [Server.socket, setSocket, Bindings.find?_insert, if_neg (Ne.symm same)]
      rw [if_neg same, List.nil_append]
      exact congrArg Socket.delivered elsewhere

/-- What happens to sockets from outside leaves what was sent for a client, if nobody takes it. -/
theorem delivered_onSocket (server : Server) (id other : ConnId) (change : Socket → Socket)
    (keeps : ∀ socket, (change socket).delivered = socket.delivered) :
    ((server.onSocket other change).socket id).delivered = (server.socket id).delivered := by
  have conserved := server.sent_onSocket id other change (fun _ => []) keeps
  rw [ite_self] at conserved
  exact conserved

end Sockets

section Sparing

/-- An event that ends no job ends none of a connection. -/
theorem idle_of_none (idle : event.ended server = none) (id : ConnId) :
    ∀ stage session, event.ended server = some (stage, session) → session.id ≠ id := by
  intro stage session ended
  cases idle.symm.trans ended

/-- A step that lets all sessions stay spares every connection. -/
theorem spares_of_same (idle : event.ended server = none)
    (stays : (server.step event).holdings = server.holdings)
    (sent : event.received server id ++ ((server.step event).socket id).delivered =
      (server.socket id).delivered) : server.Spares event id := by
  refine ⟨idle_of_none idle id, sent, ?_, ?_⟩
  · intro holding member _
    exact .inl ⟨holding.1, .inl rfl, stays ▸ member⟩
  · intro holding member named
    exact ⟨holding, stays ▸ member, named⟩

/-- An event without effect spares every connection. -/
theorem spares_of_eq (idle : event.ended server = none) (silent : event.received server id = [])
    (same : server.step event = server) : server.Spares event id := by
  refine spares_of_same idle (congrArg holdings same) ?_
  rw [silent, same]
  rfl

/-- A step that takes up another session or passes on that of a connection spares the connection. -/
theorem Took.spares (took : server.Took (server.step event) kept before next)
    (idle : ∀ stage session, event.ended server = some (stage, session) → session.id ≠ id)
    (silent : event.received server id = [])
    (waits : before.2.id = id → ∀ stage, before.1 ≠ .running stage) : server.Spares event id := by
  refine ⟨idle, ?_, ?_, ?_⟩
  · rw [silent, List.nil_append]
    by_cases own : before.2.id = id
    · obtain ⟨_, _, scene⟩ := took.turn.passage (waits own)
      rw [own] at scene
      exact congrArg (fun scene => scene.socket.delivered) scene
    · unfold Server.socket
      rw [took.others id (Ne.symm own)]
  · intro holding member named
    refine .inl ?_
    rcases List.mem_cons.mp (took.leaves.mem_iff.mp member) with rfl | stayed
    · obtain ⟨passage, same, _⟩ := took.turn.passage (waits named)
      refine ⟨next.1, .inr passage, ?_⟩
      rw [← same]
      exact took.arrives.mem_iff.mpr List.mem_cons_self
    · exact ⟨holding.1, .inl rfl, took.arrives.mem_iff.mpr (List.mem_cons_of_mem _ stayed)⟩
  · intro holding member named
    rcases List.mem_cons.mp (took.arrives.mem_iff.mp member) with rfl | stayed
    · exact ⟨before, took.leaves.mem_iff.mpr List.mem_cons_self, took.same.symm.trans named⟩
    · exact ⟨holding, took.leaves.mem_iff.mpr (List.mem_cons_of_mem _ stayed), named⟩

/-- A step that ends a connection for a cause spares every connection. -/
theorem Closed.spares (closed : server.Closed (server.step event) kept before)
    (orderly : server.Orderly) (idle : event.ended server = none)
    (silent : event.received server id = [])
    (cause : before.2.id = id → before.1 = .removed ∨ event.Fails server id) :
    server.Spares event id := by
  refine ⟨idle_of_none idle id, ?_, ?_, ?_⟩
  · rw [silent, List.nil_append]
    by_cases own : before.2.id = id
    · have scene := closed.scene
      rw [own] at scene
      exact congrArg (fun scene => scene.socket.delivered) scene
    · unfold Server.socket
      rw [closed.others id (Ne.symm own)]
  · intro holding member named
    rcases List.mem_cons.mp (closed.leaves.mem_iff.mp member) with rfl | stayed
    · refine .inr ⟨?_, ?_⟩
      · intro other stays
        rw [← named]
        exact (orderly.accounted.perm closed.leaves).apart other (closed.remains.mem_iff.mp stays)
      · rcases cause named with removed | fails
        · exact .inl removed
        · exact .inr (.inl fails)
    · exact .inl ⟨holding.1, .inl rfl, closed.remains.mem_iff.mpr stayed⟩
  · intro holding member named
    have stayed := closed.remains.mem_iff.mp member
    exact ⟨holding, closed.leaves.mem_iff.mpr (List.mem_cons_of_mem _ stayed), named⟩

/-- A step behind which the loop has ended that owns the readiness set spares every connection, if
it lets go of sessions and does nothing else to them. -/
theorem Orderly.spares_of_ended (orderly : server.Orderly) (idle : event.ended server = none)
    (stays : ∀ holding ∈ (server.step event).holdings, holding ∈ server.holdings)
    (ended : (server.step event).polling = false)
    (sent : event.received server id ++ ((server.step event).socket id).delivered =
      (server.socket id).delivered) : server.Spares event id := by
  refine ⟨idle_of_none idle id, sent, ?_, ?_⟩
  · intro holding member named
    by_cases present : ∃ other ∈ (server.step event).holdings, other.2.id = id
    · obtain ⟨other, remains, same⟩ := present
      obtain rfl := orderly.unique (stays other remains) member (same.trans named.symm)
      exact .inl ⟨other.1, .inl rfl, remains⟩
    · refine .inr ⟨?_, .inr (.inr ended)⟩
      intro other remains same
      exact present ⟨other, remains, same⟩
  · intro holding member named
    exact ⟨holding, stays holding member, named⟩

/-- A client that connects spares the connections before it. -/
theorem spares_connect (server : Server) (peer : Address) (earlier : id.number < server.nextId) :
    server.Spares (.connect peer) id := by
  by_cases accepting : server.accepting = true
  · have accepts : server.step (.connect peer) = server.accept peer := if_pos accepting
    have sent : ((server.step (.connect peer)).socket id).delivered =
        (server.socket id).delivered := by
      rw [accepts, socket_accept peer earlier]
    obtain same | ⟨_, same⟩ | ⟨_, same⟩ := server.accept_cases peer
    · refine spares_of_same rfl ?_ sent
      rw [accepts, same]
      rfl
    · have arrives : (server.step (.connect peer)).holdings.Perm
          ((.added, Session.create ⟨server.nextId⟩ peer) :: server.holdings) := by
        rw [accepts, same]
        exact holdings_notify _ (.add (Session.create ⟨server.nextId⟩ peer))
      refine ⟨idle_of_none rfl id, sent, ?_, ?_⟩
      · intro holding member _
        exact .inl ⟨holding.1, .inl rfl, arrives.mem_iff.mpr (List.mem_cons_of_mem _ member)⟩
      · intro holding member named
        rcases List.mem_cons.mp (arrives.mem_iff.mp member) with rfl | stayed
        · rw [← named] at earlier
          exact absurd earlier (Nat.lt_irrefl _)
        · exact ⟨holding, stayed, named⟩
    · refine spares_of_same rfl ?_ sent
      rw [accepts, same]
      rfl
  · exact spares_of_eq rfl rfl (if_neg accepting)

/-- The loop that looks at a message spares every connection. -/
theorem Orderly.spares_applyControl (orderly : server.Orderly) (registers : Bool) :
    server.Spares (.applyControl registers) id := by
  by_cases polling : server.polling = true
  · have applies : server.step (.applyControl registers) = server.applyControl registers :=
      if_pos polling
    cases heard : server.control with
    | nil =>
      refine spares_of_eq rfl rfl ?_
      rw [applies, Server.applyControl, heard]
    | cons message messages =>
      rcases (orderly.hears polling registers heard).2 with
        ⟨_, kept, next, took⟩ | ⟨cause, kept, closed⟩
      · rw [← applies] at took
        refine took.spares (idle_of_none rfl id) rfl fun _ stage => ?_
        cases message <;> exact Place.noConfusion
      · rw [← applies] at closed
        refine closed.spares orderly rfl rfl fun named => ?_
        by_cases removed : message.holding.1 = .removed
        · exact .inl removed
        · obtain rfl := cause.resolve_left removed
          exact .inr (.unregistered message messages heard named removed)
  · exact spares_of_eq rfl rfl (if_neg polling)

/-- A connection that is reported is spared, and so are the others. -/
theorem Orderly.spares_ready (orderly : server.Orderly) (reported : ConnId) :
    server.Spares (.ready reported) id := by
  by_cases polling : server.polling = true
  · have reports : server.step (.ready reported) = server.ready reported := if_pos polling
    cases found : server.parked.find? reported with
    | none =>
      refine spares_of_eq rfl rfl ?_
      rw [reports, Server.ready, found]
    | some parked =>
      obtain ⟨_, kept, next, took⟩ := orderly.reports polling reported found
      rw [← reports] at took
      refine took.spares (idle_of_none rfl id) rfl fun _ stage => ?_
      cases parked <;> exact Place.noConfusion
  · exact spares_of_eq rfl rfl (if_neg polling)

/-- A worker that takes a job spares every connection. -/
theorem Orderly.spares_start (orderly : server.Orderly) (stage : Stage) :
    server.Spares (.start stage) id := by
  obtain same | ⟨_, session, kept, took⟩ := orderly.start_cases stage
  · exact spares_of_eq rfl rfl same
  · exact took.spares (idle_of_none rfl id) rfl fun _ _ => Place.noConfusion

/-- The end of the loop that owns the readiness set spares every connection. -/
theorem Orderly.spares_stopPolling (orderly : server.Orderly) :
    server.Spares .stopPolling id := by
  by_cases stops : (server.signal.triggered && server.polling) = true
  · have ends : server.step .stopPolling = server.stopPolling := if_pos stops
    refine orderly.spares_of_ended rfl ?_ ?_ ?_
    · rw [ends]
      exact server.stays_stopPolling
    · rw [ends]
      rfl
    · rw [ends]
      exact server.delivered_closeAll _ id
  · exact spares_of_eq rfl rfl (if_neg stops)

/-- The last step of a shutdown spares every connection. -/
theorem Orderly.spares_complete (orderly : server.Orderly) : server.Spares .complete id := by
  by_cases last : (server.mayComplete && !server.stopped) = true
  · have completes : server.step .complete = server.complete := if_pos last
    have mayClose := ((Bool.and_eq_true _ _).mp ((Bool.and_eq_true _ _).mp last).1).1
    have polling := ((server.mayClosePool_iff .writePending).mp mayClose).2.2.1
    refine orderly.spares_of_ended rfl ?_ (polling_of_step .complete polling) ?_
    · rw [completes]
      exact server.stays_complete
    · rw [completes]
      exact server.delivered_closeAll _ id
  · exact spares_of_eq rfl rfl (if_neg last)

end Sparing

/-- The end of a job is a turn of its session and spares the other connections. -/
theorem Orderly.course_finish (orderly : server.Orderly) (stage : Stage) (index : Nat) :
    server.Course (.finish stage index) id := by
  obtain ⟨missing, same⟩ | ⟨_, session, kept, next, found, took⟩ :=
    orderly.finish_cases stage index
  · refine .spared (spares_of_eq ?_ rfl same)
    rw [Event.ended, missing]
    rfl
  · have ended : (Event.finish stage index).ended server = some (stage, session) := by
      rw [Event.ended, found]
      rfl
    by_cases own : session.id = id
    · exact .worked stage session kept next ended own took
    · refine .spared (took.spares ?_ rfl fun same => absurd same own)
      intro _ _ finished
      cases ended.symm.trans finished
      exact own

/-- Every event takes one of the two courses for every connection that was admitted. -/
theorem Orderly.course (orderly : server.Orderly) (event : Event)
    (admitted : id.number < server.nextId) : server.Course event id := by
  cases event with
  | connect peer => exact .spared (server.spares_connect peer admitted)
  | arrive other _ | endInput other | allow other _ =>
    exact .spared (spares_of_same rfl (holdings_onSocket server _ _)
      (server.delivered_onSocket id other _ fun _ => rfl))
  | closePeer other | receive other =>
    exact .spared (spares_of_same rfl (holdings_onSocket server _ _)
      (server.sent_onSocket id other _ Socket.delivered fun _ => List.append_nil _))
  | applyControl registers => exact .spared (orderly.spares_applyControl registers)
  | ready reported => exact .spared (orderly.spares_ready reported)
  | start stage => exact .spared (orderly.spares_start stage)
  | finish stage index => exact orderly.course_finish stage index
  | trigger => exact .spared (spares_of_same rfl rfl rfl)
  | stopAccepting =>
    refine .spared (spares_of_same rfl ?_ ?_)
    · simp only [Server.step]
      split <;> rfl
    · simp only [Server.step]
      split <;> rfl
  | stopPolling => exact .spared orderly.spares_stopPolling
  | closePool stage =>
    refine .spared (spares_of_same rfl ?_ ?_)
    · simp only [Server.step]
      split
      · cases stage <;> rfl
      · rfl
    · simp only [Server.step]
      split
      · cases stage <;> rfl
      · rfl
  | complete => exact .spared orderly.spares_complete

end Server

end KeyValueServer
