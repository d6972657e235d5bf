import KeyValueServer.Proofs.Server.Conversation
import KeyValueServer.Proofs.Server.Hearing

/-!
# A connection that is served alone

On a server with one connection whose socket does not fail, whatever has to happen next can happen:
the loop looks at the message, the readiness set reports the connection, a worker takes the job and
ends it. So the client can have its input read in any segments that one job may read, as long as no
segment is refused.

The segments of a run are determined by when the bytes arrive, and here the client lets each of
them arrive when the one before is dealt with.
-/

namespace KeyValueServer

/-- Whether nothing waits in a socket and nothing keeps it from taking output. -/
structure Socket.Quiet (socket : Socket) : Prop where
  arrivals : socket.arrivals = []
  allowances : socket.allowances = []
  inputEnded : socket.inputEnded = false
  peerClosed : socket.peerClosed = false

namespace Server

/-- The one connection of a server whose loop runs and whose pools have workers. -/
structure Alone (server : Server) (id : ConnId) (limit : Nat) (holding : Holding) : Prop where
  polling : server.polling = true
  limited : server.requestLimit = limit
  orderly : server.Orderly
  staffed : ∀ stage, 0 < (server.pool stage).size
  alone : server.holdings = [holding]
  named : holding.2.id = id

/-- A run leads from one server to another. In it the client sends the bytes `sent`, and `segments`
are read from its connection. -/
def Reaches (server : Server) (id : ConnId) (sent : List UInt8) (segments : List (List UInt8))
    (after : Server) : Prop :=
  ∃ events, server.run events = after ∧ events.flatMap Event.sent = sent ∧
    server.segmentsIn id events = segments

variable {server after last : Server} {id : ConnId} {limit : Nat} {holding : Holding}
  {session : Session}

/-- A server is reached from itself. -/
theorem Reaches.refl (server : Server) (id : ConnId) : server.Reaches id [] [] server :=
  ⟨[], rfl, rfl, rfl⟩

/-- The segments of two runs, one behind the other. -/
theorem segmentsIn_append (server : Server) (id : ConnId) (left right : List Event) :
    server.segmentsIn id (left ++ right) =
      server.segmentsIn id left ++ (server.run left).segmentsIn id right := by
  induction left generalizing server with
  | nil => rfl
  | cons event left inductionHypothesis =>
    rw [List.cons_append, segmentsIn, inductionHypothesis, segmentsIn, List.append_assoc]
    rfl

/-- One run can follow another. -/
theorem Reaches.trans {sent more : List UInt8} {segments others : List (List UInt8)}
    (first : server.Reaches id sent segments after) (second : after.Reaches id more others last) :
    server.Reaches id (sent ++ more) (segments ++ others) last := by
  obtain ⟨left, rfl, rfl, rfl⟩ := first
  obtain ⟨right, rfl, rfl, rfl⟩ := second
  exact ⟨left ++ right, server.run_append left right, List.flatMap_append,
    segmentsIn_append server id left right⟩

/-- One step is a run. -/
theorem reaches_step (server : Server) (id : ConnId) (event : Event) :
    server.Reaches id event.sent (event.segments server id) (server.step event) := by
  refine ⟨[event], rfl, ?_, ?_⟩
  · rw [List.flatMap_singleton]
  · rw [segmentsIn, segmentsIn, List.append_nil]

/-- A step that reads nothing and brings nothing can follow a run. -/
theorem Reaches.step {sent : List UInt8} {segments : List (List UInt8)}
    (reaches : server.Reaches id sent segments after) (event : Event) (silent : event.sent = [])
    (idle : event.ended after = none) :
    server.Reaches id sent segments (after.step event) := by
  have follows := reaches.trans (after.reaches_step id event)
  rw [silent, segments_of_idle idle, List.append_nil, List.append_nil] at follows
  exact follows

/-- A session is in a message, in the readiness set, or with a job. -/
theorem mem_holdings_iff (server : Server) (holding : Holding) :
    holding ∈ server.holdings ↔
      (∃ message ∈ server.control, message.holding = holding) ∨
      (∃ parked ∈ server.parked.values, parked.holding = holding) ∨
      ∃ stage, holding.1 = .queued stage ∧ holding.2 ∈ (server.pool stage).queue ∨
        holding.1 = .running stage ∧ holding.2 ∈ (server.pool stage).running := by
  have inJobs (stage : Stage) : holding ∈ server.jobs stage ↔
      holding.1 = .queued stage ∧ holding.2 ∈ (server.pool stage).queue ∨
        holding.1 = .running stage ∧ holding.2 ∈ (server.pool stage).running := by
    obtain ⟨place, session⟩ := holding
    simp only [jobs, List.mem_append, List.mem_map, Prod.mk.injEq]
    constructor
    · rintro (⟨_, member, rfl, rfl⟩ | ⟨_, member, rfl, rfl⟩)
      · exact .inl ⟨rfl, member⟩
      · exact .inr ⟨rfl, member⟩
    · rintro (⟨rfl, member⟩ | ⟨rfl, member⟩)
      · exact .inl ⟨session, member, rfl, rfl⟩
      · exact .inr ⟨session, member, rfl, rfl⟩
  simp only [holdings, List.mem_append, List.mem_map, inJobs]
  constructor
  · rintro (message | parked | job | job | job)
    · exact .inl message
    · exact .inr (.inl parked)
    · exact .inr (.inr ⟨_, job⟩)
    · exact .inr (.inr ⟨_, job⟩)
    · exact .inr (.inr ⟨_, job⟩)
  · rintro (message | parked | ⟨stage, job⟩)
    · exact .inl message
    · exact .inr (.inl parked)
    · cases stage with
      | readRegistered => exact .inr (.inr (.inl job))
      | processing => exact .inr (.inr (.inr (.inl job)))
      | writePending => exact .inr (.inr (.inr (.inr job)))

/-- A session that a worker may take is in the queue of its stage. -/
theorem mem_queue {stage : Stage} (member : (.queued stage, session) ∈ server.holdings) :
    session ∈ (server.pool stage).queue := by
  rcases (server.mem_holdings_iff _).mp member with
    ⟨message, _, same⟩ | ⟨parked, _, same⟩ | ⟨other, ⟨queued, inside⟩ | ⟨running, _⟩⟩
  · cases message <;> cases same
  · cases parked <;> cases same
  · cases queued
    exact inside
  · cases running

/-- A session that a worker has is with a job that runs. -/
theorem mem_running {stage : Stage} (member : (.running stage, session) ∈ server.holdings) :
    session ∈ (server.pool stage).running := by
  rcases (server.mem_holdings_iff _).mp member with
    ⟨message, _, same⟩ | ⟨parked, _, same⟩ | ⟨other, ⟨queued, _⟩ | ⟨running, inside⟩⟩
  · cases message <;> cases same
  · cases parked <;> cases same
  · cases queued
  · cases running
    exact inside

/-- A session that waits for input is in the readiness set. -/
theorem exists_parked (member : (.parkedRead, session) ∈ server.holdings) :
    ∃ parked ∈ server.parked.values, parked.holding = (.parkedRead, session) := by
  rcases (server.mem_holdings_iff _).mp member with
    ⟨message, _, same⟩ | found | ⟨stage, ⟨queued, _⟩ | ⟨running, _⟩⟩
  · cases message <;> cases same
  · exact found
  · cases queued
  · cases running

/-- The session of a message is in a message. -/
theorem exists_message {message : Control} (member : message.holding ∈ server.holdings) :
    ∃ waiting ∈ server.control, waiting.holding = message.holding := by
  rcases (server.mem_holdings_iff _).mp member with
    found | ⟨parked, _, same⟩ | ⟨stage, ⟨queued, _⟩ | ⟨running, _⟩⟩
  · exact found
  · cases parked <;> cases message <;> cases same
  · cases message <;> cases queued
  · cases message <;> cases running

/-- The session of the one connection is one of the server's. -/
theorem Alone.member (alone : server.Alone id limit holding) : holding ∈ server.holdings := by
  rw [alone.alone]
  exact List.mem_singleton_self holding

/-- A step that takes a session on takes the one there is. -/
theorem Alone.took {event : Event} {kept : List Holding} {before next : Holding}
    (alone : server.Alone id limit holding)
    (took : server.Took (server.step event) kept before next) :
    before = holding ∧ (server.step event).Alone id limit next := by
  have leaves := took.leaves
  rw [alone.alone] at leaves
  obtain ⟨rfl, rfl⟩ := List.cons.inj (List.singleton_perm.mp leaves)
  refine ⟨rfl, took.polling.trans alone.polling,
    (requestLimit_of_config took.config).trans alone.limited, alone.orderly.step event, ?_,
    List.perm_singleton.mp took.arrives, took.same.trans alone.named⟩
  intro stage
  rw [(server.kept_of_step event).2.1 stage]
  exact alone.staffed stage

/-- A step that passes a session on passes on the one there is, and leaves its socket alone. -/
theorem Alone.passed {event : Event} {kept : List Holding} {before next : Holding}
    (alone : server.Alone id limit holding) (waits : ∀ stage, holding.1 ≠ .running stage)
    (took : server.Took (server.step event) kept before next) :
    ∃ place, Passage holding.2 holding.1 place ∧
      (server.step event).Alone id limit (place, holding.2) ∧
      (server.step event).socket id = server.socket id := by
  obtain ⟨rfl, goesOn⟩ := alone.took took
  obtain ⟨passage, same, scene⟩ := took.turn.passage waits
  obtain ⟨place, changed⟩ := next
  obtain rfl : changed = before.2 := same
  refine ⟨place, passage, goesOn, ?_⟩
  rw [alone.named] at scene
  exact congrArg Scene.socket scene

/-- The message about the one connection is looked at, and its session is passed on. -/
theorem Alone.applies {message : Control} (alone : server.Alone id limit message.holding)
    (stays : message.holding.1 ≠ .removed) :
    ∃ place, Passage message.holding.2 message.holding.1 place ∧
      (server.step (.applyControl true)).Alone id limit (place, message.holding.2) ∧
      (server.step (.applyControl true)).socket id = server.socket id := by
  have applies : server.step (.applyControl true) = server.applyControl true :=
    if_pos alone.polling
  have waits : ∀ stage, message.holding.1 ≠ .running stage := by
    intro stage
    cases message <;> exact Place.noConfusion
  cases heard : server.control with
  | nil =>
    obtain ⟨_, member, _⟩ := exists_message alone.member
    rw [heard] at member
    cases member
  | cons first messages =>
    rcases (alone.orderly.hears alone.polling true heard).2 with
      ⟨_, kept, next, took⟩ | ⟨cause, kept, closed⟩
    · rw [← applies] at took
      exact alone.passed waits took
    · have leaves := closed.leaves
      rw [alone.alone] at leaves
      obtain ⟨same, _⟩ := List.cons.inj (List.singleton_perm.mp leaves)
      rw [← same] at cause
      exact (cause.elim stays (nomatch ·)).elim

/-- The one connection is reported when it waits for input. -/
theorem Alone.reported (alone : server.Alone id limit (.parkedRead, session)) :
    (server.step (.ready id)).Alone id limit (.queued .readRegistered, session) ∧
      (server.step (.ready id)).socket id = server.socket id := by
  have reports : server.step (.ready id) = server.ready id := if_pos alone.polling
  obtain ⟨parked, member, same⟩ := exists_parked alone.member
  obtain ⟨key, found⟩ := server.parked.exists_find?_of_mem_values parked member
  have named : parked.session.id = id := by
    have own := alone.named
    rw [← same] at own
    cases parked <;> exact own
  rw [alone.orderly.keyed key parked found] at named
  rw [named] at found
  obtain ⟨_, kept, next, took⟩ := alone.orderly.reports alone.polling id found
  rw [← reports] at took
  obtain ⟨place, passage, goesOn, socket⟩ := alone.passed (fun _ => Place.noConfusion) took
  cases passage
  exact ⟨goesOn, socket⟩

/-- The job of the one connection is taken by a worker. -/
theorem Alone.started {stage : Stage} (alone : server.Alone id limit (.queued stage, session)) :
    (server.step (.start stage)).Alone id limit (.running stage, session) ∧
      (server.step (.start stage)).socket id = server.socket id := by
  have lengths := congrArg List.length alone.alone
  rw [(server.holdings_perm_jobs stage).length_eq, List.length_append, jobs, List.length_append,
    List.length_map, List.length_map, List.length_singleton] at lengths
  have member := mem_queue alone.member
  rcases queue : (server.pool stage).queue with _ | ⟨first, others⟩
  · rw [queue] at member
    cases member
  · rw [queue, List.length_cons] at lengths
    have staffed := alone.staffed stage
    obtain ⟨_, kept, took⟩ := alone.orderly.starts stage queue (by omega)
    have starts : server.step (.start stage) = server.start stage := rfl
    rw [← starts] at took
    obtain ⟨place, passage, goesOn, socket⟩ := alone.passed (fun _ => Place.noConfusion) took
    cases passage with
    | started => exact ⟨goesOn, socket⟩

/-- The job of the one connection ends, and that is a turn of its session. -/
theorem Alone.finished {stage : Stage} (alone : server.Alone id limit (.running stage, session)) :
    ∃ next, Turn limit (.running stage, session) (server.scene id) next
        ((server.step (.finish stage 0)).scene id) ∧
      (server.step (.finish stage 0)).Alone id limit next ∧
      (Event.finish stage 0).ended server = some (stage, session) := by
  have member := mem_running alone.member
  rcases running : (server.pool stage).running with _ | ⟨first, others⟩
  · rw [running] at member
    cases member
  · have found : (server.pool stage).running[0]? = some first := by
      rw [running]
      rfl
    obtain ⟨_, kept, next, took⟩ := alone.orderly.finishes stage 0 found
    have finishes : server.step (.finish stage 0) = server.finish stage 0 := rfl
    rw [← finishes] at took
    obtain ⟨same, goesOn⟩ := alone.took took
    obtain ⟨_, rfl⟩ := Prod.mk.inj same
    have turn := took.turn
    rw [alone.limited, alone.named] at turn
    refine ⟨next, turn, goesOn, ?_⟩
    rw [Event.ended, found]
    rfl

end Server

end KeyValueServer
