import KeyValueServer.Proofs.Server.Fixture
import KeyValueServer.Proofs.Server.Ownership

/-!
# What a step does to the sessions

A step of an orderly server ends one job, or passes one session on as it is, or admits a client, or
lets sessions go. `Outcome` says which of these it is, and which session it concerns. An invariant
of all sessions needs one case for each, and a history of the jobs is read off the first.
-/

namespace KeyValueServer

/-- The job that an event ends, by its stage and its session. -/
def Event.ended (server : Server) : Event → Option (Stage × Session)
  | .finish stage index => ((server.pool stage).running[index]?).map (stage, ·)
  | _ => none

/-- A session that no job runs for goes on as it is, and so does all that it meets. -/
theorem Turn.passage {limit : Nat} {before after : Holding} {scene next : Scene}
    (turn : Turn limit before scene after next) (waits : ∀ stage, before.1 ≠ .running stage) :
    Passage before.2 before.1 after.1 ∧ after.2 = before.2 ∧ next = scene := by
  cases turn with
  | passed _ _ _ _ passage => exact ⟨passage, rfl, rfl⟩
  | lost | short | oversized | malformed | decoded | executed | refused | broken | blocked | ended
  | answered => exact absurd rfl (waits _)

namespace Server

/-- What an event does to the sessions of a server. -/
inductive Outcome (server : Server) (event : Event) : Prop
  /-- A job ends, and that is a turn of its session. -/
  | worked (stage : Stage) (session : Session) (kept : List Holding) (next : Holding)
      (ended : event.ended server = some (stage, session))
      (took : server.Took (server.step event) kept (.running stage, session) next)
  /-- A session goes on as it is. -/
  | passed (session : Session) (before after : Place) (kept : List Holding)
      (idle : event.ended server = none) (passage : Passage session before after)
      (took : server.Took (server.step event) kept (before, session) (after, session))
  /-- A client gets a session. -/
  | admitted (peer : Address) (idle : event.ended server = none)
      (arrives : (server.step event).holdings.Perm
        ((.added, Session.create ⟨server.nextId⟩ peer) :: server.holdings))
  /-- Sessions stay where they are, or their connections are over. -/
  | left (idle : event.ended server = none)
      (stays : ∀ holding ∈ (server.step event).holdings, holding ∈ server.holdings)

variable {server after : Server} {event : Event} {kept : List Holding} {before next : Holding}

/-- A step that takes a session on for which no job runs passes it on. -/
theorem Outcome.of_took (idle : event.ended server = none)
    (took : server.Took (server.step event) kept before next)
    (waits : ∀ stage, before.1 ≠ .running stage) : server.Outcome event := by
  obtain ⟨passage, same, _⟩ := took.turn.passage waits
  obtain ⟨destination, changed⟩ := next
  obtain rfl : changed = before.2 := same
  exact .passed before.2 before.1 destination kept idle passage took

/-- An event without effect lets all sessions stay. -/
theorem Outcome.of_same (idle : event.ended server = none) (same : server.step event = server) :
    server.Outcome event := by
  refine .left idle ?_
  rw [same]
  exact fun _ member => member

/-- A client that connects gets a session, or no session changes. -/
theorem outcome_connect (server : Server) (peer : Address) :
    server.Outcome (.connect peer) := by
  by_cases accepting : server.accepting = true
  · have accepts : server.step (.connect peer) = server.accept peer := if_pos accepting
    obtain same | ⟨_, same⟩ | ⟨_, same⟩ := server.accept_cases peer
    · refine .left rfl ?_
      rw [accepts, same]
      exact fun _ member => member
    · refine .admitted peer rfl ?_
      rw [accepts, same]
      exact holdings_notify _ (.add (Session.create ⟨server.nextId⟩ peer))
    · refine .left rfl ?_
      rw [accepts, same]
      exact fun _ member => member
  · exact .of_same rfl (if_neg accepting)

/-- What happens to a socket from outside lets all sessions stay. -/
theorem holdings_onSocket (server : Server) (id : ConnId) (change : Socket → Socket) :
    (server.onSocket id change).holdings = server.holdings := by
  unfold onSocket
  split <;> rfl

/-- The loop that looks at a message passes its session on, or ends its connection. -/
theorem Orderly.outcome_applyControl (orderly : server.Orderly) (registers : Bool) :
    server.Outcome (.applyControl registers) := by
  by_cases polling : server.polling = true
  · have applies : server.step (.applyControl registers) = server.applyControl registers :=
      if_pos polling
    cases heard : server.control with
    | nil =>
      refine .of_same rfl ?_
      rw [applies, Server.applyControl, heard]
    | cons message messages =>
      rcases (orderly.hears polling registers heard).2 with
        ⟨_, kept, next, took⟩ | ⟨_, kept, closed⟩
      · rw [← applies] at took
        refine .of_took rfl took fun stage => ?_
        cases message <;> exact Place.noConfusion
      · rw [← applies] at closed
        refine .left rfl fun holding member => ?_
        have stayed := closed.remains.mem_iff.mp member
        exact closed.leaves.mem_iff.mpr (List.mem_cons_of_mem _ stayed)
  · exact .of_same rfl (if_neg polling)

/-- A connection that is reported is passed on to a job. -/
theorem Orderly.outcome_ready (orderly : server.Orderly) (id : ConnId) :
    server.Outcome (.ready id) := by
  by_cases polling : server.polling = true
  · have reports : server.step (.ready id) = server.ready id := if_pos polling
    cases found : server.parked.find? id with
    | none =>
      refine .of_same rfl ?_
      rw [reports, Server.ready, found]
    | some parked =>
      obtain ⟨_, kept, next, took⟩ := orderly.reports polling id found
      rw [← reports] at took
      refine .of_took rfl took fun stage => ?_
      cases parked <;> exact Place.noConfusion
  · exact .of_same rfl (if_neg polling)

/-- A worker that is idle passes the oldest job on. -/
theorem Orderly.outcome_start (orderly : server.Orderly) (stage : Stage) :
    server.Outcome (.start stage) := by
  obtain same | ⟨_, session, kept, took⟩ := orderly.start_cases stage
  · exact .of_same rfl same
  · exact .of_took rfl took fun _ => Place.noConfusion

/-- A job that ends is a turn of its session. -/
theorem Orderly.outcome_finish (orderly : server.Orderly) (stage : Stage) (index : Nat) :
    server.Outcome (.finish stage index) := by
  obtain ⟨missing, same⟩ | ⟨_, session, kept, next, found, took⟩ :=
    orderly.finish_cases stage index
  · refine .of_same ?_ same
    rw [Event.ended, missing]
    rfl
  · refine .worked stage session kept next ?_ took
    rw [Event.ended, found]
    rfl

/-- The end of the loop that owns the readiness set leaves no session that was not there. -/
theorem stays_stopPolling (server : Server) :
    ∀ holding ∈ server.stopPolling.holdings, holding ∈ server.holdings := by
  have others : server.stopPolling.holdings = server.control.map Control.holding ++
      (server.jobs .readRegistered ++ (server.jobs .processing ++ server.jobs .writePending)) := by
    rw [Server.stopPolling, closeAll_eq]
    rfl
  intro holding member
  rw [others] at member
  rcases List.mem_append.mp member with message | job
  · exact List.mem_append_left _ message
  · exact List.mem_append_right _ (List.mem_append_right _ job)

/-- The end of the loop that owns the readiness set lets go of the sessions in it. -/
theorem outcome_stopPolling (server : Server) : server.Outcome .stopPolling := by
  by_cases stops : (server.signal.triggered && server.polling) = true
  · have ends : server.step .stopPolling = server.stopPolling := if_pos stops
    refine .left rfl ?_
    rw [ends]
    exact server.stays_stopPolling
  · exact .of_same rfl (if_neg stops)

/-- The last step of a shutdown leaves no session that was not there. -/
theorem stays_complete (server : Server) :
    ∀ holding ∈ server.complete.holdings, holding ∈ server.holdings := by
  have others : server.complete.holdings = server.parked.values.map Parked.holding ++
      (server.jobs .readRegistered ++ (server.jobs .processing ++ server.jobs .writePending)) := by
    rw [Server.complete, closeAll_eq]
    rfl
  intro holding member
  rw [others] at member
  exact List.mem_append_right _ member

/-- The last step of a shutdown lets go of the sessions in messages. -/
theorem outcome_complete (server : Server) : server.Outcome .complete := by
  by_cases last : (server.mayComplete && !server.stopped) = true
  · have completes : server.step .complete = server.complete := if_pos last
    refine .left rfl ?_
    rw [completes]
    exact server.stays_complete
  · exact .of_same rfl (if_neg last)

/-- Every step of an orderly server has one of the outcomes. -/
theorem Orderly.outcome (orderly : server.Orderly) (event : Event) : server.Outcome event := by
  cases event with
  | connect peer => exact server.outcome_connect peer
  | arrive id arrival | endInput id | allow id allowance | closePeer id | receive id =>
    refine .left rfl ?_
    simp only [Server.step, holdings_onSocket]
    exact fun _ member => member
  | applyControl registers => exact orderly.outcome_applyControl registers
  | ready id => exact orderly.outcome_ready id
  | start stage => exact orderly.outcome_start stage
  | finish stage index => exact orderly.outcome_finish stage index
  | trigger => exact .left rfl fun _ member => member
  | stopAccepting =>
    refine .left rfl ?_
    simp only [Server.step]
    split <;> exact fun _ member => member
  | stopPolling => exact server.outcome_stopPolling
  | closePool stage =>
    refine .left rfl ?_
    simp only [Server.step]
    split
    · cases stage <;> exact fun _ member => member
    · exact fun _ member => member
  | complete => exact server.outcome_complete

end Server

end KeyValueServer
