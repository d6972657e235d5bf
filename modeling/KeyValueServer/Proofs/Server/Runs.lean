import KeyValueServer.Server.Event

/-!
# What steps and runs keep

An event is an attempt: a server that cannot take the step it asks for does nothing. `StepsInto`
lists once what a server can do and when, so that what is shown of each of these things is shown of
every step. What every step keeps holds after every run.
-/

namespace KeyValueServer.Server

variable {server : Server} {Holds : Server → Prop}

/-- Whatever the server does next, it comes into a state where something holds. -/
structure StepsInto (server : Server) (Holds : Server → Prop) : Prop where
  idle : Holds server
  accept : server.accepting = true → ∀ peer, Holds (server.accept peer)
  onSocket : ∀ id change, Holds (server.onSocket id change)
  applyControl : server.polling = true → ∀ registers, Holds (server.applyControl registers)
  ready : server.polling = true → ∀ id, Holds (server.ready id)
  start : ∀ stage, Holds (server.start stage)
  finish : ∀ stage index, Holds (server.finish stage index)
  trigger : Holds { server with signal := server.signal.trigger.2 }
  stopAccepting : server.signal.triggered = true → Holds { server with accepting := false }
  stopPolling : server.signal.triggered = true → server.polling = true → Holds server.stopPolling
  closePool : ∀ stage, server.mayClosePool stage = true →
    Holds (server.setPool stage (server.pool stage).close)
  complete : server.mayComplete = true → server.stopped = false → Holds server.complete

/-- What holds whatever the server does holds after every event. -/
theorem StepsInto.step (into : server.StepsInto Holds) (event : Event) :
    Holds (server.step event) := by
  cases event with
  | arrive id | endInput id | allow id | closePeer id | receive id => exact into.onSocket id _
  | start stage => exact into.start stage
  | finish stage index => exact into.finish stage index
  | trigger => exact into.trigger
  | connect peer =>
    simp only [Server.step]
    split
    · next accepting => exact into.accept accepting peer
    · exact into.idle
  | applyControl registers =>
    simp only [Server.step]
    split
    · next polling => exact into.applyControl polling registers
    · exact into.idle
  | ready id =>
    simp only [Server.step]
    split
    · next polling => exact into.ready polling id
    · exact into.idle
  | stopAccepting =>
    simp only [Server.step]
    split
    · next triggered => exact into.stopAccepting triggered
    · exact into.idle
  | stopPolling =>
    simp only [Server.step]
    split
    · next ends =>
      obtain ⟨triggered, polling⟩ := (Bool.and_eq_true _ _).mp ends
      exact into.stopPolling triggered polling
    · exact into.idle
  | closePool stage =>
    simp only [Server.step]
    split
    · next may => exact into.closePool stage may
    · exact into.idle
  | complete =>
    simp only [Server.step]
    split
    · next last =>
      obtain ⟨may, goesOn⟩ := (Bool.and_eq_true _ _).mp last
      exact into.complete may ((Bool.not_eq_true' _).mp goesOn)
    · exact into.idle

/-- A run goes on where the one before it ended. -/
theorem run_append (server : Server) (front back : List Event) :
    server.run (front ++ back) = (server.run front).run back :=
  List.foldl_append

/-- What every step keeps, every run keeps. -/
theorem holds_run
    (step : ∀ {server : Server} (event : Event), Holds server → Holds (server.step event))
    {server : Server} (starts : Holds server) (events : List Event) :
    Holds (server.run events) := by
  unfold run
  induction events generalizing server with
  | nil => exact starts
  | cons event events inductionHypothesis => exact inductionHypothesis (step event starts)

end KeyValueServer.Server
