import KeyValueServer.Proofs.Server.Progress

/-!
# A server that attends to nobody

A configuration is accepted also if it asks for reports of more ready connections at once than there
can be room for. Then the loop that owns the readiness set never runs. Clients are admitted, but
their sessions stay in the messages that nobody looks at: no byte of theirs is read. A server
attends to its clients when there is room for these reports and for their input.
-/

namespace KeyValueServer.Server

variable {server : Server}

/-- Whether a server attends to its clients: there is room for their input, and the loop runs that
hears of it. -/
def Attends (server : Server) : Prop := server.config.Roomy ∧ server.polling = true

/-- A server whose loop does not run. All sessions wait to be put into the readiness set. -/
structure Unattended (server : Server) : Prop where
  polling : server.polling = false
  empty : server.parked = .empty
  idle : ∀ stage, (server.pool stage).queue = [] ∧ (server.pool stage).running = []
  added : ∀ message ∈ server.control, ∃ id peer, message = .add (Session.create id peer)

/-- A server that was started without the loop. -/
theorem unattended_of_launch {host : Host} {config : Config} {taken : Bool}
    (launched : launch host config taken = .ok server) (polling : server.polling = false) :
    server.Unattended := by
  obtain ⟨_, store, _, rfl⟩ := eq_fresh_of_launch launched
  exact
    { polling := polling
      empty := rfl
      idle := fun stage => by cases stage <;> exact ⟨rfl, rfl⟩
      added := fun _ member => absurd member List.not_mem_nil }

/-- A client that is admitted waits with the others. -/
theorem Unattended.accept (unattended : server.Unattended) (peer : Address) :
    (server.accept peer).Unattended := by
  obtain same | ⟨_, same⟩ | ⟨_, same⟩ := server.accept_cases peer
  · rw [same]
    exact { unattended with }
  · rw [same]
    refine { unattended with added := fun message member => ?_ }
    rcases List.mem_append.mp member with before | new
    · exact unattended.added message before
    · exact ⟨_, _, List.mem_singleton.mp new⟩
  · rw [same]
    exact { unattended with }

/-- No event makes the loop run. -/
theorem Unattended.step (unattended : server.Unattended) (event : Event) :
    (server.step event).Unattended := by
  -- the loop would have to run for these
  have ended {polls : Prop} (runs : server.polling = true) : polls := by
    rw [unattended.polling] at runs
    cases runs
  have into : server.StepsInto Unattended := {
    idle := unattended
    accept := fun _ peer => unattended.accept peer
    onSocket := by
      intro id change
      unfold onSocket
      split
      · exact unattended
      · exact { unattended with }
    applyControl := fun runs => ended runs
    ready := fun runs => ended runs
    start := by
      intro stage
      simp only [start, JobPool.start?, (unattended.idle stage).1]
      exact unattended
    finish := by
      intro stage index
      simp only [finish, (unattended.idle stage).2, List.getElem?_nil]
      exact unattended
    trigger := { unattended with }
    stopAccepting := fun _ => { unattended with }
    stopPolling := fun _ runs => ended runs
    closePool := by
      intro stage _
      have idle (other : Stage) :
          ((server.setPool stage (server.pool stage).close).pool other).queue = [] ∧
            ((server.setPool stage (server.pool stage).close).pool other).running = [] := by
        have same := unattended.idle other
        cases stage <;> cases other <;> exact same
      cases stage <;> exact { unattended with idle := idle }
    complete := by
      -- closing sessions concerns the registries, the counters and the sockets only
      rw [complete, closeAll_eq]
      exact fun _ _ =>
        { unattended with added := fun _ member => absurd member List.not_mem_nil } }
  exact into.step event

/-- Where a server does not attend to its clients, every session in a run is as it was made, and
waits to be put into the readiness set. -/
theorem untouched_of_not_attends {host : Host} {config : Config} {taken : Bool}
    (launched : launch host config taken = .ok server) (unattended : ¬ server.Attends)
    {events : List Event} {holding : Holding} (member : holding ∈ (server.run events).holdings) :
    holding.1 = .added ∧ holding.2.input = [] := by
  have roomy : server.config.Roomy := by
    rw [config_of_launch launched]
    exact roomy_of_holding launched member
  have polling : server.polling = false :=
    eq_false_of_ne_true fun polls => unattended ⟨roomy, polls⟩
  have stays : (server.run events).Unattended :=
    holds_run (fun event unattended => unattended.step event)
      (unattended_of_launch launched polling) events
  have empty : (server.run events).parked.values = [] := congrArg Bindings.values stays.empty
  rcases ((server.run events).mem_holdings_iff holding).mp member with
    ⟨message, heard, rfl⟩ | ⟨parked, waits, _⟩ | ⟨stage, ⟨_, queued⟩ | ⟨_, running⟩⟩
  · obtain ⟨id, peer, rfl⟩ := stays.added message heard
    exact ⟨rfl, rfl⟩
  · rw [empty] at waits
    cases waits
  · rw [(stays.idle stage).1] at queued
    cases queued
  · rw [(stays.idle stage).2] at running
    cases running

end KeyValueServer.Server
