import KeyValueServer.Proofs.Server.Outcome

/-!
# The replies of a step

Replies are queued by the jobs that execute: the output of the session in hand then has one reply
more at its end. In every other step outputs only lose what was written of them.
-/

namespace KeyValueServer

/-- The replies to what a session holds for execution. -/
def Session.replies (store : Store) (session : Session) : List Value :=
  match session.command with
  | some (.ok request) => [(Command.execute store request).1]
  | some (.error error) => [Server.refusal error]
  | none => []

/-- The replies that an event queues: those of the execution that it ends. -/
def Event.replies (server : Server) (event : Event) : List Value :=
  match event.ended server with
  | some (.processing, session) => session.replies server.store
  | _ => []

/-- A session that holds something for execution gets one reply. -/
theorem Session.length_replies (store : Store) {session : Session}
    (stored : session.command.isSome = true) : (session.replies store).length = 1 := by
  obtain ⟨command, stored⟩ := Option.isSome_iff_exists.mp stored
  unfold replies
  cases command <;> simp [stored]

/-- Writing takes output from the front. -/
theorem Session.suffix_of_flush {session flushed : Session} {socket left : Socket}
    {answer : Except ConnectionError Flush}
    (written : session.flush socket = (answer, flushed, left)) :
    flushed.output <:+ session.output := by
  obtain ⟨content, split, _⟩ := taken_of_flush written
  exact ⟨content, split.symm⟩

/-- Reading leaves the output alone. -/
theorem Session.output_of_fill {session filled : Session} {limit : Nat} {socket left : Socket}
    {answer : Except ConnectionError Nat}
    (read : session.fill limit socket = (answer, filled, left)) :
    filled.output = session.output := by
  obtain ⟨rfl, _⟩ := eq_of_fill read
  rfl

/-- A turn in which nothing is executed adds nothing to the output. -/
theorem Turn.output {limit : Nat} {before next : Holding} {scene later : Scene}
    (turn : Turn limit before scene next later) (idle : before.1 ≠ .running .processing) :
    next.2.output <:+ before.2.output := by
  cases turn with
  | passed => exact List.suffix_rfl
  | lost _ _ _ _ _ read | short _ _ _ _ _ read | oversized _ _ _ _ _ read
  | malformed _ _ _ _ _ _ read | decoded _ _ _ _ _ _ _ read =>
    have same := Session.output_of_fill read
    simp only [Session.reject, same]
    exact List.suffix_rfl
  | executed | refused => exact absurd rfl idle
  | broken _ _ _ _ _ written | blocked _ _ _ _ _ written | ended _ _ _ _ _ written
  | answered _ _ _ _ _ written => exact Session.suffix_of_flush written

/-- A turn in which something is executed adds the reply to the output. -/
theorem Turn.output_executed {limit : Nat} {session : Session} {next : Holding}
    {scene later : Scene} (turn : Turn limit (.running .processing, session) scene next later) :
    next.2.output = session.output ++ (session.replies scene.store).flatMap Value.encode := by
  cases turn with
  | passed _ _ _ _ passage => cases passage
  | executed _ _ request stored =>
    simp [Session.replies, stored, Session.queueReply]
  | refused _ _ error stored =>
    simp only [Session.replies, stored, Session.queueReply, List.flatMap_singleton]
    split <;> rfl

namespace Server

variable {server : Server}

/-- What a step does to the outputs of the sessions. -/
structure Queues (server : Server) (event : Event) : Prop where
  /-- The end of an execution puts one reply behind the output of its session. -/
  executed : ∀ session, event.ended server = some (.processing, session) →
    (event.replies server).length = 1 ∧ ∃ place answered,
      (place, answered) ∈ (server.step event).holdings ∧ answered.id = session.id ∧
        answered.output = session.output ++ (event.replies server).flatMap Value.encode
  /-- No other output becomes longer. -/
  others : ∀ holding ∈ (server.step event).holdings,
    (∀ session, event.ended server = some (.processing, session) → holding.2.id ≠ session.id) →
      holding.2.output = [] ∨ ∃ earlier ∈ server.holdings, earlier.2.id = holding.2.id ∧
        holding.2.output <:+ earlier.2.output

/-- Only the end of an execution queues replies. -/
theorem replies_eq_nil {event : Event} (idle : event.ended server = none) :
    event.replies server = [] := by
  simp only [Event.replies, idle]

/-- After a turn an output is that of a session before it, or what is left of it, but for the output
of an execution that ended. -/
theorem Took.outputs {after : Server} {kept : List Holding} {before next : Holding}
    (took : server.Took after kept before next) {holding : Holding}
    (member : holding ∈ after.holdings)
    (other : before.1 = .running .processing → holding.2.id ≠ before.2.id) :
    ∃ earlier ∈ server.holdings, earlier.2.id = holding.2.id ∧
      holding.2.output <:+ earlier.2.output := by
  rcases List.mem_cons.mp (took.arrives.mem_iff.mp member) with rfl | stayed
  · refine ⟨before, took.leaves.mem_iff.mpr List.mem_cons_self, took.same.symm, ?_⟩
    apply took.turn.output
    intro executed
    exact other executed took.same
  · exact ⟨holding, took.leaves.mem_iff.mpr (List.mem_cons_of_mem _ stayed), rfl,
      List.suffix_rfl⟩

/-- Every step of an orderly server queues the replies that its event stands for. -/
theorem Orderly.queues (orderly : server.Orderly) (event : Event) : server.Queues event := by
  have unexecuted (idle : event.ended server = none) (session : Session)
      (ended : event.ended server = some (.processing, session)) : False := by
    rw [idle] at ended
    cases ended
  cases orderly.outcome event with
  | worked stage session kept next ended took =>
    constructor
    · intro executed same
      rw [ended] at same
      cases same
      have stored := orderly.accounted.stored _ (took.leaves.mem_iff.mpr List.mem_cons_self)
      have replied : event.replies server = session.replies server.store := by
        simp only [Event.replies, ended]
      rw [replied]
      refine ⟨Session.length_replies _ stored, next.1, next.2, ?_, took.same, ?_⟩
      · exact took.arrives.mem_iff.mpr List.mem_cons_self
      · exact took.turn.output_executed
    · intro holding member other
      right
      apply took.outputs member
      intro executed
      cases executed
      exact other session ended
  | passed session before after kept idle passage took =>
    constructor
    · intro executed ended
      exact (unexecuted idle executed ended).elim
    · intro holding member _
      right
      apply took.outputs member
      rintro rfl
      cases passage
  | admitted peer idle arrives =>
    constructor
    · intro executed ended
      exact (unexecuted idle executed ended).elim
    · intro holding member _
      rcases List.mem_cons.mp (arrives.mem_iff.mp member) with rfl | stayed
      · exact .inl rfl
      · exact .inr ⟨holding, stayed, rfl, List.suffix_rfl⟩
  | left idle stays =>
    constructor
    · intro executed ended
      exact (unexecuted idle executed ended).elim
    · intro holding member _
      exact .inr ⟨holding, stays holding member, rfl, List.suffix_rfl⟩

end Server

end KeyValueServer
