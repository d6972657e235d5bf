import KeyValueServer.Proofs.Server.Ownership

/-!
# No job is refused

A session whose job a pool refuses is lost. That pools are closed in order has to show in what the
server does: a server whose pools were never closed would do the same. So every step but those that
the shutdown takes at the pools leaves a server that differs from the other in nothing but the pools
that are closed.
-/

namespace KeyValueServer

namespace JobPool

variable {Job : Type}

/-- The same pool, taking jobs. -/
def reopened (pool : JobPool Job) : JobPool Job := { pool with isOpen := true }

/-- A worker takes a job of a pool whether the pool is open or not. -/
theorem start?_reopened (pool : JobPool Job) :
    pool.reopened.start? = pool.start?.map reopened := by
  simp only [start?, reopened]
  split
  · rfl
  · rw [apply_ite (Option.map _)]
    rfl

/-- A job of a pool ends whether the pool is open or not. -/
theorem finish?_reopened (pool : JobPool Job) (index : Nat) (panics : Bool) :
    pool.reopened.finish? index panics =
      (pool.finish? index panics).map (Prod.map id reopened) := by
  simp only [finish?, reopened]
  split <;> rfl

end JobPool

/-- The steps that a shutdown takes behind the loops. -/
def Event.isTeardown : Event → Bool
  | .closePool _ | .complete => true
  | _ => false

namespace Server

variable {server : Server}

/-- The same server, with pools that take jobs. -/
def reopened (server : Server) : Server :=
  { server with
    readPool := server.readPool.reopened
    processPool := server.processPool.reopened
    writePool := server.writePool.reopened }

/-- The pools of a reopened server are reopened. -/
@[simp] theorem pool_reopened (server : Server) (stage : Stage) :
    server.reopened.pool stage = (server.pool stage).reopened := by
  cases stage <;> rfl

/-- Pools can be reopened one by one. -/
theorem reopened_setPool (server : Server) (stage : Stage) (pool : JobPool Session) :
    (server.setPool stage pool).reopened = server.reopened.setPool stage pool.reopened := by
  cases stage <;> rfl

/-- An open pool takes a job as the reopened one does. -/
theorem reopened_submit (stage : Stage) (session : Session)
    (opened : (server.pool stage).isOpen = true) :
    (server.submit stage session).reopened = server.reopened.submit stage session := by
  have here : server.submit stage session = server.setPool stage { server.pool stage with
      queue := (server.pool stage).queue ++ [session]
      submitted := (server.pool stage).submitted + 1 } := by
    simp [Server.submit, JobPool.submit, opened]
  have there : server.reopened.submit stage session =
      server.reopened.setPool stage { (server.pool stage).reopened with
        queue := (server.pool stage).queue ++ [session]
        submitted := (server.pool stage).submitted + 1 } := by
    simp [Server.submit, JobPool.submit, JobPool.reopened]
  rw [here, there, reopened_setPool]
  rfl

/-- A session is handed on as in the reopened server while the pool behind is open. -/
theorem reopened_advance (session : Session) {before after : Stage}
    (opened : after ≠ .readRegistered → (server.pool after).isOpen = true) :
    (server.advance session before after).reopened =
      server.reopened.advance session before after := by
  have registries : server.reopened.registries = server.registries := rfl
  simp only [advance, registries]
  split
  · rfl
  · next moved _ =>
    cases after with
    | readRegistered => rfl
    | processing =>
      exact @reopened_submit { server with registries := moved } .processing session
        (opened Stage.noConfusion)
    | writePending =>
      exact @reopened_submit { server with registries := moved } .writePending session
        (opened Stage.noConfusion)

/-- A request is decoded and handed on as in the reopened server. -/
theorem reopened_decodeNext (session : Session)
    (opened : (server.pool .processing).isOpen = true) :
    (server.decodeNext session).map id reopened = server.reopened.decodeNext session := by
  have limit : server.reopened.requestLimit = server.requestLimit := rfl
  have handsOn (session : Session) :
      (server.advance session .readRegistered .processing).reopened =
        server.reopened.advance session .readRegistered .processing :=
    reopened_advance session fun _ => opened
  simp only [decodeNext, limit]
  split
  · rfl
  · exact congrArg (Prod.mk none) (handsOn _)
  · split
    · rfl
    · exact congrArg (Prod.mk none) (handsOn _)

/-- A read job does its work as in the reopened server. -/
theorem reopened_read (session : Session) (opened : (server.pool .processing).isOpen = true) :
    (server.read session).map id reopened = server.reopened.read session := by
  have limit : server.reopened.readLimit = server.readLimit := rfl
  have socket (id : ConnId) : server.reopened.socket id = server.socket id := rfl
  simp only [Server.read, limit, socket]
  split
  · rfl
  · split
    · rfl
    · exact reopened_decodeNext _ opened

/-- A job that executes does its work as in the reopened server. -/
theorem reopened_process (session : Session)
    (opened : (server.pool .writePending).isOpen = true) :
    (server.process session).map id reopened = server.reopened.process session := by
  have store : server.reopened.store = server.store := rfl
  simp only [Server.process, store]
  split
  · rfl
  · exact congrArg (Prod.mk none) (reopened_advance _ fun _ => opened)
  · exact congrArg (Prod.mk none) (reopened_advance _ fun _ => opened)

/-- A job that writes does its work as in the reopened server. -/
theorem reopened_write (session : Session) :
    (server.write session).map id reopened = server.reopened.write session := by
  have socket (id : ConnId) : server.reopened.socket id = server.socket id := rfl
  simp only [Server.write, socket]
  split
  · rfl
  · rfl
  · split
    · rfl
    · exact congrArg (Prod.mk none) (reopened_advance _ fun differs => absurd rfl differs)

/-- A job does its work as in the reopened server while the pools behind its own are open. -/
theorem reopened_runJob (stage : Stage) (session : Session) (onward : server.Onward stage) :
    (server.runJob stage session).map id reopened = server.reopened.runJob stage session := by
  have registries : server.reopened.registries = server.registries := rfl
  unfold runJob
  simp only [registries]
  split
  · cases stage with
    | readRegistered => exact reopened_read session (onward .processing List.mem_cons_self)
    | processing =>
      exact reopened_process session
        (onward .writePending (List.mem_cons_of_mem _ List.mem_cons_self))
    | writePending => exact reopened_write session
  · rfl

/-- A worker takes a job as in the reopened server. -/
theorem reopened_start (stage : Stage) :
    (server.start stage).reopened = server.reopened.start stage := by
  simp only [Server.start, pool_reopened, JobPool.start?_reopened]
  cases started : (server.pool stage).start? with
  | none => rfl
  | some pool => exact reopened_setPool server stage pool

/-- A worker ends a job as in the reopened server while the pools behind its own are open. -/
theorem reopened_finish (stage : Stage) (index : Nat)
    (onward : ∀ session ∈ (server.pool stage).running, server.Onward stage) :
    (server.finish stage index).reopened = server.reopened.finish stage index := by
  have running : (server.pool stage).reopened.running = (server.pool stage).running := rfl
  simp only [Server.finish, pool_reopened, running]
  split
  · rfl
  · next session found =>
    rw [← reopened_runJob stage session (onward session (List.mem_of_getElem? found))]
    generalize server.runJob stage session = outcome
    obtain ⟨fault, after⟩ := outcome
    simp only [Prod.map, pool_reopened, JobPool.finish?_reopened, id_eq]
    cases forgotten : (after.pool stage).finish? index fault.isSome with
    | none => rfl
    | some ended => exact reopened_setPool after stage ended.2

/-- What a message asks for is done as in the reopened server while the pool that reads is open. -/
theorem reopened_apply (registers : Bool) (message : Control)
    (opened : (server.pool .readRegistered).isOpen = true) :
    (server.apply registers message).reopened = server.reopened.apply registers message := by
  have parks (server : Server) (parked : Parked) :
      (server.park registers parked).reopened = server.reopened.park registers parked := by
    cases registers <;> rfl
  have registries : server.reopened.registries = server.registries := rfl
  cases message with
  | add session =>
    simp only [apply, registries]
    split
    · rfl
    · exact parks _ _
  | readMore session => exact parks server _
  | rearm session =>
    simp only [apply]
    split
    · exact parks server _
    · exact reopened_submit .readRegistered session opened
  | awaitWritable session => exact parks server _
  | remove session => rfl

/-- Sessions are closed as in the reopened server. -/
theorem reopened_closeAll (sessions : List Session) :
    (server.closeAll sessions).reopened = server.reopened.closeAll sessions := by
  unfold closeAll
  induction sessions generalizing server with
  | nil => rfl
  | cons session sessions inductionHypothesis => exact inductionHypothesis

/-- While pools are closed in order, a server takes every step at which jobs can be submitted as it
would if its pools had never been closed. So no pool refuses a job. -/
theorem Disciplined.reopened_step (disciplined : server.Disciplined) (event : Event)
    (inService : event.isTeardown = false) :
    (server.step event).reopened = server.reopened.step event := by
  cases event with
  | closePool | complete => cases inService
  | connect peer =>
    have accepting : server.reopened.accepting = server.accepting := rfl
    have config : server.reopened.config = server.config := rfl
    have registries : server.reopened.registries = server.registries := rfl
    have nextId : server.reopened.nextId = server.nextId := rfl
    simp only [Server.step, Server.accept, accepting, config, registries, nextId]
    split
    · split
      · rfl
      · split <;> rfl
    · rfl
  | arrive id arrival | endInput id | allow id allowance | closePeer id | receive id =>
    have sockets : server.reopened.sockets = server.sockets := rfl
    simp only [Server.step, Server.onSocket, sockets]
    split <;> rfl
  | applyControl registers =>
    have polling : server.reopened.polling = server.polling := rfl
    have control : server.reopened.control = server.control := rfl
    simp only [Server.step, Server.applyControl, polling, control]
    split
    · next polling =>
      split
      · rfl
      · next message messages _ =>
        exact @reopened_apply { server with control := messages } registers message
          (disciplined.opened polling .readRegistered)
    · rfl
  | ready id =>
    have polling : server.reopened.polling = server.polling := rfl
    have parked : server.reopened.parked = server.parked := rfl
    simp only [Server.step, Server.ready, polling, parked]
    split
    · next polling =>
      split
      · rfl
      · split
        · exact @reopened_submit { server with parked := server.parked.erase id } _ _
            (disciplined.opened polling .readRegistered)
        · exact @reopened_submit { server with parked := server.parked.erase id } _ _
            (disciplined.opened polling .writePending)
    · rfl
  | start stage => exact reopened_start stage
  | finish stage index =>
    apply reopened_finish
    intro session running
    exact disciplined.onward stage (busy_of_mem (List.mem_append_right _ running))
  | trigger => rfl
  | stopAccepting =>
    have signal : server.reopened.signal = server.signal := rfl
    simp only [Server.step, signal]
    split <;> rfl
  | stopPolling =>
    have signal : server.reopened.signal = server.signal := rfl
    have polling : server.reopened.polling = server.polling := rfl
    have parked : server.reopened.parked = server.parked := rfl
    simp only [Server.step, Server.stopPolling, signal, polling, parked]
    split
    · rw [← reopened_closeAll]
      rfl
    · rfl

/-- That pools are closed is all that their closing changes. -/
theorem reopened_closePool (stage : Stage) :
    (server.step (.closePool stage)).reopened = server.reopened := by
  simp only [Server.step]
  split
  · cases stage <;> rfl
  · rfl

/-- Until its last step a run in which the shutdown closes pools is one in which pools are never
closed. -/
theorem Orderly.reopened_run (orderly : server.Orderly) (events : List Event)
    (goesOn : .complete ∉ events) :
    (server.run events).reopened =
      server.reopened.run (events.filter fun event => !event.isTeardown) := by
  unfold Server.run
  induction events generalizing server with
  | nil => rfl
  | cons event events inductionHypothesis =>
    obtain ⟨first, later⟩ := not_or.mp (List.mem_cons.not.mp goesOn)
    have rest := inductionHypothesis (orderly.step event) later
    cases teardown : event.isTeardown with
    | false =>
      rw [List.filter_cons_of_pos (by simp [teardown]), List.foldl_cons, List.foldl_cons, rest,
        orderly.disciplined.reopened_step event teardown]
    | true =>
      rw [List.filter_cons_of_neg (by simp [teardown]), List.foldl_cons, rest]
      cases event with
      | closePool stage => rw [reopened_closePool]
      | complete => exact absurd rfl first
      | _ => cases teardown

end Server

end KeyValueServer
