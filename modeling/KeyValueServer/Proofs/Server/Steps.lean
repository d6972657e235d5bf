import KeyValueServer.Proofs.Server.Order

/-!
# The steps that concern one session

The loop that owns the readiness set and the workers of the pools each take one session at a time.
`Passed` says that the loop took a session to another place as it is, `Ended` that a connection is
over. This module shows that the steps of a server whose sessions are accounted for do one or the
other, and which.
-/

namespace KeyValueServer.Server

variable {server after : Server} {kept : List Holding} {place : Place} {session : Session}

/-- Every session of the readiness set is there under the number of its connection. -/
def Keyed (server : Server) : Prop :=
  ∀ id parked, server.parked.find? id = some parked → parked.session.id = id

/-- The loop has taken a session from `before` to `next`, as it is. -/
structure Passed (server after : Server) (kept : List Holding) (session : Session)
    (before next : Place) : Prop where
  passage : Passage session before next
  balanced : after.Balanced [] [] ((next, session) :: kept)
  keyed : server.Keyed → after.Keyed
  surroundings : after.surroundings session.id =
    { server.surroundings session.id with parked := after.parked }
  scene : after.scene session.id = server.scene session.id
  sockets : after.sockets = server.sockets

/-- The connection of a session is over, and its socket is closed. -/
structure Ended (server after : Server) (kept : List Holding) (session : Session) : Prop where
  balanced : after.Balanced [] [] kept
  keyed : server.Keyed → after.Keyed
  surroundings : after.surroundings session.id = server.surroundings session.id
  scene : after.scene session.id =
    ⟨(server.socket session.id).hangUp, server.store, server.traffic.closed 1⟩

/-- A session that is closed is over. -/
theorem Balanced.ended (balanced : server.Balanced [] [(place, session)] kept) :
    server.Ended (server.close session) kept session := by
  have counted : (server.unregister session.id).traffic = server.traffic.closed 1 := by
    have opened : (server.registries.all.find? session.id).isSome = true := balanced.2.opened
    exact if_pos opened
  refine ⟨balanced.close, id, ?_, ?_⟩
  · exact surroundings_setSocket (server.unregister session.id) session.id _
  · have socket := socket_setSocket (server.unregister session.id) session.id
      (server.socket session.id).hangUp
    exact congrArg₂ (fun socket traffic => Scene.mk socket server.store traffic) socket counted

/-- A session in hand is in no other place, so not in the readiness set either. -/
theorem Balanced.absent (balanced : server.Balanced [] [(place, session)] kept)
    (keyed : server.Keyed) : server.parked.find? session.id = none := by
  cases found : server.parked.find? session.id with
  | none => rfl
  | some parked =>
    have member : parked.holding ∈ server.holdings :=
      List.mem_append_right _ (List.mem_append_left _
        (List.mem_map_of_mem (Bindings.mem_values_of_find? _ _ _ found)))
    have named : parked.holding.2.id = session.id := by
      rw [← keyed session.id parked found]
      cases parked <;> rfl
    exact absurd named (balanced.2.apart _ (balanced.1.mem_iff.mp member))

/-- A new session of the readiness set adds to the holdings. -/
theorem holdings_insertParked (server : Server) (id : ConnId) (parked : Parked)
    (absent : server.parked.find? id = none) :
    ({ server with parked := server.parked.insert id parked }).holdings.Perm
      (parked.holding :: server.holdings) := by
  simp only [holdings, Bindings.values_insert_of_absent _ id parked absent, List.map_cons,
    List.cons_append]
  exact List.perm_middle

/-- A session that is put into the readiness set waits there, if the set takes its socket. -/
theorem Balanced.park (balanced : server.Balanced [] [(place, session)] kept)
    (keyed : server.Keyed) (registers : Bool) (parked : Parked) (same : parked.session = session)
    (agrees : parked.holding.1.Agrees (server.registries.stageOf session.id))
    (idle : session.command.isSome = false) (passage : Passage session place parked.holding.1) :
    (registers = true ∧
      server.Passed (server.park registers parked) kept session place parked.holding.1) ∨
    (registers = false ∧ server.Ended (server.park registers parked) kept session) := by
  subst same
  have shape : parked.holding = (parked.holding.1, parked.session) := by cases parked <;> rfl
  have waits : parked.holding.1.executes = false := by cases parked <;> rfl
  cases registers with
  | false => exact .inr ⟨rfl, balanced.ended⟩
  | true =>
    refine .inl ⟨rfl, passage, ⟨?_, ?_⟩, fun _ => ?_, rfl, rfl, rfl⟩
    · rw [← shape]
      exact (server.holdings_insertParked _ parked (balanced.absent keyed)).trans
        (balanced.1.cons _)
    · exact balanced.2.move parked.holding.1 parked.session rfl agrees (by rw [waits, idle])
    · intro id found_ found
      simp only [Server.park, ↓reduceIte, Bindings.find?_insert] at found
      by_cases asked : id = parked.session.id
      · rw [if_pos asked] at found
        rw [← Option.some.inj found, asked]
      · rw [if_neg asked] at found
        exact keyed id found_ found

/-- A session that is to wait in the readiness set is passed on, unless the set does not take its
socket. -/
theorem Balanced.parks (balanced : server.Balanced [] [(place, session)] kept)
    (keyed : server.Keyed) (registers : Bool) (parked : Parked) (same : parked.session = session)
    (agrees : parked.holding.1.Agrees (server.registries.stageOf session.id))
    (idle : session.command.isSome = false) (passage : Passage session place parked.holding.1)
    (stays : place ≠ .removed) :
    (place ≠ .removed ∧
      ∃ next, server.Passed (server.park registers parked) kept session place next) ∨
    ((place = .removed ∨ registers = false) ∧
      server.Ended (server.park registers parked) kept session) := by
  rcases balanced.park keyed registers parked same agrees idle passage with
    ⟨_, passed⟩ | ⟨refused, ended⟩
  · exact .inl ⟨stays, _, passed⟩
  · exact .inr ⟨.inr refused, ended⟩

/-- A session that is submitted as it is waits for its job. -/
theorem Balanced.submitted (balanced : server.Balanced [] [(place, session)] kept)
    (stage : Stage) (opened : (server.pool stage).isOpen = true)
    (found : server.registries.stageOf session.id = some stage)
    (stored : session.command.isSome = (Place.queued stage).executes)
    (passage : Passage session place (.queued stage)) :
    server.Passed (server.submit stage session) kept session place (.queued stage) := by
  have delivered := balanced.submit stage session rfl opened found stored
  have same : (server.submit stage session).parked = server.parked :=
    congrArg Surroundings.parked (delivered.surroundings session.id)
  refine ⟨passage, delivered.balanced, fun keyed => ?_, ?_, delivered.scene _, delivered.sockets⟩
  · unfold Keyed
    rw [same]
    exact keyed
  · rw [delivered.surroundings, same]
    rfl

/-- Every message is either passed on or ends a connection. It ends the connection when it asks
for that, or when the readiness set does not take the socket. -/
theorem apply_spec (registers : Bool) (message : Control)
    (balanced : server.Balanced [] [message.holding] kept) (keyed : server.Keyed)
    (opened : (server.pool .readRegistered).isOpen = true) :
    (message.holding.1 ≠ .removed ∧ ∃ next, server.Passed (server.apply registers message) kept
      message.holding.2 message.holding.1 next) ∨
    ((message.holding.1 = .removed ∨ registers = false) ∧
      server.Ended (server.apply registers message) kept message.holding.2) := by
  have idle : message.holding.2.command.isSome = false := by
    have stored := balanced.2.stored _ List.mem_cons_self
    cases message <;> exact stored
  cases message with
  | add session =>
    have found := balanced.2.stageOf none rfl
    obtain ⟨moved, moves, arrived, accounts⟩ := balanced.2.transition none .readRegistered found
    let entered := { server with registries := moved }
    have applied : server.apply registers (.add session) =
        entered.park registers (.read session) := by
      simp only [apply, show server.registries.transition session.id none .readRegistered =
        .ok moved from moves]
      rfl
    have inHand : entered.Balanced [] [(.readMore, session)] kept :=
      ⟨balanced.1, accounts .readMore session rfl (fun _ goesWith => Option.some.inj goesWith) idle⟩
    have agrees : Place.parkedRead.Agrees (moved.stageOf session.id) :=
      fun _ goesWith => arrived.trans (Option.some.inj goesWith)
    rw [applied]
    rcases inHand.park keyed registers (.read session) rfl agrees idle .wantsMore with
      ⟨_, passed⟩ | ⟨refused, ended⟩
    · exact .inl ⟨Place.noConfusion, .parkedRead, .admitted, passed.balanced, passed.keyed,
        passed.surroundings, passed.scene, passed.sockets⟩
    · exact .inr ⟨.inr refused, ended.balanced, ended.keyed, ended.surroundings, ended.scene⟩
  | readMore session =>
    have inHand : server.Balanced [] [(.readMore, session)] kept := balanced
    have agrees : Place.parkedRead.Agrees (server.registries.stageOf session.id) :=
      fun _ goesWith => (balanced.2.stageOf _ rfl).trans (Option.some.inj goesWith)
    exact inHand.parks keyed registers (.read session) rfl agrees idle .wantsMore Place.noConfusion
  | rearm session =>
    have inHand : server.Balanced [] [(.rearm, session)] kept := balanced
    have found : server.registries.stageOf session.id = some .readRegistered :=
      balanced.2.stageOf _ rfl
    by_cases empty : session.input = []
    · have applied : server.apply registers (.rearm session) =
          server.park registers (.read session) := by
        simp only [apply, empty, List.isEmpty_nil, ↓reduceIte]
      rw [applied]
      exact inHand.parks keyed registers (.read session) rfl
        (fun _ goesWith => found.trans (Option.some.inj goesWith)) idle (.wantsNext empty)
        Place.noConfusion
    · have applied : server.apply registers (.rearm session) =
          server.submit .readRegistered session :=
        if_neg (fun nothing => empty (List.isEmpty_iff.mp nothing))
      rw [applied]
      exact .inl ⟨Place.noConfusion, _,
        inHand.submitted .readRegistered opened found idle (.hasNext empty)⟩
  | awaitWritable session =>
    have inHand : server.Balanced [] [(.awaitWritable, session)] kept := balanced
    have agrees : Place.parkedWrite.Agrees (server.registries.stageOf session.id) :=
      fun _ goesWith => (balanced.2.stageOf _ rfl).trans (Option.some.inj goesWith)
    exact inHand.parks keyed registers (.write session) rfl agrees idle .wantsRoom
      Place.noConfusion
  | remove session =>
    have inHand : server.Balanced [] [(.removed, session)] kept := balanced
    exact .inr ⟨.inl rfl, inHand.ended⟩

end KeyValueServer.Server
