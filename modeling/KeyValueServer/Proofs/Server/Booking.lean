import KeyValueServer.Proofs.Server.Replies

/-!
# What goes into the books

The books of a server are its map of open connections, its counters, and the sockets of all
connections that it ever admitted. A turn of a session leaves the connections alone and counts at
most one reply. The end of a connection takes it off the map, lowers the number of open connections
by one and closes its socket. `Booked` says both of any number of moves at once.
-/

namespace KeyValueServer

/-- The replies that were counted, to requests and to input that was none. -/
def Traffic.answered (traffic : Traffic) : UInt64 := traffic.commands + traffic.protocolErrors

/-- How many replies are queued when the session in a place goes on. -/
def Place.replies : Place → Nat
  | .running .processing => 1
  | _ => 0

/-- What the books say of what a session meets: connections are as they were, and some replies
more are counted. -/
structure Scene.Counts (before after : Scene) (replies : Nat) : Prop where
  accepted : after.traffic.accepted = before.traffic.accepted
  active : after.traffic.active = before.traffic.active
  rejected : after.traffic.rejected = before.traffic.rejected
  answered : after.traffic.answered = before.traffic.answered + UInt64.ofNat replies
  closed : after.socket.closed = before.socket.closed

/-- Reading closes no socket. -/
theorem Session.closed_of_fill {session filled : Session} {limit : Nat} {socket left : Socket}
    {answer : Except ConnectionError Nat}
    (read : session.fill limit socket = (answer, filled, left)) : left.closed = socket.closed := by
  rw [(eq_of_fill read).2]
  rfl

/-- Writing closes no socket. -/
theorem Session.closed_of_flush {session flushed : Session} {socket left : Socket}
    {answer : Except ConnectionError Flush}
    (written : session.flush socket = (answer, flushed, left)) : left.closed = socket.closed := by
  rw [(eq_of_flush written).2]
  rfl

/-- A turn counts the replies that it queues, and no connection. -/
theorem Turn.counts {limit : Nat} {before next : Holding} {scene later : Scene}
    (turn : Turn limit before scene next later) : scene.Counts later before.1.replies := by
  cases turn with
  | passed _ _ _ _ passage =>
    cases passage <;> exact ⟨rfl, rfl, rfl, (UInt64.add_zero _).symm, rfl⟩
  | lost _ _ _ _ _ read =>
    exact ⟨rfl, rfl, rfl, (UInt64.add_zero _).symm, Session.closed_of_fill read⟩
  | short _ _ _ _ _ read | oversized _ _ _ _ _ read | malformed _ _ _ _ _ _ read
  | decoded _ _ _ _ _ _ _ read =>
    exact ⟨rfl, rfl, rfl, (UInt64.add_zero _).symm, Session.closed_of_fill read⟩
  | executed =>
    refine ⟨rfl, rfl, rfl, ?_, rfl⟩
    change scene.traffic.commands + 1 + scene.traffic.protocolErrors = _ + _ + 1
    rw [UInt64.add_assoc, UInt64.add_comm 1, ← UInt64.add_assoc]
  | refused =>
    refine ⟨rfl, rfl, rfl, ?_, rfl⟩
    exact (UInt64.add_assoc _ _ _).symm
  | broken _ _ _ _ _ written | blocked _ _ _ _ _ written | ended _ _ _ _ _ written
  | answered _ _ _ _ _ written =>
    exact ⟨rfl, rfl, rfl, (UInt64.add_zero _).symm, Session.closed_of_flush written⟩

/-- The connections that an event ends: they are open before it and not any more behind it. -/
def Event.ends (server : Server) (event : Event) : List ConnId :=
  server.registries.all.keys.filter fun id => !(server.step event).registries.all.contains id

namespace Server

variable {server after last : Server} {gone later kept : List ConnId} {replies more : Nat}

/-- The books after connections ended and replies were queued. -/
structure Booked (server after : Server) (gone : List ConnId) (replies : Nat) : Prop where
  config : after.config = server.config
  nextId : after.nextId = server.nextId
  opened : server.registries.all.keys.Perm (gone ++ after.registries.all.keys)
  accepted : after.traffic.accepted = server.traffic.accepted
  active : after.traffic.active = server.traffic.active - UInt64.ofNat gone.length
  rejected : after.traffic.rejected = server.traffic.rejected
  answered : after.traffic.answered = server.traffic.answered + UInt64.ofNat replies
  closed : ∀ id, (after.sockets.find? id).map Socket.closed =
    if id ∈ gone then some true else (server.sockets.find? id).map Socket.closed

/-- Nothing goes into the books when nothing happens. -/
theorem Booked.refl (server : Server) : server.Booked server [] 0 where
  config := rfl
  nextId := rfl
  opened := .refl _
  accepted := rfl
  active := (UInt64.sub_zero _).symm
  rejected := rfl
  answered := (UInt64.add_zero _).symm
  closed _ := rfl

/-- What happens one after the other goes into the books together. -/
theorem Booked.trans (booked : server.Booked after gone replies)
    (then_ : after.Booked last later more) :
    server.Booked last (gone ++ later) (replies + more) := by
  constructor
  · exact then_.config.trans booked.config
  · exact then_.nextId.trans booked.nextId
  · rw [List.append_assoc]
    exact booked.opened.trans (then_.opened.append_left gone)
  · exact then_.accepted.trans booked.accepted
  · rw [then_.active, booked.active, List.length_append, UInt64.ofNat_add]
    grind
  · exact then_.rejected.trans booked.rejected
  · rw [then_.answered, booked.answered, UInt64.ofNat_add, UInt64.add_assoc]
  · intro id
    rw [then_.closed, booked.closed]
    by_cases first : id ∈ gone <;> by_cases second : id ∈ later <;> simp [first, second]

/-- A connection that is closed while it is open goes into the books once. -/
theorem booked_close {session : Session}
    (opened : server.registries.all.contains session.id = true) :
    server.Booked (server.close session) [session.id] 0 := by
  have sockets : (server.close session).sockets =
      server.sockets.insert session.id (server.socket session.id).hangUp := rfl
  have registries : (server.close session).registries.all =
      server.registries.all.erase session.id := rfl
  have traffic : (server.close session).traffic = server.traffic.closed 1 := if_pos opened
  constructor
  · rfl
  · rfl
  · rw [registries]
    exact Bindings.keys_perm_erase _ _ opened
  · rw [traffic]
    rfl
  · rw [traffic]
    rfl
  · rw [traffic]
    rfl
  · rw [traffic]
    exact (UInt64.add_zero _).symm
  · intro id
    rw [sockets, Bindings.find?_insert]
    by_cases same : id = session.id <;> simp [same, Socket.hangUp]

/-- Connections that are closed one by one while they are open go into the books once each. -/
theorem booked_closeAll (sessions : List Session) (distinct : (sessions.map Session.id).Nodup)
    (opened : ∀ session ∈ sessions, server.registries.all.contains session.id = true) :
    server.Booked (server.closeAll sessions) (sessions.map Session.id) 0 := by
  unfold closeAll
  induction sessions generalizing server with
  | nil => exact .refl server
  | cons session sessions inductionHypothesis =>
    obtain ⟨fresh, distinct⟩ := List.nodup_cons.mp distinct
    refine (booked_close (opened session List.mem_cons_self)).trans
      (inductionHypothesis distinct ?_)
    intro other member
    have apart : other.id ≠ session.id := by
      intro same
      exact fresh (List.mem_map.mpr ⟨other, member, same⟩)
    have registries : (server.close session).registries.all =
        server.registries.all.erase session.id := rfl
    rw [registries, Bindings.contains, Bindings.find?_erase, if_neg apart]
    exact opened other (List.mem_cons_of_mem _ member)

/-- The open connections are those of the sessions. -/
theorem Orderly.keys_perm (orderly : server.Orderly) :
    server.registries.all.keys.Perm (server.holdings.map fun holding => holding.2.id) := by
  apply (List.perm_ext_iff_of_nodup server.registries.all.keys_nodup
    orderly.accounted.distinct).mpr
  intro id
  refine (Bindings.mem_keys_iff server.registries.all id).trans ?_
  rw [orderly.accounted.registered, List.mem_map]

/-- Whether the socket of a connection is closed, where it has one. -/
theorem map_closed {id : ConnId} (connected : (server.sockets.find? id).isSome = true) :
    (server.sockets.find? id).map Socket.closed = some (server.socket id).closed := by
  obtain ⟨socket, found⟩ := Option.isSome_iff_exists.mp connected
  simp [Server.socket, found]

/-- A turn of a session goes into the books with the replies that it queues. -/
theorem Took.booked {kept : List Holding} {before next : Holding}
    (took : server.Took after kept before next) (orderly : server.Orderly)
    (orderlyThen : after.Orderly) (nextId : after.nextId = server.nextId) :
    server.Booked after [] before.1.replies := by
  have counts := took.turn.counts
  constructor
  · exact took.config
  · exact nextId
  · have same : (server.holdings.map fun holding => holding.2.id).Perm
        (after.holdings.map fun holding => holding.2.id) := by
      refine (took.leaves.map _).trans (List.Perm.trans ?_ (took.arrives.map _).symm)
      simp only [List.map_cons, took.same]
      exact .refl _
    exact orderly.keys_perm.trans (same.trans orderlyThen.keys_perm.symm)
  · exact counts.accepted
  · rw [show after.traffic.active = server.traffic.active from counts.active]
    exact (UInt64.sub_zero _).symm
  · exact counts.rejected
  · exact counts.answered
  · intro id
    rw [if_neg List.not_mem_nil]
    by_cases own : id = before.2.id
    · subst own
      have connected := orderly.connected before (took.leaves.mem_iff.mpr List.mem_cons_self)
      have connectedThen := orderlyThen.connected next
        (took.arrives.mem_iff.mpr List.mem_cons_self)
      rw [took.same] at connectedThen
      rw [map_closed connected, map_closed connectedThen]
      exact congrArg some counts.closed
    · rw [took.others id own]

/-- The end of a connection goes into the books once. -/
theorem Closed.booked {kept : List Holding} {ended : Holding}
    (closed : server.Closed after kept ended) (orderly : server.Orderly)
    (orderlyThen : after.Orderly) (nextId : after.nextId = server.nextId) :
    server.Booked after [ended.2.id] 0 := by
  have socket : after.socket ended.2.id = (server.socket ended.2.id).hangUp :=
    congrArg Scene.socket closed.scene
  have traffic : after.traffic = server.traffic.closed 1 := congrArg Scene.traffic closed.scene
  constructor
  · exact closed.config
  · exact nextId
  · have remains := orderlyThen.keys_perm.trans (closed.remains.map fun holding => holding.2.id)
    exact (orderly.keys_perm.trans (closed.leaves.map _)).trans (remains.symm.cons _)
  · rw [traffic]
    rfl
  · rw [traffic]
    rfl
  · rw [traffic]
    rfl
  · rw [traffic]
    exact (UInt64.add_zero _).symm
  · intro id
    by_cases own : id = ended.2.id
    · subst own
      rw [if_pos List.mem_cons_self]
      -- a connection without a socket would have an open one
      cases found : after.sockets.find? ended.2.id with
      | none =>
        simp only [Server.socket, found, Option.getD_none] at socket
        exact absurd (congrArg Socket.closed socket) Bool.false_ne_true
      | some left =>
        simp only [Server.socket, found, Option.getD_some] at socket
        rw [socket]
        rfl
    · rw [closed.others id own, if_neg (by simpa using own)]

/-- What leaves connections, counters and sockets alone does not go into the books. -/
theorem booked_of_same (config : after.config = server.config)
    (nextId : after.nextId = server.nextId) (registries : after.registries = server.registries)
    (traffic : after.traffic = server.traffic) (sockets : after.sockets = server.sockets) :
    server.Booked after [] 0 := by
  have nothing := Booked.refl server
  constructor
  · exact config
  · exact nextId
  · rw [registries]
    exact nothing.opened
  · rw [traffic]
  · rw [traffic]
    exact nothing.active
  · rw [traffic]
  · rw [traffic]
    exact nothing.answered
  · intro id
    rw [sockets]
    exact nothing.closed id

/-- What happens to a socket from outside does not go into the books. -/
theorem booked_onSocket (id : ConnId) {change : Socket → Socket}
    (keeps : ∀ socket, (change socket).closed = socket.closed) :
    server.Booked (server.onSocket id change) [] 0 := by
  unfold onSocket
  split
  · exact .refl server
  · next socket found =>
    have nothing := Booked.refl server
    refine { nothing with closed := fun other => ?_ }
    simp only [setSocket, Bindings.find?_insert, List.not_mem_nil, if_false]
    by_cases same : other = id
    · subst same
      simp [found, keeps]
    · rw [if_neg same]

/-- The connections that went into the books as ended are those that the event ended. -/
theorem Booked.ends {event : Event} (booked : server.Booked (server.step event) gone replies) :
    server.Booked (server.step event) (event.ends server) replies := by
  have distinct := booked.opened.nodup_iff.mp server.registries.all.keys_nodup
  obtain ⟨distinctGone, _, apart⟩ := List.nodup_append.mp distinct
  have same : gone.Perm (event.ends server) := by
    apply (List.perm_ext_iff_of_nodup distinctGone
      (server.registries.all.keys_nodup.filter _)).mpr
    intro id
    have split := booked.opened.mem_iff (a := id)
    have opened := Bindings.mem_keys_iff (server.step event).registries.all id
    rw [List.mem_append] at split
    change _ ↔ id ∈ server.registries.all.keys.filter _
    rw [List.mem_filter, Bool.not_eq_true', ← Bool.not_eq_true, ← opened, split]
    constructor
    · intro member
      exact ⟨.inl member, fun stays => apart id member id stays rfl⟩
    · rintro ⟨member | stays, left⟩
      · exact member
      · exact absurd stays left
  refine { booked with opened := ?_, active := ?_, closed := ?_ }
  · exact booked.opened.trans (same.append_right _)
  · rw [booked.active, same.length_eq]
  · intro id
    rw [booked.closed]
    simp only [same.mem_iff]

/-- The sessions in some of the places of a server can be closed one by one. -/
theorem Orderly.booked_closing (orderly : server.Orderly) {sessions : List Session}
    {others : List Holding} {closing : List Holding} (named : closing.map Prod.snd = sessions)
    (leaves : server.holdings.Perm (closing ++ others)) :
    server.Booked (server.closeAll sessions) (sessions.map Session.id) 0 := by
  subst named
  apply booked_closeAll
  · have distinct := ((leaves.map fun holding => holding.2.id).nodup_iff).mp
      orderly.accounted.distinct
    rw [List.map_append] at distinct
    rw [List.map_map]
    exact (List.nodup_append.mp distinct).1
  · intro session member
    obtain ⟨holding, inside, rfl⟩ := List.mem_map.mp member
    apply (orderly.accounted.registered _).mpr
    exact ⟨holding, leaves.mem_iff.mpr (List.mem_append_left _ inside), rfl⟩

/-- The end of the loop goes into the books with the connections of the readiness set. -/
theorem Orderly.booked_stopPolling (orderly : server.Orderly) :
    server.Booked server.stopPolling
      ((server.parked.values.map Parked.session).map Session.id) 0 := by
  have named : (server.parked.values.map Parked.holding).map Prod.snd =
      server.parked.values.map Parked.session := by
    rw [List.map_map]
    apply List.map_congr_left
    intro parked _
    cases parked <;> rfl
  have closing := orderly.booked_closing named (List.perm_append_comm_assoc _ _ _)
  have rest : (server.closeAll (server.parked.values.map Parked.session)).Booked
      server.stopPolling [] 0 := booked_of_same rfl rfl rfl rfl rfl
  simpa using closing.trans rest

/-- The last step of a shutdown goes into the books with the connections of all messages. It finds
no other connection in the registries. -/
theorem Orderly.booked_complete (orderly : server.Orderly) (may : server.mayComplete = true) :
    server.Booked server.complete ((server.control.map Control.session).map Session.id) 0 ∧
      (server.closeAll (server.control.map Control.session)).registries.all.keys = [] := by
  have messages := orderly.holdings_of_mayComplete may
  have named : (server.control.map Control.holding).map Prod.snd =
      server.control.map Control.session := by
    rw [List.map_map]
    apply List.map_congr_left
    intro message _
    cases message <;> rfl
  have leaves : server.holdings.Perm (server.control.map Control.holding ++ []) := by
    rw [messages, List.append_nil]
  have closing := orderly.booked_closing named leaves
  have nothing : (server.closeAll (server.control.map Control.session)).registries.all.keys =
      [] := by
    have opened := closing.opened.length_eq
    have known := orderly.keys_perm.length_eq
    rw [messages] at known
    simp only [List.length_append, List.length_map] at opened known
    apply List.eq_nil_of_length_eq_zero
    omega
  refine ⟨?_, nothing⟩
  have rest : (server.closeAll (server.control.map Control.session)).Booked
      server.complete [] 0 := by
    refine { Booked.refl (server.closeAll (server.control.map Control.session)) with
      opened := ?_ }
    rw [nothing]
    exact .refl _
  simpa using closing.trans rest

/-- Every step of an orderly server but the admission of a client goes into the books with the
connections that it ends and the replies that it queues. -/
theorem Orderly.booked (orderly : server.Orderly) (event : Event)
    (known : ∀ peer, event ≠ .connect peer) :
    server.Booked (server.step event) (event.ends server) (event.replies server).length := by
  suffices booked : ∃ gone,
      server.Booked (server.step event) gone (event.replies server).length by
    obtain ⟨gone, booked⟩ := booked
    exact booked.ends
  have orderlyThen := orderly.step event
  have unchanged (same : server.step event = server) (idle : event.ended server = none) :
      ∃ gone, server.Booked (server.step event) gone (event.replies server).length := by
    rw [same, replies_eq_nil idle]
    exact ⟨[], .refl server⟩
  cases event with
  | connect peer => exact absurd rfl (known peer)
  | arrive id arrival | endInput id | allow id allowance | closePeer id | receive id =>
    exact ⟨[], booked_onSocket id fun _ => rfl⟩
  | applyControl registers =>
    by_cases polling : server.polling = true
    · have applies : server.step (.applyControl registers) = server.applyControl registers :=
        if_pos polling
      have nextId : (server.applyControl registers).nextId = server.nextId :=
        (works_applyControl registers).nextId
      cases heard : server.control with
      | nil =>
        apply unchanged _ rfl
        rw [applies, Server.applyControl, heard]
      | cons message messages =>
        rw [applies] at orderlyThen ⊢
        obtain ⟨_, kept, next, took⟩ | ⟨_, kept, closed⟩ :=
          (orderly.hears polling registers heard).2
        · have booked := took.booked orderly orderlyThen nextId
          cases message <;> exact ⟨[], booked⟩
        · exact ⟨_, closed.booked orderly orderlyThen nextId⟩
    · exact unchanged (if_neg polling) rfl
  | ready id =>
    by_cases polling : server.polling = true
    · have reports : server.step (.ready id) = server.ready id := if_pos polling
      cases found : server.parked.find? id with
      | none =>
        apply unchanged _ rfl
        rw [reports, Server.ready, found]
      | some parked =>
        rw [reports] at orderlyThen ⊢
        obtain ⟨_, kept, next, took⟩ := orderly.reports polling id found
        have booked := took.booked orderly orderlyThen
          (works_ready id).nextId
        cases parked <;> exact ⟨[], booked⟩
    · exact unchanged (if_neg polling) rfl
  | start stage =>
    obtain same | ⟨_, session, kept, took⟩ := orderly.start_cases stage
    · exact unchanged same rfl
    · exact ⟨[], took.booked orderly orderlyThen (works_start stage).nextId⟩
  | finish stage index =>
    obtain ⟨missing, same⟩ | ⟨_, session, kept, next, found, took⟩ :=
      orderly.finish_cases stage index
    · have idle : (Event.finish stage index).ended server = none := by
        rw [Event.ended, missing]
        rfl
      exact unchanged same idle
    · have booked := took.booked orderly orderlyThen (works_finish stage index).nextId
      have stored := orderly.accounted.stored _ (took.leaves.mem_iff.mpr List.mem_cons_self)
      have replied : (Place.running stage).replies =
          ((Event.finish stage index).replies server).length := by
        simp only [Event.replies, Event.ended, found, Option.map_some]
        cases stage with
        | processing => exact (Session.length_replies server.store stored).symm
        | readRegistered | writePending => rfl
      rw [← replied]
      exact ⟨[], booked⟩
  | trigger => exact ⟨[], booked_of_same rfl rfl rfl rfl rfl⟩
  | stopAccepting =>
    by_cases triggered : server.signal.triggered = true
    · have stops : server.step .stopAccepting = { server with accepting := false } :=
        if_pos triggered
      rw [stops]
      exact ⟨[], booked_of_same rfl rfl rfl rfl rfl⟩
    · exact unchanged (if_neg triggered) rfl
  | stopPolling =>
    by_cases stops : (server.signal.triggered && server.polling) = true
    · have ends : server.step .stopPolling = server.stopPolling := if_pos stops
      rw [ends]
      exact ⟨_, orderly.booked_stopPolling⟩
    · exact unchanged (if_neg stops) rfl
  | closePool stage =>
    by_cases may : server.mayClosePool stage = true
    · have closes : server.step (.closePool stage) =
          server.setPool stage (server.pool stage).close := if_pos may
      rw [closes]
      refine ⟨[], booked_of_same ?_ ?_ ?_ ?_ ?_⟩ <;> cases stage <;> rfl
    · exact unchanged (if_neg may) rfl
  | complete =>
    by_cases last : (server.mayComplete && !server.stopped) = true
    · have completes : server.step .complete = server.complete := if_pos last
      rw [completes]
      exact ⟨_, (orderly.booked_complete ((Bool.and_eq_true _ _).mp last).1).1⟩
    · exact unchanged (if_neg last) rfl

end Server

end KeyValueServer
