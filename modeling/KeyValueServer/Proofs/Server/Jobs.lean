import KeyValueServer.Proofs.Server.Custody

/-!
# What a job does

A job whose session is accounted for is a turn of that session: it comes to an end without a fault,
its session comes to a place that agrees with the registries, and no other session, pool or socket
is concerned. The main statement is `runJob_spec`; it holds for every outcome of the calls on the
socket and for every input.
-/

namespace KeyValueServer.Server

variable {server : Server} {aside kept : List Holding} {session : Session}

/-- A job has taken its session to `next`, and left everything else alone. -/
structure Turned (server after : Server) (aside kept : List Holding) (before next : Holding) :
    Prop where
  turn : Turn server.requestLimit before (server.scene before.2.id) next (after.scene before.2.id)
  same : next.2.id = before.2.id
  balanced : after.Balanced aside [] (next :: kept)
  surroundings : after.surroundings before.2.id = server.surroundings before.2.id
  connected : (server.sockets.find? before.2.id).isSome = true →
    (after.sockets.find? before.2.id).isSome = true

/-- What a job prepared before it handed its session on belongs to its turn. -/
theorem Delivered.turned {prepared after : Server} {before next : Holding}
    (delivered : prepared.Delivered after aside kept next)
    (surroundings : prepared.surroundings before.2.id = server.surroundings before.2.id)
    (connected : (server.sockets.find? before.2.id).isSome = true →
      (prepared.sockets.find? before.2.id).isSome = true)
    (same : next.2.id = before.2.id)
    (turn : Turn server.requestLimit before (server.scene before.2.id) next
      (prepared.scene before.2.id)) :
    server.Turned after aside kept before next where
  turn := by
    rw [delivered.scene]
    exact turn
  same := same
  balanced := delivered.balanced
  surroundings := (delivered.surroundings _).trans surroundings
  connected := by
    rw [delivered.sockets]
    exact connected

/-- A job that left its socket and the counters changed, and then handed its session on. -/
theorem Delivered.turned_socket {after : Server} {before next : Holding} {socket : Socket}
    {traffic : Traffic}
    (delivered : { server.setSocket before.2.id socket with traffic := traffic }.Delivered after
      aside kept next)
    (same : next.2.id = before.2.id)
    (turn : Turn server.requestLimit before (server.scene before.2.id) next
      { server.scene before.2.id with socket := socket, traffic := traffic }) :
    server.Turned after aside kept before next := by
  have scene : { server.setSocket before.2.id socket with traffic := traffic }.scene before.2.id =
      { server.scene before.2.id with socket := socket, traffic := traffic } :=
    congrArg (fun socket => Scene.mk socket server.store traffic)
      (socket_setSocket server before.2.id socket)
  refine delivered.turned (surroundings_setSocket server before.2.id socket)
    (fun _ => connected_setSocket server before.2.id socket) same ?_
  rw [scene]
  exact turn

/-- Whether a stage and the pool behind it can hand sessions over. -/
def Onward (server : Server) (stage : Stage) : Prop :=
  ∀ later, stage ∈ earlier later → (server.pool later).isOpen = true

/-- A read job is a turn of its session. -/
theorem read_spec
    (balanced : server.Balanced aside [(.running .readRegistered, session)] kept)
    (bounded : server.requestLimit + 1 < UInt64.size) (onward : server.Onward .readRegistered) :
    ∃ next after, server.read session = (none, after) ∧
      server.Turned after aside kept (.running .readRegistered, session) next := by
  obtain ⟨_, accounted⟩ := id balanced
  have found : server.registries.stageOf session.id = some .readRegistered :=
    accounted.stageOf _ rfl
  have idle : session.command = none :=
    Place.idle_of_stored (accounted.stored _ List.mem_cons_self) rfl
  have limited : server.readLimit = .ok (server.requestLimit + 1) := by
    rw [readLimit, if_pos bounded]
  rcases read : session.fill (server.requestLimit + 1) (server.socket session.id) with
    ⟨answer, filled, socket⟩
  have shape := (Session.eq_of_fill read).1
  have same : filled.id = session.id := by rw [shape]
  have stillIdle : filled.command = none := by rw [shape, ← idle]
  let moved := server.setSocket session.id socket
  have reads : server.read session =
      match answer with
      | .error _ => (none, moved.notify (.remove filled))
      | .ok count =>
        decodeNext { moved with traffic := moved.traffic.received count.toUInt64 } filled := by
    simp only [Server.read, limited, read, same, moved]
    cases answer <;> rfl
  rw [reads]
  cases answer with
  | error error =>
    have inHand : moved.Balanced aside [(.running .readRegistered, session)] kept := balanced
    have delivered := inHand.notify (.remove filled) same
      (fun _ goesWith => nomatch goesWith) (by rw [Control.holding, stillIdle]; rfl)
    exact ⟨_, _, rfl, delivered.turned_socket same (.lost session filled _ error socket read)⟩
  | ok count =>
    let prepared := { moved with traffic := server.traffic.received count.toUInt64 }
    have inHand : prepared.Balanced aside [(.running .readRegistered, session)] kept := balanced
    have opened : Stage.processing ≠ .readRegistered → (server.pool .processing).isOpen = true :=
      fun _ => onward .processing List.mem_cons_self
    change ∃ next after, prepared.decodeNext filled = (none, after) ∧ _
    unfold decodeNext
    rw [filled.parseNext_eq _ stillIdle]
    cases outcome : Request.decode prepared.requestLimit filled.input with
    | incomplete =>
      by_cases small : filled.input.length ≤ server.requestLimit
      · have delivered := inHand.notify (.readMore filled) same
          (fun _ goesWith => found.trans (Option.some.inj goesWith))
          (by rw [Control.holding, stillIdle]; rfl)
        exact ⟨_, _, if_pos small, delivered.turned_socket same
          (.short session filled _ count socket read outcome small)⟩
      · have delivered := inHand.advance .readRegistered .processing
          (filled.reject (.tooLarge filled.input.length server.requestLimit)) same opened found rfl
        exact ⟨_, _, if_neg small, delivered.turned_socket same
          (.oversized session filled _ count socket read outcome (Nat.lt_of_not_le small))⟩
    | refused error =>
      have delivered := inHand.advance .readRegistered .processing (filled.reject error) same
        opened found rfl
      exact ⟨_, _, rfl, delivered.turned_socket same
        (.malformed session filled _ count socket error read outcome)⟩
    | complete request rest =>
      have delivered := inHand.advance .readRegistered .processing
        { filled with input := rest.ahead, command := some (.ok request) } same opened found rfl
      exact ⟨_, _, rfl, delivered.turned_socket same
        (.decoded session filled _ count socket request rest read outcome)⟩

/-- A job that executes is a turn of its session. -/
theorem process_spec
    (balanced : server.Balanced aside [(.running .processing, session)] kept)
    (onward : server.Onward .processing) :
    ∃ next after, server.process session = (none, after) ∧
      server.Turned after aside kept (.running .processing, session) next := by
  obtain ⟨_, accounted⟩ := id balanced
  have found : server.registries.stageOf session.id = some .processing := accounted.stageOf _ rfl
  have opened : Stage.writePending ≠ .readRegistered → (server.pool .writePending).isOpen = true :=
    fun _ => onward .writePending (List.mem_cons_of_mem _ List.mem_cons_self)
  obtain ⟨command, stored⟩ :=
    Option.isSome_iff_exists.mp (accounted.stored _ List.mem_cons_self)
  have stored : session.command = some command := stored
  unfold process Session.takeCommand
  rw [stored]
  cases command with
  | ok request =>
    let prepared := { server with
      traffic := server.traffic.executed 1
      store := (Command.execute server.store request).2 }
    have inHand : prepared.Balanced aside [(.running .processing, session)] kept := balanced
    have delivered := inHand.advance .processing .writePending
      ({ session with command := none }.queueReply (Command.execute server.store request).1)
      rfl opened found rfl
    exact ⟨_, _, rfl, delivered.turned rfl id rfl (Turn.executed session _ request stored)⟩
  | error error =>
    let prepared := { server with traffic := server.traffic.refused 1 }
    let answered := (if error.isFatal then
        { session with command := none }.discardInput.closeWhenWritten
      else { session with command := none }.discardInput).queueReply (refusal error)
    have kept : answered.id = session.id ∧ answered.command = none := by
      cases fatal : error.isFatal <;> simp only [answered, fatal] <;> exact ⟨rfl, rfl⟩
    have inHand : prepared.Balanced aside [(.running .processing, session)] _ := balanced
    have delivered := inHand.advance .processing .writePending answered kept.1 opened found
      (by rw [kept.2]; rfl)
    exact ⟨_, _, rfl, delivered.turned rfl id kept.1 (Turn.refused session _ error stored)⟩

/-- A job that writes is a turn of its session. -/
theorem write_spec
    (balanced : server.Balanced aside [(.running .writePending, session)] kept) :
    ∃ next after, server.write session = (none, after) ∧
      server.Turned after aside kept (.running .writePending, session) next := by
  obtain ⟨_, accounted⟩ := id balanced
  have found : server.registries.stageOf session.id = some .writePending := accounted.stageOf _ rfl
  have idle : session.command = none :=
    Place.idle_of_stored (accounted.stored _ List.mem_cons_self) rfl
  rcases written : session.flush (server.socket session.id) with ⟨answer, flushed, socket⟩
  have shape := (Session.eq_of_flush written).1
  have same : flushed.id = session.id := by rw [shape]
  have stillIdle : flushed.command.isSome = false := by rw [shape, idle]; rfl
  let moved := server.setSocket session.id socket
  have writes : server.write session =
      match answer with
      | .error _ => (none, moved.notify (.remove flushed))
      | .ok (.blocked count) =>
        (none, { moved with traffic := moved.traffic.sent count.toUInt64 }.notify
          (.awaitWritable flushed))
      | .ok (.done count) =>
        if flushed.closeAfterWrite then
          (none, { moved with traffic := moved.traffic.sent count.toUInt64 }.notify
            (.remove flushed))
        else
          (none, { moved with traffic := moved.traffic.sent count.toUInt64 }.advance flushed
            .writePending .readRegistered) := by
    simp only [Server.write, written, same, moved]
    rcases answer with _ | _ | _ <;> rfl
  have inHand (traffic : Traffic) : ({ moved with traffic := traffic }).Balanced aside
      [(.running .writePending, session)] kept := balanced
  rw [writes]
  rcases answer with error | count | count
  · have delivered := (inHand server.traffic).notify (.remove flushed) same
      (fun _ goesWith => nomatch goesWith) stillIdle
    exact ⟨_, _, rfl, delivered.turned_socket same
      (.broken session flushed _ error socket written)⟩
  · have prepared := inHand (server.traffic.sent count.toUInt64)
    by_cases closing : flushed.closeAfterWrite = true
    · have delivered := prepared.notify (.remove flushed) same
        (fun _ goesWith => nomatch goesWith) stillIdle
      exact ⟨_, _, if_pos closing, delivered.turned_socket same
        (.ended session flushed _ count socket written closing)⟩
    · have goesOn := Bool.not_eq_true _ ▸ closing
      have delivered := prepared.advance .writePending .readRegistered flushed same
        (fun differs => absurd rfl differs) found stillIdle
      exact ⟨_, _, if_neg closing, delivered.turned_socket same
        (.answered session flushed _ count socket written goesOn)⟩
  · have delivered := (inHand (server.traffic.sent count.toUInt64)).notify
      (.awaitWritable flushed) same (fun _ goesWith => found.trans (Option.some.inj goesWith))
      stillIdle
    exact ⟨_, _, rfl, delivered.turned_socket same
      (.blocked session flushed _ count socket written)⟩

/-- A running job whose session is accounted for is a turn of that session, without a fault. -/
theorem runJob_spec (stage : Stage)
    (balanced : server.Balanced aside [(.running stage, session)] kept)
    (bounded : server.requestLimit + 1 < UInt64.size) (onward : server.Onward stage) :
    ∃ next after, server.runJob stage session = (none, after) ∧
      server.Turned after aside kept (.running stage, session) next := by
  have found : server.registries.stageOf session.id = some stage := balanced.2.stageOf _ rfl
  unfold runJob
  simp only [found, ↓reduceIte]
  cases stage with
  | readRegistered => exact read_spec balanced bounded onward
  | processing => exact process_spec balanced onward
  | writePending => exact write_spec balanced

end KeyValueServer.Server
