import KeyValueServer.Proofs.Request.Framing
import KeyValueServer.Proofs.Server.Turn

/-!
# The exchange of requests and replies on a connection

A client sends requests, and the bytes that arrived are always divided in the same way: those of
the requests that were executed, of the one that waits for execution, and the input and the unread
bytes behind them. The store and the replies are those of executing the first requests in order.
`Exchange` states this for one session and what it meets; every turn keeps it.

The client may end its output at any time. On a socket that does not fail by itself a session is
given up for no other reason.
-/

namespace KeyValueServer

namespace Command

/-- Requests are answered one behind the other. -/
theorem executeAllFrom_append (replies : List Value) (store : Store) (left right : List Value) :
    executeAllFrom replies store (left ++ right) =
      executeAllFrom (executeAllFrom replies store left).1.reverse
        (executeAllFrom replies store left).2 right := by
  induction left generalizing replies store with
  | nil => simp only [List.nil_append, executeAllFrom, List.reverse_reverse]
  | cons request left inductionHypothesis =>
    simp only [List.cons_append, executeAllFrom]
    exact inductionHypothesis _ _

/-- The last request is answered on what the others left. -/
theorem executeAll_concat (store : Store) (requests : List Value) (request : Value) :
    executeAll store (requests ++ [request]) =
      ((executeAll store requests).1 ++ [(execute (executeAll store requests).2 request).1],
        (execute (executeAll store requests).2 request).2) := by
  rw [executeAll, executeAllFrom_append]
  simp only [executeAllFrom, List.reverse_cons, List.reverse_reverse]
  rfl

end Command

/-- What a place says about the bytes of its session: where more input is awaited there is no
complete request, and before a reply is made there is no output. -/
def Place.Fits (limit : Nat) (session : Session) : Place → Prop
  | .added | .readMore | .parkedRead =>
    Request.decode limit session.input = .incomplete ∧ session.output = []
  | .rearm | .queued .readRegistered | .running .readRegistered | .queued .processing
  | .running .processing => session.output = []
  | .removed | .awaitWritable | .parkedWrite | .queued .writePending | .running .writePending =>
    True

/-- No turn changes whether the client has ended its output. -/
theorem Turn.inputEnded_eq {limit : Nat} {before after : Holding} {scene next : Scene}
    (turn : Turn limit before scene after next) :
    next.socket.inputEnded = scene.socket.inputEnded := by
  cases turn with
  | passed => rfl
  | executed => rfl
  | refused => rfl
  | lost _ _ _ _ _ read | short _ _ _ _ _ read | oversized _ _ _ _ _ read
  | malformed _ _ _ _ _ _ read | decoded _ _ _ _ _ _ _ read =>
    rw [(Session.eq_of_fill read).2]
    rfl
  | broken _ _ _ _ _ written | blocked _ _ _ _ _ written | ended _ _ _ _ _ written
  | answered _ _ _ _ _ written =>
    rw [(Session.eq_of_flush written).2]
    rfl

/-- How far the exchange on a connection has come: of the requests, of which the client has sent
the bytes `sent`, the first `count` are executed, and it has received the bytes `received`. -/
structure Exchange (limit : Nat) (start : Store) (requests : List Value)
    (sent received : List UInt8) (count : Nat) (holding : Holding) (scene : Scene) : Prop where
  within : count ≤ requests.length
  stored : ∀ command, holding.2.command = some command →
    ∃ request, requests[count]? = some request ∧ command = .ok request
  conserved : sent =
    (requests.take (count + holding.2.command.toList.length)).flatMap Value.encode ++
      (holding.2.input ++ scene.socket.unread)
  store : scene.store = (Command.executeAll start (requests.take count)).2
  replied : received ++ (scene.socket.delivered ++ holding.2.output) =
    (Command.executeAll start (requests.take count)).1.flatMap Value.encode
  goesOn : holding.2.closeAfterWrite = false
  commands : scene.traffic.commands = UInt64.ofNat count
  protocolErrors : scene.traffic.protocolErrors = 0
  plain : scene.socket.Plain
  fits : holding.1.Fits limit holding.2
  alive : scene.socket.inputEnded = false → holding.1 ≠ .removed
  ended : scene.socket.peerClosed = true → scene.socket.inputEnded = true

namespace Exchange

variable {limit : Nat} {start : Store} {requests : List Value} {sent unsent received : List UInt8}
  {count : Nat} {place : Place} {session : Session} {scene : Scene}

/-- A session that goes on as it is fits its next place. -/
theorem fits_of_passage {before after : Place} (passage : Passage session before after)
    (fits : before.Fits limit session) : after.Fits limit session ∧ after ≠ .removed := by
  cases passage with
  | admitted => exact ⟨fits, Place.noConfusion⟩
  | wantsMore => exact ⟨fits, Place.noConfusion⟩
  | wantsNext empty => exact ⟨⟨by rw [empty]; rfl, fits⟩, Place.noConfusion⟩
  | hasNext filled => exact ⟨fits, Place.noConfusion⟩
  | wantsRoom => exact ⟨trivial, Place.noConfusion⟩
  | readable => exact ⟨fits.2, Place.noConfusion⟩
  | writable => exact ⟨trivial, Place.noConfusion⟩
  | started stage => cases stage <;> exact ⟨fits, Place.noConfusion⟩

/-- Reading moves bytes within what the client has sent. -/
theorem filled {filled : Session} {answer : Except ConnectionError Nat} {socket : Socket}
    (exchange : Exchange limit start requests sent received count
      (.running .readRegistered, session) scene)
    (read : session.fill (limit + 1) scene.socket = (answer, filled, socket)) :
    Exchange limit start requests sent received count (.running .readRegistered, filled)
      { scene with socket := socket } := by
  have conserves := Session.fill_conserves read
  have plain := (Session.fill_plain read exchange.plain).1
  obtain ⟨rfl, rfl⟩ := Session.eq_of_fill read
  refine ⟨exchange.within, exchange.stored, ?_, exchange.store, exchange.replied, exchange.goesOn,
    exchange.commands, exchange.protocolErrors, plain, exchange.fits, fun _ => Place.noConfusion,
    exchange.ended⟩
  rw [exchange.conserved]
  exact congrArg (_ ++ ·) conserves.symm

/-- The other counters do not matter. -/
theorem counted {holding : Holding}
    (exchange : Exchange limit start requests sent received count holding scene)
    (traffic : Traffic) (commands : traffic.commands = scene.traffic.commands)
    (protocolErrors : traffic.protocolErrors = scene.traffic.protocolErrors) :
    Exchange limit start requests sent received count holding { scene with traffic := traffic } :=
  ⟨exchange.within, exchange.stored, exchange.conserved, exchange.store, exchange.replied,
    exchange.goesOn, commands.trans exchange.commands,
    protocolErrors.trans exchange.protocolErrors, exchange.plain, exchange.fits, exchange.alive,
    exchange.ended⟩

/-- A session that stays as it is may go to a place that it fits. -/
theorem placed (exchange : Exchange limit start requests sent received count (place, session)
      scene) (after : Place) (fits : after.Fits limit session)
    (alive : scene.socket.inputEnded = false → after ≠ .removed) :
    Exchange limit start requests sent received count (after, session) scene :=
  ⟨exchange.within, exchange.stored, exchange.conserved, exchange.store, exchange.replied,
    exchange.goesOn, exchange.commands, exchange.protocolErrors, exchange.plain, fits, alive,
    exchange.ended⟩

/-- Behind the executed requests the client has sent a front of the others. -/
theorem remaining (exchange : Exchange limit start requests sent received count (place, session)
      scene)
    (idle : session.command = none) (split : sent ++ unsent = requests.flatMap Value.encode) :
    session.input ++ (scene.socket.unread ++ unsent) =
      (requests.drop count).flatMap Value.encode := by
  have conserved := exchange.conserved
  rw [idle] at conserved
  have whole : requests.flatMap Value.encode =
      (requests.take count).flatMap Value.encode ++ (requests.drop count).flatMap Value.encode := by
    rw [← List.flatMap_append, List.take_append_drop]
  rw [conserved, whole] at split
  simp only [Option.toList_none, List.length_nil, Nat.add_zero, List.append_assoc,
    List.append_cancel_left_eq] at split
  exact split

/-- A request that was decoded is the next one. -/
theorem decoded {request : Value} {next : Request.Cursor}
    (exchange : Exchange limit start requests sent received count
      (.running .readRegistered, session) scene)
    (idle : session.command = none)
    (areRequests : ∀ request ∈ requests, request.IsRequest limit)
    (split : sent ++ unsent = requests.flatMap Value.encode)
    (complete : Request.decode limit session.input = .complete request next) :
    Exchange limit start requests sent received count
      (.queued .processing, { session with input := next.ahead, command := some (.ok request) })
      scene := by
  have areOthers : ∀ request ∈ requests.drop count, request.IsRequest limit :=
    fun request member => areRequests request (List.mem_of_mem_drop member)
  rcases Request.decode_stream limit _ areOthers _ _ (exchange.remaining idle split) with
    ⟨incomplete, _⟩ | ⟨first, others, more, behind, front, found⟩
  · rw [incomplete] at complete
    cases complete
  · rw [found] at complete
    obtain ⟨rfl, rfl⟩ := Request.Progress.complete.inj complete
    have following : requests[count]? = some first := by
      rw [← List.head?_drop, behind, List.head?_cons]
    refine ⟨exchange.within, ?_, ?_, exchange.store, exchange.replied, exchange.goesOn,
      exchange.commands, exchange.protocolErrors, exchange.plain, exchange.fits,
      fun _ => Place.noConfusion, exchange.ended⟩
    · intro command stored
      exact ⟨first, following, (Option.some.inj stored).symm⟩
    · have conserved := exchange.conserved
      rw [idle, front] at conserved
      rw [conserved]
      simp only [Option.toList_none, Option.toList_some, List.length_nil, List.length_singleton,
        Nat.add_zero, List.take_add_one, following, List.flatMap_append, List.flatMap_singleton,
        List.append_assoc]

/-- A request that is executed is answered behind the others. -/
theorem executed {request : Value}
    (exchange : Exchange limit start requests sent received count
      (.running .processing, session) scene)
    (stored : session.command = some (.ok request)) :
    Exchange limit start requests sent received (count + 1)
      (.queued .writePending,
        { session with command := none }.queueReply (Command.execute scene.store request).1)
      { scene with
        store := (Command.execute scene.store request).2
        traffic := scene.traffic.executed 1 } := by
  obtain ⟨_, following, same⟩ := exchange.stored _ stored
  obtain rfl := Except.ok.inj same
  have more : requests.take (count + 1) = requests.take count ++ [request] := by
    rw [List.take_add_one, following, Option.toList_some]
  have answers := Command.executeAll_concat start (requests.take count) request
  rw [← exchange.store] at answers
  refine ⟨?_, (fun _ impossible => nomatch impossible), ?_, ?_, ?_, exchange.goesOn, ?_,
    exchange.protocolErrors, exchange.plain, trivial, fun _ => Place.noConfusion, exchange.ended⟩
  · exact (List.getElem?_eq_some_iff.mp following).1
  · have conserved := exchange.conserved
    rw [stored] at conserved
    exact conserved
  · rw [more, answers]
  · have replied := exchange.replied
    simp only [Session.queueReply, more, answers, List.flatMap_append, List.flatMap_singleton,
      ← replied, List.append_assoc]
  · have counted : (scene.traffic.executed 1).commands = scene.traffic.commands + 1 := rfl
    rw [counted, exchange.commands, UInt64.ofNat_add]
    rfl

/-- Writing moves bytes within the replies. -/
theorem flushed {flushed : Session} {answer : Except ConnectionError Session.Flush}
    {socket : Socket}
    (exchange : Exchange limit start requests sent received count
      (.running .writePending, session) scene)
    (written : session.flush scene.socket = (answer, flushed, socket)) :
    Exchange limit start requests sent received count (.running .writePending, flushed)
      { scene with socket := socket } := by
  have conserves := Session.flush_conserves written
  have plain := (Session.flush_plain written exchange.plain).1
  obtain ⟨rfl, rfl⟩ := Session.eq_of_flush written
  refine ⟨exchange.within, exchange.stored, exchange.conserved, exchange.store, ?_,
    exchange.goesOn, exchange.commands, exchange.protocolErrors, plain, trivial,
    fun _ => Place.noConfusion, exchange.ended⟩
  rw [← exchange.replied]
  exact congrArg (received ++ ·) conserves

/-- Every turn keeps the exchange: it executes at most the next request, and all bytes stay where
they belong. -/
theorem turn {before after : Holding} {next : Scene}
    (exchange : Exchange limit start requests sent received count before scene)
    (turn : Turn limit before scene after next)
    (marked : before.2.command.isSome = before.1.executes)
    (areRequests : ∀ request ∈ requests,
      request.IsRequest limit ∧ request.encode.length ≤ limit)
    (split : sent ++ unsent = requests.flatMap Value.encode) :
    ∃ later, count ≤ later ∧ Exchange limit start requests sent received later after next := by
  have areOthers : ∀ request ∈ requests.drop count, request.IsRequest limit :=
    fun request member => (areRequests request (List.mem_of_mem_drop member)).1
  have idleOf : before.1.executes = false → before.2.command = none := Place.idle_of_stored marked
  have idleFilled {session filled : Session} {socket left : Socket}
      {answer : Except ConnectionError Nat} (idle : session.command = none)
      (read : session.fill (limit + 1) socket = (answer, filled, left)) :
      filled.command = none := by
    rw [(Session.eq_of_fill read).1, ← idle]
  have inputEnded := turn.inputEnded_eq
  cases turn with
  | passed session scene before after passage =>
    obtain ⟨fits, stays⟩ := fits_of_passage passage exchange.fits
    exact ⟨count, Nat.le_refl _, exchange.placed after fits fun _ => stays⟩
  | lost session filled scene error socket read =>
    have ended := ((Session.fill_plain read exchange.plain).2 error rfl).1
    have kept := exchange.filled read
    refine ⟨count, Nat.le_refl _, kept.placed .removed trivial fun open_ => ?_⟩
    have same := inputEnded
    rw [open_, ended] at same
    cases same
  | short session filled scene bytes socket read incomplete small =>
    have kept := (exchange.filled read).counted (scene.traffic.received bytes.toUInt64) rfl rfl
    exact ⟨count, Nat.le_refl _,
      kept.placed .readMore ⟨incomplete, kept.fits⟩ fun _ => Place.noConfusion⟩
  | oversized session filled scene bytes socket read incomplete large =>
    have idle := idleFilled (idleOf rfl) read
    rcases Request.decode_stream limit _ areOthers _ _ ((exchange.filled read).remaining idle split)
      with ⟨_, ⟨_, empty⟩ | ⟨first, others, behind, less⟩⟩ | ⟨first, others, more, _, _, complete⟩
    · rw [empty] at large
      exact absurd large (Nat.not_lt_zero _)
    · have member : first ∈ requests :=
        List.mem_of_mem_drop (behind ▸ List.mem_cons_self : first ∈ requests.drop count)
      have bound := (areRequests first member).2
      omega
    · rw [incomplete] at complete
      cases complete
  | malformed session filled scene bytes socket error read refused =>
    have idle := idleFilled (idleOf rfl) read
    rcases Request.decode_stream limit _ areOthers _ _ ((exchange.filled read).remaining idle split)
      with ⟨incomplete, _⟩ | ⟨first, others, more, _, _, complete⟩
    · rw [refused] at incomplete
      cases incomplete
    · rw [refused] at complete
      cases complete
  | decoded session filled scene bytes socket request next read complete =>
    have kept := (exchange.filled read).counted (scene.traffic.received bytes.toUInt64) rfl rfl
    exact ⟨count, Nat.le_refl _, kept.decoded (idleFilled (idleOf rfl) read)
      (fun request member => (areRequests request member).1) split complete⟩
  | executed session scene request stored =>
    exact ⟨count + 1, Nat.le_succ _, exchange.executed stored⟩
  | refused session scene error stored =>
    obtain ⟨_, _, impossible⟩ := exchange.stored _ stored
    cases impossible
  | broken session flushed scene error socket written =>
    have closed := (Session.flush_plain written exchange.plain).2.2 error rfl
    refine ⟨count, Nat.le_refl _,
      (exchange.flushed written).placed .removed trivial fun open_ => ?_⟩
    have same := inputEnded
    rw [open_, exchange.ended closed] at same
    cases same
  | blocked session flushed scene bytes socket written =>
    have kept := (exchange.flushed written).counted (scene.traffic.sent bytes.toUInt64) rfl rfl
    exact ⟨count, Nat.le_refl _, kept.placed .awaitWritable trivial fun _ => Place.noConfusion⟩
  | ended session flushed scene bytes socket written closing =>
    rw [(exchange.flushed written).goesOn] at closing
    cases closing
  | answered session flushed scene bytes socket written goesOn =>
    have empty := (Session.flush_plain written exchange.plain).2.1 bytes rfl
    have kept := (exchange.flushed written).counted (scene.traffic.sent bytes.toUInt64) rfl rfl
    exact ⟨count, Nat.le_refl _, kept.placed .rearm empty fun _ => Place.noConfusion⟩

end Exchange

end KeyValueServer
