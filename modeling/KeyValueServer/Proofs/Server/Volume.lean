import KeyValueServer.Proofs.Server.Accounting
import KeyValueServer.Proofs.Server.Outcome
import KeyValueServer.Proofs.Session.Conservation

/-!
# How many bytes the counters count

A job that reads fills the input of its session from the socket, and a job that writes flushes the
output into it. Both calls may move bytes and fail behind them: the input ends, a write takes
nothing, the network breaks. The bytes that were moved stay moved, in the input or with the peer,
but only a call that does not fail says how many they are. So the counters of bytes know about the
calls that did not fail, and about no others.
-/

namespace KeyValueServer

/-- The two ways of bytes through a connection. -/
inductive Direction where
  | inward
  | outward
  deriving DecidableEq, Repr

/-- The counter of the bytes that went one way. -/
def Traffic.bytes (traffic : Traffic) : Direction → UInt64
  | .inward => traffic.bytesRead
  | .outward => traffic.bytesWritten

namespace Endpoint.Record

/-- The bytes that a call added to the input. -/
def appended (record : Record) : List UInt8 :=
  match record.action with
  | .fill _ => record.after.session.input.drop record.before.session.input.length
  | _ => []

/-- The bytes that a call moved one way. -/
def moved (record : Record) : Direction → List UInt8
  | .inward => record.appended
  | .outward => record.accepted

/-- Whether a call failed. -/
def isBroken (record : Record) : Bool :=
  match record.answer with
  | .filled (.error _) | .flushed (.error _) => true
  | _ => false

/-- The calls among others that did not fail. -/
def succeeded (records : List Record) : List Record := records.filter fun record => !record.isBroken

/-- How many bytes calls moved one way. -/
def volume (direction : Direction) (records : List Record) : Nat :=
  (records.map fun record => (record.moved direction).length).sum

variable {record : Record} {count : Nat}

/-- Filling says how many bytes it has added to the input. -/
theorem Exact.count_of_filled (exact_ : record.Exact)
    (answered : record.answer = .filled (.ok count)) : count = record.appended.length := by
  cases exact_ with
  | fill before after limit answer content bounded appended taken untouched reported =>
    have input : after.session.input = before.session.input ++ content :=
      congrArg Session.input appended
    rw [Record.appended]
    dsimp only
    rw [input, List.drop_left]
    exact reported count (Answer.filled.inj answered)
  | pending | unfinished | refused | request | take | reject | discard | queue | flush | arrive
  | network => cases answered

/-- Flushing says how many bytes it has handed to the socket. -/
theorem Exact.count_of_flushed (exact_ : record.Exact)
    (answered : record.answer = .flushed (.ok (.done count)) ∨
      record.answer = .flushed (.ok (.blocked count))) : count = record.accepted.length := by
  cases exact_ with
  | flush before after answer content kept split handed untouched reported finished =>
    rw [Record.accepted]
    dsimp only
    rw [handed, List.drop_left]
    exact reported count (answered.imp Answer.flushed.inj Answer.flushed.inj)
  | fill | pending | unfinished | refused | request | take | reject | discard | queue | arrive
  | network => rcases answered with answered | answered <;> cases answered

/-- Calls moved what those moved that failed and those that did not. -/
theorem volume_split (direction : Direction) (records : List Record) :
    volume direction records =
      volume direction (succeeded records) + volume direction (records.filter isBroken) := by
  induction records with
  | nil => rfl
  | cons record records inductionHypothesis =>
    simp only [volume, succeeded] at inductionHypothesis ⊢
    cases broken : record.isBroken <;>
      simp only [List.filter_cons, broken, List.map_cons, List.sum_cons, inductionHypothesis,
        Bool.not_true, Bool.not_false, Bool.false_eq_true, ↓reduceIte] <;> omega

/-- Of a call that failed no bytes are told. -/
theorem volume_of_broken (direction : Direction) (broken : record.isBroken = true) :
    volume direction (succeeded [record]) = 0 := by
  simp [volume, succeeded, broken]

/-- Of a call that did not fail all bytes are told that it moved. -/
theorem volume_of_succeeded (direction : Direction) (whole : record.isBroken = false) :
    volume direction (succeeded [record]) = (record.moved direction).length := by
  simp [volume, succeeded, whole]

end Endpoint.Record

open Endpoint (Record)

/-- Bytes that came in are counted as what the filling moved that says how many they are. -/
theorem Traffic.bytes_received (traffic : Traffic) (direction : Direction) {record : Record}
    {limit count : Nat} (fills : record.action = .fill limit)
    (said : count = record.appended.length) :
    (traffic.received count.toUInt64).bytes direction =
      traffic.bytes direction + UInt64.ofNat (record.moved direction).length := by
  cases direction with
  | inward =>
    rw [Record.moved, ← said]
    rfl
  | outward =>
    rw [Record.moved, Record.accepted, fills]
    exact (UInt64.add_zero _).symm

/-- Bytes that went out are counted as what the flushing moved that says how many they are. -/
theorem Traffic.bytes_sent (traffic : Traffic) (direction : Direction) {record : Record}
    {count : Nat} (flushes : record.action = .flush) (said : count = record.accepted.length) :
    (traffic.sent count.toUInt64).bytes direction =
      traffic.bytes direction + UInt64.ofNat (record.moved direction).length := by
  cases direction with
  | inward =>
    rw [Record.moved, Record.appended, flushes]
    exact (UInt64.add_zero _).symm
  | outward =>
    rw [Record.moved, ← said]
    rfl

namespace Server

/-- The call to the socket that the job of a stage makes. -/
def socketCalls (server : Server) (stage : Stage) (session : Session) : List Record :=
  let endpoint : Endpoint := ⟨session, server.socket session.id⟩
  if server.registries.stageOf session.id = some stage then
    match stage with
    | .readRegistered =>
      match server.readLimit with
      | .ok limit => [endpoint.record (.fill limit)]
      | .error _ => []
    | .processing => []
    | .writePending => [endpoint.record .flush]
  else []

/-- The call to the socket that the job has made that an event ends. -/
def callsOf (server : Server) (event : Event) : List Record :=
  match event.ended server with
  | some (stage, session) => server.socketCalls stage session
  | none => []

/-- The calls to sockets that jobs have made in the course of a run. -/
def calls (server : Server) (events : List Event) : List Record := server.history callsOf events

variable (server : Server) (session : Session) (direction : Direction)

/-! ### What does not count bytes -/

/-- A connection that ends counts no bytes. -/
theorem bytes_close :
    (server.close session).traffic.bytes direction = server.traffic.bytes direction := by
  simp only [close, drop, setSocket, unregister]
  split <;> cases direction <;> rfl

/-- A pool that moves counts nothing. -/
theorem traffic_setPool (stage : Stage) (pool : JobPool Session) :
    (server.setPool stage pool).traffic = server.traffic := by
  cases stage <;> rfl

/-- A session that is queued counts no bytes. -/
theorem bytes_submit (stage : Stage) :
    (server.submit stage session).traffic.bytes direction = server.traffic.bytes direction := by
  unfold submit
  split
  · rw [traffic_setPool]
  · exact server.bytes_close session direction

/-- A session that changes its stage counts no bytes. -/
theorem bytes_advance (before after : Stage) :
    (server.advance session before after).traffic.bytes direction =
      server.traffic.bytes direction := by
  unfold advance
  split
  · rfl
  · cases after with
    | readRegistered => rfl
    | processing => exact bytes_submit _ session direction .processing
    | writePending => exact bytes_submit _ session direction .writePending

/-- A session that is parked counts no bytes. -/
theorem bytes_park (registers : Bool) (parked : Parked) :
    (server.park registers parked).traffic.bytes direction = server.traffic.bytes direction := by
  cases registers
  · exact server.bytes_close parked.session direction
  · rfl

/-- What a message asks for counts no bytes. -/
theorem bytes_apply (registers : Bool) (message : Control) :
    (server.apply registers message).traffic.bytes direction = server.traffic.bytes direction := by
  cases message with
  | add session =>
    simp only [apply]
    split
    · exact server.bytes_close session direction
    · exact bytes_park _ direction registers _
  | readMore session => exact server.bytes_park direction registers _
  | rearm session =>
    simp only [apply]
    split
    · exact server.bytes_park direction registers _
    · exact server.bytes_submit session direction .readRegistered
  | awaitWritable session => exact server.bytes_park direction registers _
  | remove session => exact server.bytes_close session direction

/-- Sessions that are closed move no bytes. -/
theorem bytes_closeAll (sessions : List Session) :
    (server.closeAll sessions).traffic.bytes direction = server.traffic.bytes direction := by
  unfold closeAll
  induction sessions generalizing server with
  | nil => rfl
  | cons session sessions inductionHypothesis =>
    exact (inductionHypothesis (server.close session)).trans (server.bytes_close session direction)

/-- An event that ends no job counts no bytes. -/
theorem bytes_of_idle {event : Event} (idle : event.ended server = none) :
    (server.step event).traffic.bytes direction = server.traffic.bytes direction := by
  cases event with
  | connect peer =>
    simp only [step]
    split
    · obtain same | ⟨_, same⟩ | ⟨_, same⟩ := server.accept_cases peer
      · rw [same]
        cases direction <;> rfl
      · rw [same]
        cases direction <;> rfl
      · rw [same]
        cases direction <;> rfl
    · rfl
  | arrive | endInput | allow | closePeer | receive =>
    simp only [step, onSocket]
    split <;> rfl
  | applyControl registers =>
    simp only [step, applyControl]
    split
    · split
      · rfl
      · exact bytes_apply _ direction registers _
    · rfl
  | ready id =>
    simp only [step, ready]
    split
    · split
      · rfl
      · split <;> exact bytes_submit _ _ direction _
    · rfl
  | start stage =>
    simp only [step, start]
    split
    · rfl
    · rw [traffic_setPool]
  | finish stage index =>
    have missing : (server.pool stage).running[index]? = none := by
      simpa [Event.ended] using idle
    simp only [step, finish, missing]
  | trigger => rfl
  | stopAccepting =>
    simp only [step]
    split <;> rfl
  | stopPolling =>
    simp only [step]
    split
    · exact server.bytes_closeAll direction (server.parked.values.map Parked.session)
    · rfl
  | closePool stage =>
    simp only [step]
    split
    · rw [traffic_setPool]
    · rfl
  | complete =>
    simp only [step]
    split
    · exact server.bytes_closeAll direction (server.control.map Control.session)
    · rfl

/-! ### What counts bytes -/

/-- Decoding counts no bytes. -/
theorem bytes_decodeNext :
    (server.decodeNext session).2.traffic.bytes direction = server.traffic.bytes direction := by
  unfold decodeNext
  split
  · rfl
  · exact server.bytes_advance _ direction .readRegistered .processing
  · dsimp only
    split
    · rfl
    · exact server.bytes_advance _ direction .readRegistered .processing

/-- Executing a request, or refusing one, counts no bytes. -/
theorem bytes_process :
    (server.process session).2.traffic.bytes direction = server.traffic.bytes direction := by
  unfold process
  dsimp only
  split
  · rfl
  · refine (bytes_advance _ _ direction .processing .writePending).trans ?_
    cases direction <;> rfl
  · refine (bytes_advance _ _ direction .processing .writePending).trans ?_
    cases direction <;> rfl

/-- A job that reads counts the bytes that it added to the input, unless reading failed. -/
theorem bytes_read {limit : Nat} (limited : server.readLimit = .ok limit) :
    (server.read session).2.traffic.bytes direction =
      server.traffic.bytes direction + UInt64.ofNat (Record.volume direction (Record.succeeded
        [Endpoint.record ⟨session, server.socket session.id⟩ (.fill limit)])) := by
  have exact_ := Endpoint.exact_record ⟨session, server.socket session.id⟩ (.fill limit)
  unfold read
  rw [limited]
  dsimp only
  rcases filled : session.fill limit (server.socket session.id) with ⟨answer, next, socket⟩
  have answered : (Endpoint.record ⟨session, server.socket session.id⟩ (.fill limit)).answer =
      .filled answer := by
    rw [Endpoint.record, Endpoint.perform, filled]
  cases answer with
  | error error =>
    rw [Record.volume_of_broken direction (by rw [Record.isBroken, answered])]
    exact (UInt64.add_zero _).symm
  | ok count =>
    rw [Record.volume_of_succeeded direction (by rw [Record.isBroken, answered])]
    exact (bytes_decodeNext _ next direction).trans
      (server.traffic.bytes_received direction rfl (exact_.count_of_filled answered))

/-- A job that writes counts the bytes that the socket took, unless writing failed. -/
theorem bytes_write :
    (server.write session).2.traffic.bytes direction =
      server.traffic.bytes direction + UInt64.ofNat (Record.volume direction (Record.succeeded
        [Endpoint.record ⟨session, server.socket session.id⟩ .flush])) := by
  have exact_ := Endpoint.exact_record ⟨session, server.socket session.id⟩ .flush
  unfold write
  rcases flushed : session.flush (server.socket session.id) with ⟨answer, next, socket⟩
  have answered : (Endpoint.record ⟨session, server.socket session.id⟩ .flush).answer =
      .flushed answer := by
    rw [Endpoint.record, Endpoint.perform, flushed]
  cases answer with
  | error error =>
    rw [Record.volume_of_broken direction (by rw [Record.isBroken, answered])]
    exact (UInt64.add_zero _).symm
  | ok flush =>
    rw [Record.volume_of_succeeded direction (by rw [Record.isBroken, answered])]
    cases flush with
    | blocked count =>
      exact server.traffic.bytes_sent direction rfl (exact_.count_of_flushed (.inr answered))
    | done count =>
      have sent := server.traffic.bytes_sent direction rfl
        (exact_.count_of_flushed (.inl answered))
      dsimp only
      split
      · exact sent
      · exact (bytes_advance _ next direction .writePending .readRegistered).trans sent

/-- A job counts the bytes that its call to the socket moved, unless the call failed. -/
theorem bytes_runJob (stage : Stage) :
    (server.runJob stage session).2.traffic.bytes direction =
      server.traffic.bytes direction + UInt64.ofNat (Record.volume direction
        (Record.succeeded (server.socketCalls stage session))) := by
  unfold runJob socketCalls
  dsimp only
  by_cases agrees : server.registries.stageOf session.id = some stage
  · rw [if_pos agrees, if_pos agrees]
    cases stage with
    | readRegistered =>
      cases limited : server.readLimit with
      | error fault =>
        have stops : server.read session = server.fail session fault := by rw [read, limited]
        dsimp only
        rw [stops]
        exact (UInt64.add_zero _).symm
      | ok limit => exact server.bytes_read session direction limited
    | processing =>
      exact (server.bytes_process session direction).trans (UInt64.add_zero _).symm
    | writePending => exact server.bytes_write session direction
  · rw [if_neg agrees, if_neg agrees]
    exact (UInt64.add_zero _).symm

/-- A step counts the bytes that the call behind it moved, unless the call failed. -/
theorem bytes_step (event : Event) :
    (server.step event).traffic.bytes direction =
      server.traffic.bytes direction + UInt64.ofNat (Record.volume direction
        (Record.succeeded (server.callsOf event))) := by
  cases ends : event.ended server with
  | none =>
    rw [callsOf, ends]
    exact (server.bytes_of_idle direction ends).trans (UInt64.add_zero _).symm
  | some job =>
    obtain ⟨stage, session⟩ := job
    cases event with
    | finish place index =>
      obtain ⟨ran, found, same⟩ := Option.map_eq_some_iff.mp ends
      obtain ⟨rfl, rfl⟩ := Prod.mk.inj same
      rw [callsOf, ends]
      refine Eq.trans ?_ (server.bytes_runJob ran direction place)
      simp only [step, finish, found]
      split
      · rfl
      · rw [traffic_setPool]
    | connect | arrive | endInput | allow | closePeer | receive | applyControl | ready | start
    | trigger | stopAccepting | stopPolling | closePool | complete => cases ends

/-- A run counts the bytes that the calls in its course moved, apart from those that failed. -/
theorem bytes_run (events : List Event) :
    (server.run events).traffic.bytes direction =
      server.traffic.bytes direction + UInt64.ofNat (Record.volume direction
        (Record.succeeded (server.calls events))) := by
  induction events generalizing server with
  | nil => exact (UInt64.add_zero _).symm
  | cons event events inductionHypothesis =>
    have others := inductionHypothesis (server.step event)
    rw [server.bytes_step direction event, UInt64.add_assoc, ← UInt64.ofNat_add] at others
    refine others.trans ?_
    simp only [calls, history, Record.volume, Record.succeeded, List.filter_append, List.map_append,
      List.sum_append]

/-- Words agree that count a number and a larger one, if the difference is a multiple of 2⁶⁴. -/
theorem ofNat_eq_ofNat_add_iff (number more : Nat) :
    UInt64.ofNat number = UInt64.ofNat (number + more) ↔ 2 ^ 64 ∣ more := by
  rw [← UInt64.toNat_inj, UInt64.toNat_ofNat', UInt64.toNat_ofNat']
  omega

/-- After every run of a server that was launched, with whatever sockets, the counter of bytes read
is the number of bytes that reading jobs have added to inputs in calls that did not fail, modulo
2⁶⁴, and the counter of bytes written that of the bytes that sockets have taken from writing jobs in
such calls. A counter agrees with all bytes that were moved exactly if those that were moved in
calls that failed are a multiple of 2⁶⁴. -/
theorem counters_miss_failed_calls {host : Host} {config : Config} {taken : Bool} {server : Server}
    (launched : launch host config taken = .ok server) (events : List Event) :
    (server.run events).traffic.bytesRead =
        UInt64.ofNat (Record.volume .inward (Record.succeeded (server.calls events))) ∧
      (server.run events).traffic.bytesWritten =
        UInt64.ofNat (Record.volume .outward (Record.succeeded (server.calls events))) ∧
      ∀ direction, (server.run events).traffic.bytes direction =
          UInt64.ofNat (Record.volume direction (server.calls events)) ↔
        2 ^ 64 ∣ Record.volume direction ((server.calls events).filter Record.isBroken) := by
  have counted (direction : Direction) : (server.run events).traffic.bytes direction =
      UInt64.ofNat (Record.volume direction
        (Record.succeeded (server.calls events))) := by
    have zero : server.traffic.bytes direction = 0 := by
      obtain ⟨_, store, _, rfl⟩ := eq_fresh_of_launch launched
      cases direction <;> rfl
    rw [bytes_run, zero, UInt64.zero_add]
  refine ⟨counted .inward, counted .outward, fun direction => ?_⟩
  rw [counted, Record.volume_split direction (server.calls events)]
  exact ofNat_eq_ofNat_add_iff _ _

/-- A client sends a request and goes away while the reply is written, of which two bytes are
taken. -/
def replyCutShort : List Event :=
  [.connect (Address.loopback 1), .applyControl true, .arrive ⟨1⟩ (.bytes [0x2a, 0x30, 0x0d, 0x0a]),
    .ready ⟨1⟩, .start .readRegistered, .finish .readRegistered 0, .start .processing,
    .finish .processing 0, .allow ⟨1⟩ (.take 2), .closePeer ⟨1⟩, .start .writePending,
    .finish .writePending 0]

/-- The standard server counts the bytes of the request, and none of the reply. -/
theorem standard_server_counts_request : ∃ server,
    launch Host.loopback Config.standard false = .ok server ∧
      (server.run replyCutShort).traffic.bytesRead = 4 ∧
      (server.run replyCutShort).traffic.bytesWritten = 0 ∧
      ((server.run replyCutShort).traffic.bytesWritten = 2 ↔
        2 ^ 64 ∣ Record.volume .outward ((server.calls replyCutShort).filter Record.isBroken)) := by
  have launched : launch Host.loopback Config.standard false = .ok _ := rfl
  obtain ⟨read, written, exact_⟩ := counters_miss_failed_calls launched replyCutShort
  exact ⟨_, launched, read.trans rfl, written.trans rfl, exact_ .outward⟩

/-- A client sends the front of a request and ends its output, before the server reads. -/
def frontAndEnd : List Event :=
  [.connect (Address.loopback 1), .arrive ⟨1⟩ (.bytes [0x47, 0x45, 0x54]), .endInput ⟨1⟩,
    .applyControl true, .ready ⟨1⟩, .start .readRegistered, .finish .readRegistered 0]

/-- Three bytes are read in one run and two are written in another, and the counters say that there
were none. -/
theorem failed_calls_are_not_counted : ∃ server,
    launch Host.loopback Config.standard false = .ok server ∧
      Record.volume .inward (server.calls frontAndEnd) = 3 ∧
      (server.run frontAndEnd).traffic.bytesRead = 0 ∧
      Record.volume .outward (server.calls replyCutShort) = 2 ∧
      (server.run replyCutShort).traffic.bytesWritten = 0 := by
  have launched : launch Host.loopback Config.standard false = .ok _ := rfl
  exact ⟨_, launched, rfl, rfl, rfl, rfl⟩

end Server

end KeyValueServer
