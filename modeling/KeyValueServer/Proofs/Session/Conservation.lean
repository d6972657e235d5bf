import KeyValueServer.Proofs.Request.Extent
import KeyValueServer.Proofs.Session

/-!
# No byte of a connection is lost

The calls of a session and what the network does between them, in any order. Two streams of bytes
go through a connection. What the peer sends is read into the input and leaves it as requests, or
is dropped; what is replied is put into the output and leaves it for the socket. Both streams keep
their order, and at every moment a stream is what has left it, followed by what is on its way. No
failure of the socket changes this, wherever it interrupts a call.

`Exact` says of each call what it may change and what it answers, so the two statements about
streams follow call by call.
-/

namespace KeyValueServer

/-- One end of a connection. -/
structure Endpoint where
  session : Session
  socket : Socket

namespace Endpoint

/-- What can happen at one end of a connection: a call of the session's owner, or something that
the network does. -/
inductive Action where
  /-- Reads into the input. -/
  | fill (limit : Nat)
  /-- Takes a request from the front of the input. -/
  | parse (limit : Nat)
  /-- Takes what waits for execution. -/
  | take
  /-- Puts a reason in the place of a request. -/
  | reject (error : Request.Error)
  /-- Drops the input. -/
  | discard
  /-- Adds a reply to the output. -/
  | queue (reply : Value)
  /-- Writes the output. -/
  | flush
  /-- A later read meets this arrival. -/
  | arrive (arrival : Arrival)
  /-- The peer ends its output. -/
  | endInput
  /-- A later write meets this allowance. -/
  | allow (allowance : Allowance)
  /-- The peer receives what was written for it. -/
  | receive
  /-- The peer closes its end. -/
  | closePeer

/-- What a call answers. -/
inductive Answer where
  | silent
  | filled (answer : Except ConnectionError Nat)
  | parsed (answer : Except Fault Bool)
  | taken (command : Option (Except Request.Error Value))
  | flushed (answer : Except ConnectionError Session.Flush)

/-- What an action answers and changes. A call that stops with a fault changes nothing. -/
def perform (endpoint : Endpoint) : Action → Answer × Endpoint
  | .fill limit =>
    let (answer, session, socket) := endpoint.session.fill limit endpoint.socket
    (.filled answer, ⟨session, socket⟩)
  | .parse limit =>
    match endpoint.session.parseNext limit with
    | .error fault => (.parsed (.error fault), endpoint)
    | .ok (found, session) => (.parsed (.ok found), { endpoint with session := session })
  | .take =>
    let (command, session) := endpoint.session.takeCommand
    (.taken command, { endpoint with session := session })
  | .reject error => (.silent, { endpoint with session := endpoint.session.reject error })
  | .discard => (.silent, { endpoint with session := endpoint.session.discardInput })
  | .queue reply => (.silent, { endpoint with session := endpoint.session.queueReply reply })
  | .flush =>
    let (answer, session, socket) := endpoint.session.flush endpoint.socket
    (.flushed answer, ⟨session, socket⟩)
  | .arrive arrival =>
    let arrivals := endpoint.socket.arrivals ++ [arrival]
    (.silent, { endpoint with socket := { endpoint.socket with arrivals := arrivals } })
  | .endInput => (.silent, { endpoint with socket := endpoint.socket.endInput })
  | .allow allowance =>
    let allowances := endpoint.socket.allowances ++ [allowance]
    (.silent, { endpoint with socket := { endpoint.socket with allowances := allowances } })
  | .receive => (.silent, { endpoint with socket := endpoint.socket.receive.2 })
  | .closePeer => (.silent, { endpoint with socket := endpoint.socket.closePeer.2 })

/-- An action with what was seen of it. -/
structure Record where
  before : Endpoint
  action : Action
  answer : Answer
  after : Endpoint

/-- The record of an action. -/
def record (endpoint : Endpoint) (action : Action) : Record :=
  ⟨endpoint, action, (endpoint.perform action).1, (endpoint.perform action).2⟩

/-- The records of actions in their order. -/
def trace (endpoint : Endpoint) : List Action → List Record
  | [] => []
  | action :: actions =>
    endpoint.record action :: trace (endpoint.perform action).2 actions

/-- The endpoint behind actions. -/
def run (endpoint : Endpoint) (actions : List Action) : Endpoint :=
  actions.foldl (fun endpoint action => (endpoint.perform action).2) endpoint

namespace Record

/-- The bytes that the peer sent. -/
def sent (record : Record) : List UInt8 :=
  match record.action with
  | .arrive arrival => arrival.content
  | _ => []

/-- The slice by which a request, or the decision to drop the input, shortened the input. -/
def removed (record : Record) : List UInt8 :=
  let before := record.before.session.input
  match record.action with
  | .parse _ | .discard => before.take (before.length - record.after.session.input.length)
  | _ => []

/-- The bytes of a reply that was queued. -/
def queued (record : Record) : List UInt8 :=
  match record.action with
  | .queue reply => reply.encode
  | _ => []

/-- The bytes that a call handed to the socket. -/
def accepted (record : Record) : List UInt8 :=
  match record.action with
  | .flush => record.after.socket.delivered.drop record.before.socket.delivered.length
  | _ => []

/-- What each action may change, and what it answers. -/
inductive Exact : Record → Prop
  /-- Filling appends what it takes from the front of the socket, and no more than it may. Unless
  it fails it says how many bytes these are. -/
  | fill (before after : Endpoint) (limit : Nat) (answer : Except ConnectionError Nat)
      (content : List UInt8) (bounded : content.length ≤ limit)
      (appended : after.session = { before.session with input := before.session.input ++ content })
      (taken : before.socket.unread = content ++ after.socket.unread)
      (untouched : after.socket.delivered = before.socket.delivered)
      (reported : ∀ count, answer = .ok count → count = content.length) :
      Exact ⟨before, .fill limit, .filled answer, after⟩
  /-- Where a request waits for execution none is decoded. -/
  | pending (before : Endpoint) (limit : Nat) (waits : before.session.command.isSome = true) :
      Exact ⟨before, .parse limit, .parsed (.error .commandPending), before⟩
  /-- A request that is not complete stays in the input. -/
  | unfinished (before : Endpoint) (limit : Nat) (idle : before.session.command = none)
      (read : Request.decode limit before.session.input = .incomplete) :
      Exact ⟨before, .parse limit, .parsed (.ok false), before⟩
  /-- What is refused stays in the input, and the reason is stored. -/
  | refused (before : Endpoint) (limit : Nat) (error : Request.Error)
      (idle : before.session.command = none)
      (read : Request.decode limit before.session.input = .refused error) :
      Exact ⟨before, .parse limit, .parsed (.ok true),
        { before with session := { before.session with command := some (.error error) } }⟩
  /-- A request that is stored takes with it as many bytes as it was read from. -/
  | request (before : Endpoint) (limit : Nat) (value : Value) (next : Request.Cursor)
      (slice : List UInt8) (idle : before.session.command = none)
      (read : Request.decode limit before.session.input = .complete value next)
      (split : before.session.input = slice ++ next.ahead) (size : slice.length = next.position) :
      Exact ⟨before, .parse limit, .parsed (.ok true),
        { before with
          session := { before.session with input := next.ahead, command := some (.ok value) } }⟩
  | take (before : Endpoint) :
      Exact ⟨before, .take, .taken before.session.command,
        { before with session := { before.session with command := none } }⟩
  | reject (before : Endpoint) (error : Request.Error) :
      Exact ⟨before, .reject error, .silent,
        { before with session := { before.session with command := some (.error error) } }⟩
  | discard (before : Endpoint) :
      Exact ⟨before, .discard, .silent,
        { before with session := { before.session with input := [] } }⟩
  | queue (before : Endpoint) (reply : Value) :
      Exact ⟨before, .queue reply, .silent,
        { before with
          session := { before.session with output := before.session.output ++ reply.encode } }⟩
  /-- Flushing hands the front of the output to the socket. Unless it fails it says how many bytes
  these are, and it is done exactly when no output is left. -/
  | flush (before after : Endpoint) (answer : Except ConnectionError Session.Flush)
      (content : List UInt8)
      (kept : after.session = { before.session with output := after.session.output })
      (split : before.session.output = content ++ after.session.output)
      (handed : after.socket.delivered = before.socket.delivered ++ content)
      (untouched : after.socket.unread = before.socket.unread)
      (reported : ∀ count, answer = .ok (.done count) ∨ answer = .ok (.blocked count) →
        count = content.length)
      (finished : (∃ count, answer = .ok (.done count)) ↔ after.session.output = []) :
      Exact ⟨before, .flush, .flushed answer, after⟩
  | arrive (before : Endpoint) (arrival : Arrival) (socket : Socket)
      (unread : socket.unread = before.socket.unread ++ arrival.content) :
      Exact ⟨before, .arrive arrival, .silent, { before with socket := socket }⟩
  /-- Nothing else that the network does adds or takes a byte. -/
  | network (before : Endpoint) (action : Action) (socket : Socket)
      (elsewhere : action = .endInput ∨ (∃ allowance, action = .allow allowance) ∨
        action = .receive ∨ action = .closePeer)
      (untouched : socket.unread = before.socket.unread) :
      Exact ⟨before, action, .silent, { before with socket := socket }⟩

end Record

/-- Decoding does what its record may say. -/
theorem exact_parse (endpoint : Endpoint) (limit : Nat) :
    (endpoint.record (.parse limit)).Exact := by
  cases waits : endpoint.session.command with
  | some command =>
    have stops : endpoint.session.parseNext limit = .error .commandPending := by
      rw [Session.parseNext, waits, Option.isSome_some, if_pos rfl]
    rw [record, perform, stops]
    exact .pending endpoint limit (Option.isSome_iff_exists.mpr ⟨command, waits⟩)
  | none =>
    have goesOn := Session.parseNext_eq endpoint.session limit waits
    rw [record, perform, goesOn]
    cases read : Request.decode limit endpoint.session.input with
    | incomplete => exact .unfinished endpoint limit waits read
    | refused error => exact .refused endpoint limit error waits read
    | complete value next =>
      obtain ⟨slice, _, split, size, _⟩ := Request.decode_extent read
      exact .request endpoint limit value next slice waits read split size.symm

/-- Every action does what its record may say. -/
theorem exact_record (endpoint : Endpoint) (action : Action) : (endpoint.record action).Exact := by
  cases action with
  | fill limit =>
    rcases filled : endpoint.session.fill limit endpoint.socket with ⟨answer, session, socket⟩
    obtain ⟨appended, rest⟩ := Session.eq_of_fill filled
    rw [record, perform, filled]
    refine .fill endpoint ⟨session, socket⟩ limit answer _ (endpoint.socket.read_bounded limit)
      appended ?_ ?_ ?_
    · rw [← endpoint.socket.read_conserves limit, ← rest]
    · rw [rest]
      rfl
    · rintro count rfl
      exact Session.count_of_fill filled
  | parse limit => exact exact_parse endpoint limit
  | take => exact .take endpoint
  | reject error => exact .reject endpoint error
  | discard => exact .discard endpoint
  | queue reply => exact .queue endpoint reply
  | flush =>
    rcases written : endpoint.session.flush endpoint.socket with ⟨answer, session, socket⟩
    obtain ⟨kept, _⟩ := Session.eq_of_flush written
    obtain ⟨content, split, rest, reported⟩ := Session.taken_of_flush written
    rw [record, perform, written]
    refine .flush endpoint ⟨session, socket⟩ answer content ?_ split ?_ ?_ reported
      (Session.flush_done_iff written)
    · rw [kept]
    · rw [rest]
    · rw [rest]
      rfl
  | arrive arrival =>
    refine .arrive endpoint arrival _ ?_
    rw [Socket.unread, List.flatMap_append, List.flatMap_singleton]
    rfl
  | endInput => exact .network endpoint .endInput _ (.inl rfl) rfl
  | allow allowance => exact .network endpoint _ _ (.inr (.inl ⟨allowance, rfl⟩)) rfl
  | receive => exact .network endpoint .receive _ (.inr (.inr (.inl rfl))) rfl
  | closePeer => exact .network endpoint .closePeer _ (.inr (.inr (.inr rfl))) rfl

/-- What is removed is what the input began with. -/
theorem take_removed {before slice after : List UInt8} (split : before = slice ++ after) :
    before.take (before.length - after.length) = slice := by
  rw [split, List.length_append, Nat.add_sub_cancel, List.take_left]

variable {seen : Record}

/-- An action leaves the bytes from the peer in their order. -/
theorem Record.Exact.input_conserved (exact_ : seen.Exact) :
    seen.before.session.input ++ seen.before.socket.unread ++ seen.sent =
      seen.removed ++ (seen.after.session.input ++ seen.after.socket.unread) := by
  cases exact_ with
  | fill before after limit answer content bounded appended taken untouched reported =>
    simp only [sent, removed, appended, taken, List.append_nil, List.nil_append, List.append_assoc]
  | request before limit value next slice idle read split size =>
    simp only [sent, removed, take_removed split, List.append_nil]
    rw [split, List.append_assoc]
  | flush before after answer content kept split handed untouched reported finished =>
    have same := congrArg Session.input kept
    simp only [sent, removed, same, untouched, List.append_nil, List.nil_append]
  | arrive before arrival socket unread =>
    simp only [sent, removed, unread, List.nil_append, List.append_assoc]
  | network before action socket elsewhere untouched =>
    rcases elsewhere with rfl | ⟨allowance, rfl⟩ | rfl | rfl <;>
      simp only [sent, removed, untouched, List.append_nil, List.nil_append]
  | pending | unfinished | refused | take | reject | discard | queue => simp [sent, removed]

/-- An action leaves the bytes for the peer in their order. -/
theorem Record.Exact.output_conserved (exact_ : seen.Exact) :
    seen.before.session.output ++ seen.queued = seen.accepted ++ seen.after.session.output := by
  cases exact_ with
  | fill before after limit answer content bounded appended taken untouched reported =>
    have same := congrArg Session.output appended
    simp only [queued, accepted, same, List.append_nil, List.nil_append]
  | flush before after answer content kept split handed untouched reported finished =>
    simp only [queued, accepted, handed, List.drop_left, List.append_nil]
    exact split
  | network before action socket elsewhere untouched =>
    rcases elsewhere with rfl | ⟨allowance, rfl⟩ | rfl | rfl <;>
      simp only [queued, accepted, List.append_nil, List.nil_append]
  | pending | unfinished | refused | request | take | reject | discard | queue | arrive =>
    simp [queued, accepted]

/-- What every action conserves is conserved along all of them. -/
theorem conserved_along (contents : Endpoint → List UInt8) (entering leaving : Record → List UInt8)
    (each : ∀ seen : Record, seen.Exact →
      contents seen.before ++ entering seen = leaving seen ++ contents seen.after)
    (endpoint : Endpoint) (actions : List Action) :
    contents endpoint ++ (endpoint.trace actions).flatMap entering =
      (endpoint.trace actions).flatMap leaving ++ contents (endpoint.run actions) := by
  induction actions generalizing endpoint with
  | nil => exact List.append_nil _
  | cons action actions inductionHypothesis =>
    have first := each _ (endpoint.exact_record action)
    have others := inductionHypothesis (endpoint.perform action).2
    rw [trace, List.flatMap_cons, List.flatMap_cons, ← List.append_assoc]
    calc contents endpoint ++ entering (endpoint.record action) ++
          ((endpoint.perform action).2.trace actions).flatMap entering
        = leaving (endpoint.record action) ++ (contents (endpoint.perform action).2 ++
          ((endpoint.perform action).2.trace actions).flatMap entering) := by
            rw [← List.append_assoc]
            exact congrArg (· ++ _) first
      _ = leaving (endpoint.record action) ++
          ((endpoint.perform action).2.trace actions).flatMap leaving ++
          contents (endpoint.run (action :: actions)) := by
            rw [others, List.append_assoc]
            rfl

/-- All records say what was done. -/
theorem exact_trace (endpoint : Endpoint) (actions : List Action) :
    ∀ seen ∈ endpoint.trace actions, seen.Exact := by
  induction actions generalizing endpoint with
  | nil => exact List.forall_mem_nil _
  | cons action actions inductionHypothesis =>
    intro seen member
    rw [trace] at member
    obtain rfl | later := List.mem_cons.mp member
    · exact endpoint.exact_record action
    · exact inductionHypothesis _ seen later

/-- Whatever the owner of a session calls and whatever the network does, the bytes that the peer
sent are those that were removed from the input, then the input, then those that wait in the socket;
and the replies that were queued are the bytes that the socket took, then the output. Each call
changes what it has to and answers what it did. -/
theorem no_byte_is_lost (endpoint : Endpoint) (actions : List Action) :
    endpoint.session.input ++ endpoint.socket.unread ++
          (endpoint.trace actions).flatMap Record.sent =
        (endpoint.trace actions).flatMap Record.removed ++
          ((endpoint.run actions).session.input ++ (endpoint.run actions).socket.unread) ∧
      endpoint.session.output ++ (endpoint.trace actions).flatMap Record.queued =
        (endpoint.trace actions).flatMap Record.accepted ++
          (endpoint.run actions).session.output ∧
      ∀ seen ∈ endpoint.trace actions, seen.Exact := by
  refine ⟨?_, ?_, exact_trace endpoint actions⟩
  · exact conserved_along (fun endpoint => endpoint.session.input ++ endpoint.socket.unread)
      Record.sent Record.removed (fun _ exact_ => exact_.input_conserved) endpoint actions
  · exact conserved_along (fun endpoint => endpoint.session.output) Record.queued Record.accepted
      (fun _ exact_ => exact_.output_conserved) endpoint actions

/-- A connection whose reads are interrupted and fail, and whose writes take two bytes and then
none. -/
def troubled : Endpoint where
  session := Session.create ⟨0⟩ ⟨.v4 127 0 0 1, 6379, 0⟩
  socket := { Socket.fresh with
    arrivals := [.bytes [0x78, 0x0a], .interrupted, .bytes [0x79],
      .failed SystemError.brokenPipe.failure, .bytes [0x7a]]
    allowances := [.take 2, .wouldBlock] }

/-- A request is read, executed and answered on this connection; then the input is dropped. -/
def visit : List Action :=
  [.fill 8, .parse 1, .take, .queue .ok, .flush, .flush, .discard]

/-- Every byte in front of the failure was removed once, and every byte of the reply was taken
once. -/
theorem troubled_visit_loses_nothing :
    (troubled.trace visit).flatMap Record.removed = [0x78, 0x0a, 0x79] ∧
      (troubled.trace visit).flatMap Record.accepted = Value.ok.encode ∧
      [0x78, 0x0a, 0x79, 0x7a] = (troubled.trace visit).flatMap Record.removed ++
        ((troubled.run visit).session.input ++ (troubled.run visit).socket.unread) := by
  obtain ⟨conserved, _⟩ := no_byte_is_lost troubled visit
  exact ⟨rfl, rfl, conserved⟩

end Endpoint

end KeyValueServer
