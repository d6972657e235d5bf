import KeyValueServer.Proofs.Server.Segmentation

/-!
# What the end of input leaves undone

A read that meets the end of input gives the connection up, also when bytes came with it: what the
session still holds is dropped. So not every request that a client sent is executed. This module
says which are: a front of them, in order and each once, and none whose bytes were dropped. An open
connection holds all other bytes, a request that was decoded is executed, and the connection is
given up for no other reason. All requests are executed when the server has read everything and
waits for more before the end of input comes.

The last theorem shows two runs of one client whose end of input comes at different moments; one of
them executes its request and the other does not.
-/

namespace KeyValueServer.Server

variable {server : Server}

/-- The requests of a client, of which `count` are executed, at a moment at which it has sent the
bytes `sent` and may have ended its output. -/
structure Tallied (server : Server) (start : Store) (requests : List Value) (sent : List UInt8)
    (count : Nat) : Prop where
  within : count ≤ requests.length
  /-- The requests were executed on the store in order, each once. -/
  executed : server.store = (Command.executeAll start (requests.take count)).2
  counted : server.traffic.commands = UInt64.ofNat count
  /-- No input is refused. -/
  unrefused : server.traffic.protocolErrors = 0
  /-- What was sent belongs to the requests that are executed, to the one that waits for
  execution, or is still in the input or the socket. Once the connection is given up, its client
  has ended its output, no request waits, and the rest is dropped. -/
  conserved :
    (∃ place session, server.holdings = [(place, session)] ∧ session.id = firstId ∧
      (∀ command, session.command = some command →
        ∃ request, requests[count]? = some request ∧ command = .ok request) ∧
      sent = (requests.take (count + session.command.toList.length)).flatMap Value.encode ++
        (session.input ++ (server.socket firstId).unread) ∧
      (place = .removed → (server.socket firstId).inputEnded = true ∧ session.command = none)) ∨
    (server.holdings = [] ∧ (server.socket firstId).inputEnded = true ∧
      ∃ dropped, sent = (requests.take count).flatMap Value.encode ++ dropped ∧
        (sent = requests.flatMap Value.encode → (count = requests.length ↔ dropped = [])))

/-- Whether the server has read all that the one client sent, and waits for more. -/
def AwaitsMore (server : Server) : Prop :=
  ∃ session, server.holdings = [(.parkedRead, session)] ∧ (server.socket firstId).unread = []

/-- What a conversation says about the requests. -/
theorem Converses.tallied {limit : Nat} {start : Store} {requests : List Value}
    {sent received : List UInt8} {count : Nat} {holding : Holding}
    (converses : server.Converses firstId limit start requests sent received count holding) :
    server.Tallied start requests sent count := by
  have exchange := converses.exchange
  refine ⟨exchange.within, exchange.store, exchange.commands, exchange.protocolErrors,
    .inl ⟨holding.1, holding.2, converses.alone, converses.named, exchange.stored,
      exchange.conserved, fun removed => ⟨?_, ?_⟩⟩⟩
  · by_contra stillOpen
    exact exchange.alive (eq_false_of_ne_true stillOpen) removed
  · have stored := converses.orderly.accounted.stored holding converses.member
    exact Place.idle_of_stored stored (removed ▸ rfl)

/-- A request is written with at least one byte. -/
theorem encode_ne_nil {request : Value} {limit : Nat} (isRequest : request.IsRequest limit) :
    request.encode ≠ [] := by
  cases request with
  | array elements =>
    rw [Request.encode_array_cons]
    exact List.cons_ne_nil _ _
  | simple text => exact isRequest.elim
  | error text => exact isRequest.elim
  | integer number => exact isRequest.elim
  | bulk bytes => exact isRequest.elim
  | null => exact isRequest.elim

/-- What the end of a conversation says about the requests. -/
theorem Departed.tallied {limit : Nat} {start : Store} {requests : List Value}
    {sent dropped : List UInt8} {count : Nat}
    (departed : server.Departed firstId start requests sent count dropped)
    (areRequests : ∀ request ∈ requests, request.IsRequest limit) :
    server.Tallied start requests sent count := by
  refine ⟨departed.within, departed.store, departed.commands, departed.protocolErrors,
    .inr ⟨departed.alone, departed.ended, dropped, departed.conserved, fun whole => ?_⟩⟩
  have left : dropped = (requests.drop count).flatMap Value.encode := by
    have conserved := departed.conserved
    rw [whole] at conserved
    have parts : requests.flatMap Value.encode = (requests.take count).flatMap Value.encode ++
        (requests.drop count).flatMap Value.encode := by
      rw [← List.flatMap_append, List.take_append_drop]
    rw [parts] at conserved
    exact (List.append_cancel_left conserved).symm
  rw [left]
  constructor
  · rintro rfl
    rw [List.drop_length]
    rfl
  · intro nothing
    refine Nat.le_antisymm departed.within (List.drop_eq_nil_iff.mp ?_)
    by_contra others
    obtain ⟨first, rest, behind⟩ := List.exists_cons_of_ne_nil others
    rw [behind, List.flatMap_cons] at nothing
    have member : first ∈ requests.drop count := behind ▸ List.mem_cons_self
    exact encode_ne_nil (areRequests first (List.mem_of_mem_drop member))
      (List.append_eq_nil_iff.mp nothing).1

/-- At any two moments of a run on the connection of a client that sends requests and may end its
output, a front of the requests is executed. No execution is undone, none is added once the
connection is over, and all requests are executed from a moment on at which all of them are sent
and read and the server waits for more. -/
theorem executed_around_end_of_input {host : Host} {config : Config} {taken : Bool}
    (roomy : config.Roomy) (bounded : config.maxRequestSize.toNat + 1 < UInt64.size)
    (launched : launch host config taken = .ok server) (peer : Address) (requests : List Value)
    (areRequests : ∀ request ∈ requests, request.IsRequest Fault.largestBlock ∧
      request.encode.length ≤ config.maxRequestSize.toNat)
    (before after : List Event) (concerns : ∀ event ∈ before ++ after, event.Concerns firstId)
    (sent : (before ++ after).flatMap Event.sent <+: requests.flatMap Value.encode) :
    ∃ earlier later, earlier ≤ later ∧
      (server.run (.connect peer :: before)).Tallied server.store requests
        (before.flatMap Event.sent) earlier ∧
      (server.run (.connect peer :: (before ++ after))).Tallied server.store requests
        ((before ++ after).flatMap Event.sent) later ∧
      ((server.run (.connect peer :: before)).holdings = [] → later = earlier) ∧
      ((server.run (.connect peer :: before)).AwaitsMore →
        before.flatMap Event.sent = requests.flatMap Value.encode →
        later = requests.length) := by
  obtain ⟨unsent, split⟩ := sent
  obtain ⟨begins, _⟩ := converses_of_launch roomy bounded launched peer requests
  have fitting : ∀ request ∈ requests, request.IsRequest config.maxRequestSize.toNat ∧
      request.encode.length ≤ config.maxRequestSize.toNat := by
    intro request member
    obtain ⟨isRequest, within⟩ := areRequests request member
    exact ⟨Request.isRequest_of_length request _ _ isRequest within, within⟩
  have sized := fun request member => (fitting request member).1
  have concernsBefore := fun event member => concerns event (List.mem_append_left after member)
  have concernsAfter := fun event member => concerns event (List.mem_append_right before member)
  have runs : server.run (.connect peer :: (before ++ after)) =
      (server.run (.connect peer :: before)).run after := by
    simp only [Server.run, List.foldl_cons, List.foldl_append]
  rw [List.flatMap_append, List.append_assoc] at split
  rw [runs, List.flatMap_append]
  obtain ⟨earlier, _, goesOn⟩ := begins.run fitting before concernsBefore split
  rcases goesOn with ⟨holding, converses⟩ | ⟨dropped, departed⟩
  · rw [List.nil_append, List.nil_append] at converses
    obtain ⟨later, more, ends⟩ := converses.run fitting after concernsAfter
      (by rw [List.append_assoc]; exact split)
    have tallied : ((server.run (.connect peer :: before)).run after).Tallied server.store
        requests (before.flatMap Event.sent ++ after.flatMap Event.sent) later := by
      rcases ends with ⟨holding, converses⟩ | ⟨dropped, departed⟩
      · exact converses.tallied
      · exact departed.tallied sized
    refine ⟨earlier, later, more, converses.tallied, tallied, fun isOver => ?_, ?_⟩
    · have alone : (server.run (.connect peer :: before)).holdings = [holding] := converses.alone
      rw [isOver] at alone
      cases alone
    · rintro ⟨session, waits, nothing⟩ whole
      have alone : (server.run (.connect peer :: before)).holdings = [holding] := converses.alone
      rw [waits] at alone
      obtain rfl := List.singleton_inj.mp alone
      rw [whole] at converses
      have answered := (converses.answered sized nothing).1
      exact Nat.le_antisymm tallied.within (answered ▸ more)
  · have stays := departed.run after concernsAfter
    refine ⟨earlier, earlier, Nat.le_refl _, departed.tallied sized, stays.tallied sized,
      fun _ => rfl, ?_⟩
    rintro ⟨session, waits, _⟩
    have alone : (server.run (.connect peer :: before)).holdings = [] := departed.alone
    rw [waits] at alone
    cases alone

/-- A run in which a request is read, executed and answered, and the server waits for more. -/
def answeredFirst : List Event :=
  [.arrive firstId (.bytes settingRequest.encode), .applyControl true, .ready firstId,
    .start .readRegistered, .finish .readRegistered 0, .start .processing, .finish .processing 0,
    .start .writePending, .finish .writePending 0, .applyControl true]

/-- A run in which the end of input comes and the connection is given up. -/
def endAfterwards : List Event :=
  [.endInput firstId, .ready firstId, .start .readRegistered, .finish .readRegistered 0,
    .applyControl true]

/-- A run in which the end of input comes right behind a request and the connection is given up. -/
def endAtOnce : List Event :=
  [.arrive firstId (.bytes settingRequest.encode), .endInput firstId, .applyControl true,
    .ready firstId, .start .readRegistered, .finish .readRegistered 0, .applyControl true]

/-- The request is executed where the end of input comes after the server has answered it. -/
theorem answered_before_end_of_input : ∃ server,
    launch Host.loopback Config.standard false = .ok server ∧
      Config.standard.Roomy ∧ Config.standard.maxRequestSize.toNat + 1 < UInt64.size ∧
      (∀ request ∈ [settingRequest], request.IsRequest Fault.largestBlock ∧
        request.encode.length ≤ Config.standard.maxRequestSize.toNat) ∧
      (∀ event ∈ answeredFirst ++ endAfterwards, event.Concerns firstId) ∧
      (answeredFirst ++ endAfterwards).flatMap Event.sent <+:
        [settingRequest].flatMap Value.encode ∧
      (server.run (.connect (Address.loopback 1) :: answeredFirst)).AwaitsMore ∧
      ∃ earlier later, earlier ≤ later ∧
        (server.run (.connect (Address.loopback 1) :: answeredFirst)).Tallied server.store
          [settingRequest] (answeredFirst.flatMap Event.sent) earlier ∧
        (server.run (.connect (Address.loopback 1) :: (answeredFirst ++ endAfterwards))).Tallied
          server.store [settingRequest] ((answeredFirst ++ endAfterwards).flatMap Event.sent)
          later ∧
        ((server.run (.connect (Address.loopback 1) :: answeredFirst)).holdings = [] →
          later = earlier) ∧
        ((server.run (.connect (Address.loopback 1) :: answeredFirst)).AwaitsMore →
          answeredFirst.flatMap Event.sent = [settingRequest].flatMap Value.encode →
          later = [settingRequest].length) := by
  have roomy : Config.standard.Roomy := by decide
  have bounded : Config.standard.maxRequestSize.toNat + 1 < UInt64.size := by decide
  have launched : launch Host.loopback Config.standard false = .ok _ := rfl
  have areRequests : ∀ request ∈ [settingRequest], request.IsRequest Fault.largestBlock ∧
      request.encode.length ≤ Config.standard.maxRequestSize.toNat := by
    simp only [List.mem_singleton, forall_eq]
    exact ⟨⟨by decide, by simp [Value.IsElement, Fault.largestBlock]⟩, by decide⟩
  have concerns : ∀ event ∈ answeredFirst ++ endAfterwards, event.Concerns firstId := by
    simp [answeredFirst, endAfterwards, Event.Concerns, Arrival.Plain]
  have sent : (answeredFirst ++ endAfterwards).flatMap Event.sent <+:
      [settingRequest].flatMap Value.encode := ⟨[], rfl⟩
  exact ⟨_, launched, roomy, bounded, areRequests, concerns, sent, ⟨_, rfl, rfl⟩,
    executed_around_end_of_input roomy bounded launched _ _ areRequests _ _ concerns sent⟩

/-- Two runs of a client that sends the same request and ends its output, at different moments. In
both the connection is over, but only one of them has executed the request. -/
theorem execution_depends_on_end_of_input : ∃ server,
    launch Host.loopback Config.standard false = .ok server ∧
      (∀ event ∈ endAtOnce, event.Concerns firstId) ∧
      (∀ event ∈ answeredFirst ++ endAfterwards, event.Concerns firstId) ∧
      endAtOnce.flatMap Event.sent = settingRequest.encode ∧
      (answeredFirst ++ endAfterwards).flatMap Event.sent = settingRequest.encode ∧
      (server.run (.connect (Address.loopback 1) :: endAtOnce)).registries.isEmpty = true ∧
      (server.run (.connect (Address.loopback 1) ::
        (answeredFirst ++ endAfterwards))).registries.isEmpty = true ∧
      (server.run (.connect (Address.loopback 1) :: endAtOnce)).store = server.store ∧
      (server.run (.connect (Address.loopback 1) :: endAtOnce)).traffic.commands = 0 ∧
      (server.run (.connect (Address.loopback 1) ::
        (answeredFirst ++ endAfterwards))).traffic.commands = 1 := by
  have launched : launch Host.loopback Config.standard false = .ok _ := rfl
  refine ⟨_, launched, ?_, ?_, rfl, rfl, rfl, rfl, rfl, rfl, rfl⟩
  · simp [endAtOnce, Event.Concerns, Arrival.Plain]
  · simp [answeredFirst, endAfterwards, Event.Concerns, Arrival.Plain]

end KeyValueServer.Server
