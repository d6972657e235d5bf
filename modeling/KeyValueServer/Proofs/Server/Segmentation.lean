import KeyValueServer.Proofs.Server.Conversation
import KeyValueServer.Proofs.Server.Fixture
import KeyValueServer.Server.Service

/-!
# Replies do not depend on how requests are cut

A client that sends requests and does not end its output gets, in every run, the replies of
executing a front of its requests in order, each once. The pieces in which the bytes arrive, the
moments at which the socket has to wait and the order of the server's steps only decide how long
this front is. A server with nothing left to do has read everything and waits for more, if the loop
runs that owns the readiness set; then it is the whole list, as soon as the client has sent it.
-/

namespace KeyValueServer

/-- The events on the one connection of a server are part of its work. -/
theorem Event.isWork_of_concerns {event : Event} {id : ConnId} (concerns : event.Concerns id) :
    event.isWork = true := by
  cases event with
  | connect | trigger | stopAccepting | stopPolling | closePool | complete => exact concerns.elim
  | _ => rfl

namespace Server

variable {server : Server}

/-- A conversation that waits for more input although the client has sent everything has answered
every request. -/
theorem Converses.answered {id : ConnId} {limit : Nat} {start : Store} {requests : List Value}
    {received : List UInt8} {count : Nat} {session : Session}
    (converses : server.Converses id limit start requests (requests.flatMap Value.encode) received
      count (.parkedRead, session))
    (areRequests : ∀ request ∈ requests, request.IsRequest limit)
    (nothing : (server.socket id).unread = []) :
    count = requests.length ∧ session.output = [] := by
  have exchange := converses.exchange
  have idle : session.command = none :=
    Place.idle_of_stored (converses.orderly.accounted.stored _ converses.member) rfl
  obtain ⟨incomplete, empty⟩ := exchange.fits
  refine ⟨?_, empty⟩
  have left := exchange.remaining idle (List.append_nil _)
  have unread : (server.scene id).socket.unread = [] := nothing
  rw [unread, List.append_nil] at left
  have areOthers : ∀ request ∈ requests.drop count, request.IsRequest limit :=
    fun request member => areRequests request (List.mem_of_mem_drop member)
  rcases Request.decode_stream limit _ areOthers _ _ left with
    ⟨_, ⟨last, _⟩ | ⟨first, others, behind, less⟩⟩ | ⟨first, others, more, _, _, complete⟩
  · exact Nat.le_antisymm exchange.within (List.drop_eq_nil_iff.mp last)
  · have lengths := congrArg List.length left
    rw [behind, List.flatMap_cons, List.append_nil, List.length_append] at lengths
    omega
  · rw [incomplete] at complete
    cases complete

/-- A pool without jobs has none that waits or runs. -/
theorem jobs_of_isIdle {stage : Stage} (idle : (server.pool stage).isIdle = true) :
    server.jobs stage = [] := by
  obtain ⟨queue, running⟩ := (Bool.and_eq_true _ _).mp idle
  rw [jobs, List.isEmpty_iff.mp queue, List.isEmpty_iff.mp running]
  rfl

/-- A server with nothing to do on its own side holds its sessions in the readiness set, and none
of them is ready. -/
theorem parked_of_rest (polling : server.polling = true) (rest : server.nextEvent? = none) :
    server.holdings = server.parked.values.map Parked.holding ∧
      ∀ parked ∈ server.parked.values, server.isReady parked = false := by
  unfold nextEvent? at rest
  split at rest
  · cases rest
  · next unheard =>
    have control : server.control = [] := by
      rw [polling, Bool.true_and, Bool.not_eq_true, Bool.not_eq_false', List.isEmpty_iff] at unheard
      exact unheard
    dsimp only at rest
    split at rest
    · split at rest <;> cases rest
    · next idle =>
      have jobs (stage : Stage) : server.jobs stage = [] := by
        rw [List.find?_eq_none] at idle
        have member : stage ∈ [Stage.writePending, .processing, .readRegistered] := by
          cases stage <;> simp only [List.mem_cons, true_or, or_true]
        have working := idle stage member
        rw [Bool.not_eq_true, Bool.not_eq_false'] at working
        exact jobs_of_isIdle working
      constructor
      · simp only [holdings, control, jobs, List.map_nil, List.nil_append, List.append_nil]
      · intro parked member
        have waiting := List.find?_eq_none.mp (Option.map_eq_none_iff.mp rest) parked member
        exact Bool.not_eq_true _ ▸ waiting

/-- A conversation comes to rest only where the server waits for more input, if there is a loop that
owns the readiness set. -/
theorem Converses.waits {id : ConnId} {limit : Nat} {start : Store} {requests : List Value}
    {sent received : List UInt8} {count : Nat} {holding : Holding}
    (converses : server.Converses id limit start requests sent received count holding)
    (polling : server.polling = true) (rest : server.nextEvent? = none) :
    holding.1 = .parkedRead ∧ (server.socket id).unread = [] := by
  obtain ⟨held, unready⟩ := parked_of_rest polling rest
  have member := converses.member
  rw [held] at member
  obtain ⟨parked, inside, rfl⟩ := List.mem_map.mp member
  have waits := unready parked inside
  cases parked with
  | write session => cases waits
  | read session =>
    have named : session.id = id := converses.named
    obtain ⟨nothing, _⟩ := Bool.or_eq_false_iff.mp waits
    rw [Bool.not_eq_false', List.isEmpty_iff, named] at nothing
    constructor
    · rfl
    · rw [Socket.unread, nothing]
      rfl

/-- The one connection of a server on which a client has sent the bytes `sent` and the socket took
the bytes `accepted` since it was `begun`: of the requests, the first `count` are answered. -/
structure Serves (server begun : Server) (requests : List Value)
    (sent accepted : List UInt8) (count : Nat) (place : Place) (session : Session) : Prop where
  within : count ≤ requests.length
  /-- The connection is open, and it is not to be removed. -/
  alone : server.holdings = [(place, session)]
  named : session.id = firstId
  stays : place ≠ .removed
  /-- The requests were executed on the store in order, each once. -/
  executed : server.store = (Command.executeAll begun.store (requests.take count)).2
  counted : server.traffic.commands = UInt64.ofNat count
  /-- What the socket took and what is pending are the replies to them. -/
  replied : accepted ++ session.output =
    (Command.executeAll begun.store (requests.take count)).1.flatMap Value.encode
  /-- No input is refused. -/
  unrefused : server.traffic.protocolErrors = 0 ∧ ∀ error, session.command ≠ some (.error error)
  /-- When the loop runs that owns the readiness set, and the server has nothing left to do, it has
  read everything and waits for more. -/
  rests : begun.polling = true → server.nextEvent? = none →
    place = .parkedRead ∧ (server.socket firstId).unread = []
  /-- Where the server waits for more although all was sent and read, all is answered. -/
  complete : place = .parkedRead → (server.socket firstId).unread = [] →
    sent = requests.flatMap Value.encode → count = requests.length ∧ session.output = []

/-- In every run on the connection of a client that sends requests and does not end its output,
the connection stays open, no input is refused, and a front of the requests has been executed and
answered. Neither the pieces in which the bytes arrive nor the pieces in which the socket takes the
replies matter to this. -/
theorem replies_of_every_segmentation {host : Host} {config : Config} {taken : Bool}
    (roomy : config.Roomy) (bounded : config.maxRequestSize.toNat + 1 < UInt64.size)
    (launched : launch host config taken = .ok server) (peer : Address) (requests : List Value)
    (areRequests : ∀ request ∈ requests, request.IsRequest Fault.largestBlock ∧
      request.encode.length ≤ config.maxRequestSize.toNat)
    (events : List Event)
    (concerns : ∀ event ∈ events, event.Concerns firstId ∧ ¬ event.EndsInput)
    (sent : events.flatMap Event.sent <+: requests.flatMap Value.encode) :
    ∃ count place session, (server.run (.connect peer :: events)).Serves server requests
      (events.flatMap Event.sent)
      (server.receivedIn firstId (.connect peer :: events) ++
        ((server.run (.connect peer :: events)).socket firstId).delivered)
      count place session := by
  obtain ⟨unsent, split⟩ := sent
  obtain ⟨begins, notEnded⟩ := converses_of_launch roomy bounded launched peer requests
  have fitting : ∀ request ∈ requests, request.IsRequest config.maxRequestSize.toNat ∧
      request.encode.length ≤ config.maxRequestSize.toNat := by
    intro request member
    obtain ⟨isRequest, within⟩ := areRequests request member
    exact ⟨Request.isRequest_of_length request _ _ isRequest within, within⟩
  obtain ⟨⟨count, ⟨place, session⟩, converses⟩, stillOpen⟩ :=
    begins.run_open fitting events concerns split notEnded
  have exchange := converses.exchange
  have polls : ((server.step (.connect peer)).run events).polling = server.polling := by
    have works := (server.step (.connect peer)).works_run events fun event member =>
      Event.isWork_of_concerns (concerns event member).1
    have connects : (server.step (.connect peer)).polling = server.polling := by
      simp only [Server.step]
      split
      · exact (server.accept_beside peer).1
      · rfl
    exact (congrArg Posture.polling works.posture).trans connects
  refine ⟨count, place, session, exchange.within, converses.alone, converses.named,
    exchange.alive stillOpen, exchange.store, exchange.commands, ?_,
    ⟨exchange.protocolErrors, ?_⟩, fun polling => converses.waits (polls.trans polling), ?_⟩
  · rw [List.append_assoc]
    exact exchange.replied
  · intro error stored
    obtain ⟨_, _, impossible⟩ := exchange.stored _ stored
    cases impossible
  · rintro rfl nothing whole
    rw [List.nil_append, whole] at converses
    exact converses.answered (fun request member => (fitting request member).1) nothing

/-- A request to set a key. -/
def settingRequest : Value := .array [.bulk [0x53, 0x45, 0x54], .bulk [0x61], .bulk [0x31]]

/-- A run in which a request comes in two pieces and the socket takes two bytes of the reply. -/
def brokenDelivery : List Event :=
  [.arrive firstId (.bytes (settingRequest.encode.take 9)), .applyControl true, .ready firstId,
    .start .readRegistered, .finish .readRegistered 0, .applyControl true,
    .arrive firstId (.bytes (settingRequest.encode.drop 9)), .ready firstId,
    .start .readRegistered, .finish .readRegistered 0, .start .processing, .finish .processing 0,
    .allow firstId (.take 2), .allow firstId .wouldBlock, .start .writePending,
    .finish .writePending 0]

/-- The request that came in two pieces is executed, and two bytes of its reply are on the way. -/
theorem broken_delivery_is_answered : ∃ server,
    launch Host.loopback Config.standard false = .ok server ∧ server.polling = true ∧
      Config.standard.Roomy ∧ Config.standard.maxRequestSize.toNat + 1 < UInt64.size ∧
      (∀ request ∈ [settingRequest], request.IsRequest Fault.largestBlock ∧
        request.encode.length ≤ Config.standard.maxRequestSize.toNat) ∧
      (∀ event ∈ brokenDelivery, event.Concerns firstId ∧ ¬ event.EndsInput) ∧
      brokenDelivery.flatMap Event.sent <+: [settingRequest].flatMap Value.encode ∧
      ((server.run (.connect (Address.loopback 1) :: brokenDelivery)).socket firstId).delivered =
        [0x2b, 0x4f] ∧
      ∃ count place session,
        (server.run (.connect (Address.loopback 1) :: brokenDelivery)).Serves server
          [settingRequest] (brokenDelivery.flatMap Event.sent)
          (server.receivedIn firstId (.connect (Address.loopback 1) :: brokenDelivery) ++
            ((server.run (.connect (Address.loopback 1) :: brokenDelivery)).socket
              firstId).delivered)
          count place session := by
  have roomy : Config.standard.Roomy := by decide
  have bounded : Config.standard.maxRequestSize.toNat + 1 < UInt64.size := by decide
  have launched : launch Host.loopback Config.standard false = .ok _ := rfl
  have areRequests : ∀ request ∈ [settingRequest], request.IsRequest Fault.largestBlock ∧
      request.encode.length ≤ Config.standard.maxRequestSize.toNat := by
    simp only [List.mem_singleton, forall_eq]
    exact ⟨⟨by decide, by simp [Value.IsElement, Fault.largestBlock]⟩, by decide⟩
  have concerns : ∀ event ∈ brokenDelivery, event.Concerns firstId ∧ ¬ event.EndsInput := by
    simp [brokenDelivery, Event.Concerns, Event.EndsInput, Arrival.Plain, Allowance.Plain]
  have sent : brokenDelivery.flatMap Event.sent <+: [settingRequest].flatMap Value.encode :=
    ⟨[], rfl⟩
  exact ⟨_, launched, rfl, roomy, bounded, areRequests, concerns, sent, rfl,
    replies_of_every_segmentation roomy bounded launched _ _ areRequests _ concerns sent⟩

end Server

end KeyValueServer
