import KeyValueServer.Proofs.Server.Exchange
import KeyValueServer.Proofs.Server.Ownership

/-!
# Conversations with one client

A server with one connection keeps the exchange on it in every run: whatever pieces the requests
arrive in, however often the socket has to wait and however little it takes, and in whatever order
the loop and the workers act. This module shows it for every event and for every run, also where
the client ends its output at some moment. Then the connection may be given up; nothing happens to
the store from there on.
-/

namespace KeyValueServer

namespace Event

/-- Whether an event belongs to a server whose one connection is `id`. Neither the network nor the
readiness set makes anything fail, and the server is not shut down. -/
def Concerns (id : ConnId) : Event → Prop
  | .arrive other arrival => other = id ∧ arrival.Plain
  | .allow other allowance => other = id ∧ allowance.Plain
  | .endInput other | .closePeer other | .receive other => other = id
  | .applyControl registers => registers = true
  | .ready _ | .start _ | .finish _ _ => True
  | .connect _ | .trigger | .stopAccepting | .stopPolling | .closePool _ | .complete => False

/-- Whether the client ends its output. -/
def EndsInput : Event → Prop
  | .endInput _ | .closePeer _ => True
  | _ => False

/-- The bytes that a client sends. -/
def sent : Event → List UInt8
  | .arrive _ arrival => arrival.content
  | _ => []

/-- The bytes that the client of a connection receives. -/
def received (server : Server) (id : ConnId) : Event → List UInt8
  | .receive other | .closePeer other => if other = id then (server.socket id).delivered else []
  | _ => []

end Event

/-- What clients and the network may do to a socket that does not fail: `more` bytes arrive, and
the client takes the bytes `taken`. -/
structure Socket.Follows (socket after : Socket) (more taken : List UInt8) : Prop where
  unread : after.unread = socket.unread ++ more
  delivered : taken ++ after.delivered = socket.delivered
  plain : socket.Plain → after.Plain
  inputEnded : socket.inputEnded = true → after.inputEnded = true
  peerClosed : after.peerClosed = true → socket.peerClosed = true ∨ after.inputEnded = true

namespace Socket

/-- Bytes that arrive are unread behind the others. -/
theorem follows_arrive (socket : Socket) (arrival : Arrival) (plain : arrival.Plain) :
    socket.Follows { socket with arrivals := socket.arrivals ++ [arrival] } arrival.content [] where
  unread := by
    simp only [Socket.unread, List.flatMap_append, List.flatMap_singleton]
  delivered := rfl
  plain before := by
    refine ⟨fun other member => ?_, before.allowances⟩
    rcases List.mem_append.mp member with earlier | last
    · exact before.arrivals other earlier
    · rw [List.mem_singleton.mp last]
      exact plain
  inputEnded := id
  peerClosed := .inl

/-- What the network says about later writes moves no byte. -/
theorem follows_allow (socket : Socket) (allowance : Allowance) (plain : allowance.Plain) :
    socket.Follows { socket with allowances := socket.allowances ++ [allowance] } [] [] where
  unread := (List.append_nil _).symm
  delivered := rfl
  plain before := by
    refine ⟨before.arrivals, fun other member => ?_⟩
    rcases List.mem_append.mp member with earlier | last
    · exact before.allowances other earlier
    · rw [List.mem_singleton.mp last]
      exact plain
  inputEnded := id
  peerClosed := .inl

/-- The end of input comes behind all bytes. -/
theorem follows_endInput (socket : Socket) : socket.Follows socket.endInput [] [] where
  unread := (List.append_nil _).symm
  delivered := rfl
  plain before := ⟨before.arrivals, before.allowances⟩
  inputEnded _ := rfl
  peerClosed _ := .inr rfl

/-- A client that receives takes what was delivered. -/
theorem follows_receive (socket : Socket) :
    socket.Follows socket.receive.2 [] socket.delivered where
  unread := (List.append_nil _).symm
  delivered := List.append_nil _
  plain before := ⟨before.arrivals, before.allowances⟩
  inputEnded := id
  peerClosed := .inl

/-- A client that closes its end takes what was delivered, and ends its output. -/
theorem follows_closePeer (socket : Socket) :
    socket.Follows socket.closePeer.2 [] socket.delivered where
  unread := (List.append_nil _).symm
  delivered := List.append_nil _
  plain before := ⟨before.arrivals, before.allowances⟩
  inputEnded _ := rfl
  peerClosed _ := .inr rfl

end Socket

namespace Server

/-- The bytes that the client of a connection receives in a run. -/
def receivedIn (server : Server) (id : ConnId) : List Event → List UInt8
  | [] => []
  | event :: events => event.received server id ++ (server.step event).receivedIn id events

/-- The connection `id` is the only one, and the exchange on it has come so far. -/
structure Converses (server : Server) (id : ConnId) (limit : Nat) (start : Store)
    (requests : List Value) (sent received : List UInt8) (count : Nat) (holding : Holding) :
    Prop where
  limited : server.requestLimit = limit
  orderly : server.Orderly
  alone : server.holdings = [holding]
  named : holding.2.id = id
  exchange : Exchange limit start requests sent received count holding (server.scene id)

/-- The connection `id` is over. Behind the requests that were executed the client has sent the
bytes `dropped`. -/
structure Departed (server : Server) (id : ConnId) (start : Store) (requests : List Value)
    (sent : List UInt8) (count : Nat) (dropped : List UInt8) : Prop where
  orderly : server.Orderly
  alone : server.holdings = []
  within : count ≤ requests.length
  conserved : sent = (requests.take count).flatMap Value.encode ++ dropped
  store : server.store = (Command.executeAll start (requests.take count)).2
  commands : server.traffic.commands = UInt64.ofNat count
  protocolErrors : server.traffic.protocolErrors = 0
  ended : (server.socket id).inputEnded = true

variable {server : Server} {id : ConnId} {limit : Nat} {start : Store} {requests : List Value}
  {sent unsent received : List UInt8} {count : Nat} {holding : Holding}

/-- A change of its socket from outside changes what a session meets there. -/
theorem scene_onSocket (server : Server) (id : ConnId) (change : Socket → Socket)
    (connected : (server.sockets.find? id).isSome = true) :
    (server.onSocket id change).scene id =
      { server.scene id with socket := change (server.socket id) } := by
  obtain ⟨socket, found⟩ := Option.isSome_iff_exists.mp connected
  have same : server.socket id = socket := by
    rw [Server.socket, found]
    rfl
  have changed : server.onSocket id change = server.setSocket id (change socket) := by
    rw [onSocket, found]
  rw [changed, same]
  exact congrArg (fun socket => Scene.mk socket server.store server.traffic)
    (socket_setSocket server id (change socket))

/-- A change of a socket from outside concerns no session, no setting, no key and no counter. -/
theorem unconcerned_onSocket (server : Server) (id : ConnId) (change : Socket → Socket) :
    (server.onSocket id change).holdings = server.holdings ∧
      (server.onSocket id change).config = server.config ∧
      (server.onSocket id change).polling = server.polling ∧
      (server.onSocket id change).store = server.store ∧
      (server.onSocket id change).traffic = server.traffic := by
  unfold onSocket
  split <;> exact ⟨rfl, rfl, rfl, rfl, rfl⟩

/-- The largest request is a setting. -/
theorem requestLimit_of_config {after : Server} (same : after.config = server.config) :
    after.requestLimit = server.requestLimit := by
  rw [requestLimit, requestLimit, same]

/-- The session of the conversation is one of the server's. -/
theorem Converses.member
    (converses : server.Converses id limit start requests sent received count holding) :
    holding ∈ server.holdings := by
  rw [converses.alone]
  exact List.mem_singleton_self holding

/-- A session that a step takes up is the one of the conversation. -/
theorem Converses.only {before : Holding} {kept : List Holding}
    (converses : server.Converses id limit start requests sent received count holding)
    (leaves : server.holdings.Perm (before :: kept)) : holding = before ∧ [] = kept := by
  rw [converses.alone] at leaves
  exact List.cons.inj (List.singleton_perm.mp leaves)

/-- The socket of the conversation is there. -/
theorem Converses.connected
    (converses : server.Converses id limit start requests sent received count holding) :
    (server.sockets.find? id).isSome = true := by
  have connected := converses.orderly.connected holding converses.member
  rw [converses.named] at connected
  exact connected

/-- What the network does to the socket of the one connection is part of the conversation. -/
theorem Converses.onSocket
    (converses : server.Converses id limit start requests sent received count holding)
    (change : Socket → Socket) {more taken : List UInt8}
    (follows : (server.socket id).Follows (change (server.socket id)) more taken) :
    (server.onSocket id change).Converses id limit start requests (sent ++ more) (received ++ taken)
      count holding := by
  have connected := converses.connected
  obtain ⟨limited, orderly, alone, named, exchange⟩ := converses
  obtain ⟨holdings, config, _, _, _⟩ := server.unconcerned_onSocket id change
  refine ⟨(requestLimit_of_config config).trans limited, orderly.onSocket id change,
    holdings.trans alone, named, ?_⟩
  rw [server.scene_onSocket id change connected]
  refine ⟨exchange.within, exchange.stored, ?_, exchange.store, ?_, exchange.goesOn,
    exchange.commands, exchange.protocolErrors, follows.plain exchange.plain, exchange.fits,
    fun open_ => exchange.alive ?_, fun closed => ?_⟩
  · have conserved := exchange.conserved
    rw [conserved, follows.unread]
    simp only [scene, List.append_assoc]
  · have replied := exchange.replied
    simp only [scene, ← follows.delivered, List.append_assoc] at replied
    simp only [List.append_assoc]
    exact replied
  · rw [← Bool.not_eq_true]
    intro endedBefore
    have endedNow := follows.inputEnded endedBefore
    rw [open_] at endedNow
    cases endedNow
  · rcases follows.peerClosed closed with closedBefore | endedNow
    · exact follows.inputEnded (exchange.ended closedBefore)
    · exact endedNow

/-- A turn of the one session is part of the conversation. -/
theorem Converses.took {after : Server} {kept : List Holding} {before next : Holding}
    (converses : server.Converses id limit start requests sent received count holding)
    (took : server.Took after kept before next) (orderly : after.Orderly)
    (areRequests : ∀ request ∈ requests,
      request.IsRequest limit ∧ request.encode.length ≤ limit)
    (split : sent ++ unsent = requests.flatMap Value.encode) :
    ∃ later, count ≤ later ∧
      after.Converses id limit start requests sent received later next := by
  obtain ⟨rfl, rfl⟩ := converses.only took.leaves
  have marked := converses.orderly.accounted.stored holding converses.member
  have turn := took.turn
  rw [converses.named, converses.limited] at turn
  obtain ⟨later, more, exchange⟩ := converses.exchange.turn turn marked areRequests split
  exact ⟨later, more, (requestLimit_of_config took.config).trans converses.limited, orderly,
    List.perm_singleton.mp took.arrives, took.same.trans converses.named, exchange⟩

/-- The end of the one connection leaves the store as the conversation made it. -/
theorem Converses.closed {after : Server} {kept : List Holding} {gone : Holding}
    (converses : server.Converses id limit start requests sent received count holding)
    (closed : server.Closed after kept gone) (removed : gone.1 = .removed)
    (orderly : after.Orderly) :
    (server.socket id).inputEnded = true ∧
      ∃ dropped, after.Departed id start requests sent count dropped := by
  obtain ⟨rfl, rfl⟩ := converses.only closed.leaves
  have exchange := converses.exchange
  have idle : holding.2.command = none :=
    Place.idle_of_stored (converses.orderly.accounted.stored holding converses.member)
      (removed ▸ rfl)
  have ended : (server.socket id).inputEnded = true := by
    by_contra open_
    exact exchange.alive (eq_false_of_ne_true open_) removed
  have scene := closed.scene
  rw [converses.named] at scene
  have conserved := exchange.conserved
  rw [idle] at conserved
  refine ⟨ended, _, orderly, List.perm_nil.mp closed.remains, exchange.within, conserved, ?_, ?_,
    ?_, ?_⟩
  · exact (congrArg Scene.store scene).trans exchange.store
  · exact (congrArg (fun scene => scene.traffic.commands) scene).trans exchange.commands
  · exact (congrArg (fun scene => scene.traffic.protocolErrors) scene).trans
      exchange.protocolErrors
  · exact (congrArg (fun scene => scene.socket.inputEnded) scene).trans ended

/-- An event that is no one's step leaves the conversation as it is. -/
theorem Converses.moved {after : Server}
    (converses : server.Converses id limit start requests sent received count holding)
    (areRequests : ∀ request ∈ requests,
      request.IsRequest limit ∧ request.encode.length ≤ limit)
    (split : sent ++ unsent = requests.flatMap Value.encode) (orderly : after.Orderly)
    (moves : after = server ∨
      ∃ kept before next, before.1 ≠ .removed ∧ server.Took after kept before next) :
    (∃ later holding, count ≤ later ∧
        after.Converses id limit start requests sent received later holding) ∧
      (after.socket id).inputEnded = (server.socket id).inputEnded := by
  rcases moves with rfl | ⟨kept, before, next, _, took⟩
  · exact ⟨⟨count, holding, Nat.le_refl _, converses⟩, rfl⟩
  · obtain ⟨later, more, goesOn⟩ := converses.took took orderly areRequests split
    refine ⟨⟨later, next, more, goesOn⟩, ?_⟩
    obtain ⟨rfl, _⟩ := converses.only took.leaves
    have turn := took.turn
    rw [converses.named] at turn
    exact turn.inputEnded_eq

/-- Every event of the one connection keeps the conversation, or ends the connection because the
client has ended its output. -/
theorem Converses.step
    (converses : server.Converses id limit start requests sent received count holding)
    (areRequests : ∀ request ∈ requests,
      request.IsRequest limit ∧ request.encode.length ≤ limit)
    (event : Event) (concerns : event.Concerns id)
    (split : sent ++ event.sent ++ unsent = requests.flatMap Value.encode) :
    ((∃ later holding, count ≤ later ∧ (server.step event).Converses id limit start requests
        (sent ++ event.sent) (received ++ event.received server id) later holding) ∧
      (¬ event.EndsInput →
        ((server.step event).socket id).inputEnded = (server.socket id).inputEnded)) ∨
    ((server.socket id).inputEnded = true ∧
      ∃ dropped, (server.step event).Departed id start requests (sent ++ event.sent) count
        dropped) := by
  have orderly := converses.orderly.step event
  have ownSocket (change : Socket → Socket) (same : ∀ socket, (change socket).inputEnded =
      socket.inputEnded) : ((server.onSocket id change).socket id).inputEnded =
        (server.socket id).inputEnded := by
    have scene := server.scene_onSocket id change converses.connected
    exact (congrArg (fun scene => scene.socket.inputEnded) scene).trans (same _)
  have quiet {after : Server} (nothingSent : event.sent = [])
      (nothingReceived : event.received server id = []) (orderly : after.Orderly)
      (moves : after = server ∨
        ∃ kept before next, before.1 ≠ .removed ∧ server.Took after kept before next) :
      (∃ later holding, count ≤ later ∧ after.Converses id limit start requests
        (sent ++ event.sent) (received ++ event.received server id) later holding) ∧
      (¬ event.EndsInput → (after.socket id).inputEnded = (server.socket id).inputEnded) := by
    rw [nothingSent, List.append_nil] at split
    rw [nothingSent, nothingReceived, List.append_nil, List.append_nil]
    obtain ⟨goesOn, same⟩ := converses.moved areRequests split orderly moves
    exact ⟨goesOn, fun _ => same⟩
  cases event with
  | arrive other arrival =>
    obtain ⟨rfl, plain⟩ := concerns
    exact .inl ⟨⟨count, holding, Nat.le_refl _,
      converses.onSocket _ (Socket.follows_arrive _ arrival plain)⟩,
      fun _ => ownSocket _ fun _ => rfl⟩
  | allow other allowance =>
    obtain ⟨rfl, plain⟩ := concerns
    exact .inl ⟨⟨count, holding, Nat.le_refl _,
      converses.onSocket _ (Socket.follows_allow _ allowance plain)⟩,
      fun _ => ownSocket _ fun _ => rfl⟩
  | endInput other =>
    obtain rfl : other = id := concerns
    exact .inl ⟨⟨count, holding, Nat.le_refl _,
      converses.onSocket _ (Socket.follows_endInput _)⟩, fun goesOn => absurd trivial goesOn⟩
  | closePeer other =>
    obtain rfl : other = id := concerns
    have closes := converses.onSocket (fun socket => socket.closePeer.2)
      (Socket.follows_closePeer _)
    have taken : (Event.closePeer other).received server other =
        (server.socket other).delivered := if_pos rfl
    rw [taken]
    exact .inl ⟨⟨count, holding, Nat.le_refl _, closes⟩, fun goesOn => absurd trivial goesOn⟩
  | receive other =>
    obtain rfl : other = id := concerns
    have receives := converses.onSocket (fun socket => socket.receive.2)
      (Socket.follows_receive _)
    have taken : (Event.receive other).received server other =
        (server.socket other).delivered := if_pos rfl
    rw [taken]
    exact .inl ⟨⟨count, holding, Nat.le_refl _, receives⟩, fun _ => ownSocket _ fun _ => rfl⟩
  | applyControl registers =>
    obtain rfl : registers = true := concerns
    simp only [Server.step] at orderly ⊢
    split at orderly
    · next polling =>
      rw [if_pos polling]
      rcases (converses.orderly.applyControl polling true).2 with
        same | took | ⟨kept, gone, removed | refused, closed⟩
      · exact .inl (quiet rfl rfl orderly (.inl same))
      · exact .inl (quiet rfl rfl orderly (.inr took))
      · rw [show (Event.applyControl true).sent = [] from rfl, List.append_nil]
        exact .inr (converses.closed closed removed orderly)
      · cases refused
    · next notPolling =>
      rw [if_neg notPolling]
      exact .inl (quiet rfl rfl orderly (.inl rfl))
  | ready other =>
    simp only [Server.step] at orderly ⊢
    split at orderly
    · next polling =>
      rw [if_pos polling]
      exact .inl (quiet rfl rfl orderly (converses.orderly.ready polling other).2)
    · next notPolling =>
      rw [if_neg notPolling]
      exact .inl (quiet rfl rfl orderly (.inl rfl))
  | start stage => exact .inl (quiet rfl rfl orderly (converses.orderly.start stage).2)
  | finish stage index =>
    exact .inl (quiet rfl rfl orderly (converses.orderly.finish stage index).2)
  | connect peer => exact concerns.elim
  | trigger => exact concerns.elim
  | stopAccepting => exact concerns.elim
  | stopPolling => exact concerns.elim
  | closePool stage => exact concerns.elim
  | complete => exact concerns.elim

/-- What arrives at the socket of a connection that is over is dropped too. -/
theorem Departed.onSocket {dropped : List UInt8}
    (departed : server.Departed id start requests sent count dropped) (change : Socket → Socket)
    (more : List UInt8)
    (keeps : ∀ socket, socket.inputEnded = true → (change socket).inputEnded = true) :
    (server.onSocket id change).Departed id start requests (sent ++ more) count
      (dropped ++ more) := by
  obtain ⟨holdings, _, _, store, traffic⟩ := server.unconcerned_onSocket id change
  have connected : (server.sockets.find? id).isSome = true := by
    by_contra missing
    have ended := departed.ended
    rw [Server.socket, Option.not_isSome_iff_eq_none.mp missing] at ended
    cases ended
  have scene := server.scene_onSocket id change connected
  constructor
  · exact departed.orderly.onSocket id change
  · exact holdings.trans departed.alone
  · exact departed.within
  · rw [departed.conserved, List.append_assoc]
  · exact store.trans departed.store
  · rw [traffic]
    exact departed.commands
  · rw [traffic]
    exact departed.protocolErrors
  · exact (congrArg (fun scene => scene.socket.inputEnded) scene).trans (keeps _ departed.ended)

/-- No session of a server without sessions is taken up. -/
theorem Departed.no_leaves {dropped : List UInt8} {before : Holding} {kept : List Holding}
    (departed : server.Departed id start requests sent count dropped) :
    ¬ server.holdings.Perm (before :: kept) := by
  intro leaves
  rw [departed.alone] at leaves
  cases List.nil_perm.mp leaves

/-- Without sessions nothing but the sockets can change. -/
theorem Departed.step {dropped : List UInt8}
    (departed : server.Departed id start requests sent count dropped) (event : Event)
    (concerns : event.Concerns id) :
    (server.step event).Departed id start requests (sent ++ event.sent) count
      (dropped ++ event.sent) := by
  have unmoved {after : Server} (nothingSent : event.sent = [])
      (moves : after = server ∨
        ∃ kept before next, before.1 ≠ .removed ∧ server.Took after kept before next) :
      after.Departed id start requests (sent ++ event.sent) count (dropped ++ event.sent) := by
    rw [nothingSent, List.append_nil, List.append_nil]
    rcases moves with rfl | ⟨_, _, _, _, took⟩
    · exact departed
    · exact absurd took.leaves departed.no_leaves
  cases event with
  | arrive other arrival =>
    obtain ⟨rfl, _⟩ := concerns
    exact departed.onSocket _ arrival.content fun _ => id
  | allow other allowance =>
    obtain ⟨rfl, _⟩ := concerns
    exact departed.onSocket _ [] fun _ => id
  | endInput other =>
    obtain rfl : other = id := concerns
    exact departed.onSocket _ [] fun _ _ => rfl
  | closePeer other =>
    obtain rfl : other = id := concerns
    exact departed.onSocket _ [] fun _ _ => rfl
  | receive other =>
    obtain rfl : other = id := concerns
    exact departed.onSocket _ [] fun _ => id
  | applyControl registers =>
    simp only [Server.step]
    split
    · next polling =>
      rcases (departed.orderly.applyControl polling registers).2 with
        same | took | ⟨_, _, _, closed⟩
      · exact unmoved rfl (.inl same)
      · exact unmoved rfl (.inr took)
      · exact absurd closed.leaves departed.no_leaves
    · exact unmoved rfl (.inl rfl)
  | ready other =>
    simp only [Server.step]
    split
    · next polling => exact unmoved rfl (departed.orderly.ready polling other).2
    · exact unmoved rfl (.inl rfl)
  | start stage => exact unmoved rfl (departed.orderly.start stage).2
  | finish stage index => exact unmoved rfl (departed.orderly.finish stage index).2
  | connect peer => exact concerns.elim
  | trigger => exact concerns.elim
  | stopAccepting => exact concerns.elim
  | stopPolling => exact concerns.elim
  | closePool stage => exact concerns.elim
  | complete => exact concerns.elim

/-- A connection that is over stays over in a run. -/
theorem Departed.run {dropped : List UInt8}
    (departed : server.Departed id start requests sent count dropped) (events : List Event)
    (concerns : ∀ event ∈ events, event.Concerns id) :
    (server.run events).Departed id start requests (sent ++ events.flatMap Event.sent) count
      (dropped ++ events.flatMap Event.sent) := by
  unfold Server.run
  induction events generalizing server sent dropped with
  | nil =>
    rw [List.flatMap_nil, List.append_nil, List.append_nil]
    exact departed
  | cons event events inductionHypothesis =>
    obtain ⟨first, others⟩ := List.forall_mem_cons.mp concerns
    rw [List.flatMap_cons, ← List.append_assoc, ← List.append_assoc]
    exact inductionHypothesis (departed.step event first) others

/-- A run keeps the conversation, until the connection ends because the client has ended its
output. -/
theorem Converses.run
    (converses : server.Converses id limit start requests sent received count holding)
    (areRequests : ∀ request ∈ requests,
      request.IsRequest limit ∧ request.encode.length ≤ limit)
    (events : List Event) (concerns : ∀ event ∈ events, event.Concerns id)
    (split : sent ++ events.flatMap Event.sent ++ unsent = requests.flatMap Value.encode) :
    ∃ later, count ≤ later ∧
      ((∃ holding, (server.run events).Converses id limit start requests
          (sent ++ events.flatMap Event.sent) (received ++ server.receivedIn id events) later
          holding) ∨
        ∃ dropped, (server.run events).Departed id start requests
          (sent ++ events.flatMap Event.sent) later dropped) := by
  induction events generalizing server sent received count holding with
  | nil =>
    rw [List.flatMap_nil, List.append_nil]
    refine ⟨count, Nat.le_refl _, .inl ⟨holding, ?_⟩⟩
    rw [receivedIn, List.append_nil]
    exact converses
  | cons event events inductionHypothesis =>
    obtain ⟨first, others⟩ := List.forall_mem_cons.mp concerns
    rw [List.flatMap_cons, ← List.append_assoc] at split ⊢
    have sofar : sent ++ event.sent ++ (events.flatMap Event.sent ++ unsent) =
        requests.flatMap Value.encode := by
      rw [← List.append_assoc]
      exact split
    rcases converses.step areRequests event first sofar with
      ⟨⟨next, holding, more, goesOn⟩, _⟩ | ⟨_, dropped, departed⟩
    · obtain ⟨later, yetMore, ends⟩ := inductionHypothesis goesOn others split
      rw [receivedIn, ← List.append_assoc]
      exact ⟨later, Nat.le_trans more yetMore, ends⟩
    · exact ⟨count, Nat.le_refl _, .inr ⟨_, departed.run events others⟩⟩

/-- As long as the client does not end its output, its conversation goes on. -/
theorem Converses.run_open
    (converses : server.Converses id limit start requests sent received count holding)
    (areRequests : ∀ request ∈ requests,
      request.IsRequest limit ∧ request.encode.length ≤ limit)
    (events : List Event)
    (concerns : ∀ event ∈ events, event.Concerns id ∧ ¬ event.EndsInput)
    (split : sent ++ events.flatMap Event.sent ++ unsent = requests.flatMap Value.encode)
    (goesOn : (server.socket id).inputEnded = false) :
    (∃ count holding, (server.run events).Converses id limit start requests
        (sent ++ events.flatMap Event.sent) (received ++ server.receivedIn id events) count
        holding) ∧
      ((server.run events).socket id).inputEnded = false := by
  induction events generalizing server sent received count holding with
  | nil =>
    rw [List.flatMap_nil, List.append_nil]
    refine ⟨⟨count, holding, ?_⟩, goesOn⟩
    rw [receivedIn, List.append_nil]
    exact converses
  | cons event events inductionHypothesis =>
    obtain ⟨⟨first, notEnded⟩, others⟩ := List.forall_mem_cons.mp concerns
    rw [List.flatMap_cons, ← List.append_assoc] at split ⊢
    have sofar : sent ++ event.sent ++ (events.flatMap Event.sent ++ unsent) =
        requests.flatMap Value.encode := by
      rw [← List.append_assoc]
      exact split
    rcases converses.step areRequests event first sofar with
      ⟨⟨count, holding, _, next⟩, same⟩ | ⟨ended, _⟩
    · rw [receivedIn, ← List.append_assoc]
      exact inductionHypothesis next others split ((same notEnded).trans goesOn)
    · rw [goesOn] at ended
      cases ended

/-- The first client of a server is admitted if there may be connections at all, and gets a session
if there is room for its input. -/
theorem connect_fresh (config : Config) (store : Store) (read process write : JobPool Session)
    (polling : Bool) (peer : Address) (admits : 0 < config.maxConnections.toNat)
    (roomy : config.Roomy) :
    (fresh config store read process write polling).step (.connect peer) =
      { fresh config store read process write polling with
        nextId := 2
        registries := (Registries.empty.insert firstId peer).2
        traffic := Traffic.zero.opened 1
        sockets := Bindings.empty.insert firstId .fresh
        control := [.add (Session.create firstId peer)] } :=
  @accept_of_roomy (fresh config store read process write polling) admits roomy peer

/-- The first client of a server that was started begins a conversation. -/
theorem converses_of_launch {host : Host} {config : Config} {taken : Bool} (roomy : config.Roomy)
    (bounded : config.maxRequestSize.toNat + 1 < UInt64.size)
    (launched : launch host config taken = .ok server) (peer : Address)
    (requests : List Value) :
    (server.step (.connect peer)).Converses firstId config.maxRequestSize.toNat server.store
        requests [] [] 0 (.added, Session.create firstId peer) ∧
      ((server.step (.connect peer)).socket firstId).inputEnded = false := by
  have orderly := (orderly_of_launch roomy bounded launched).step (.connect peer)
  obtain ⟨valid, store, _, rfl⟩ := eq_fresh_of_launch launched
  have admits : 0 < config.maxConnections.toNat :=
    positive_of_validate valid ("max_connections", config.maxConnections)
      (by simp [Config.sizes])
  rw [connect_fresh _ _ _ _ _ _ peer admits roomy] at orderly ⊢
  refine ⟨⟨rfl, orderly, rfl, rfl, ?_⟩, rfl⟩
  refine ⟨Nat.zero_le _, ?_, rfl, rfl, rfl, rfl, rfl, rfl, ⟨?_, ?_⟩, ⟨rfl, rfl⟩,
    fun _ => Place.noConfusion, id⟩
  · intro _ impossible
    cases impossible
  · intro _ member
    cases member
  · intro _ member
    cases member

end Server

end KeyValueServer
