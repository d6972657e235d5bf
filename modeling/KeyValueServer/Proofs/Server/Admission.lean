import KeyValueServer.Proofs.Server.Runs

/-!
# What becomes of a client that connects

A client is turned away or admitted. To one that is admitted the configuration promises room for
some of its input from the start. Where there can be that much room the client gets a session, which
goes to the loop that owns the readiness set. Where there cannot, the fault comes when the client is
in the registries already, and takes the loop with it that accepts connections.
-/

namespace KeyValueServer

/-- Whether there can be room for as much input of a connection as is asked for from the start. -/
def Config.Roomy (config : Config) : Prop := config.readBufferSize.toNat ≤ Fault.largestBlock

instance (config : Config) : Decidable config.Roomy :=
  inferInstanceAs (Decidable (config.readBufferSize.toNat ≤ Fault.largestBlock))

/-- A session is made where there can be room for its input. -/
theorem Session.createWith_of_le (id : ConnId) (peer : Address) {capacity : Nat}
    (room : capacity ≤ Fault.largestBlock) :
    createWith id peer capacity = .ok (create id peer) := by
  unfold createWith Fault.checkRoom
  rw [Nat.mul_one, if_pos room]
  rfl

/-- No session is made where there cannot. -/
theorem Session.createWith_of_lt (id : ConnId) (peer : Address) {capacity : Nat}
    (excess : Fault.largestBlock < capacity) :
    createWith id peer capacity = .error .capacityOverflow := by
  unfold createWith Fault.checkRoom
  rw [Nat.mul_one, if_neg (Nat.not_le.mpr excess)]
  rfl

/-- The attempt to connect that an event is, if there is somebody to notice it. -/
def Event.attempts (server : Server) : Event → List Address
  | .connect peer => if server.accepting then [peer] else []
  | _ => []

/-- Only clients that connect attempt to. -/
theorem Event.attempts_eq_nil (server : Server) {event : Event}
    (known : ∀ peer, event ≠ .connect peer) : event.attempts server = [] := by
  cases event with
  | connect peer => exact absurd rfl (known peer)
  | _ => rfl

namespace Server

variable {server : Server}

/-- The number of the first connection. -/
def firstId : ConnId := ⟨1⟩

/-- What is observed of the events of a run, one after the other. -/
def history {Item : Type} (observe : Server → Event → List Item) (server : Server) :
    List Event → List Item
  | [] => []
  | event :: events => observe server event ++ (server.step event).history observe events

/-- A client is turned away where as many connections are open as may be. -/
theorem accept_of_full (full : server.config.maxConnections.toNat ≤ server.registries.size)
    (peer : Address) :
    server.accept peer = { server with traffic := server.traffic.turnedAway 1 } :=
  if_pos full

/-- A client that is admitted gets a session where there is room. -/
theorem accept_of_roomy (free : server.registries.size < server.config.maxConnections.toNat)
    (roomy : server.config.Roomy) (peer : Address) :
    server.accept peer =
      (server.enroll peer).notify (.add (Session.create ⟨server.nextId⟩ peer)) := by
  simp only [accept, Nat.not_le.mpr free, if_false, Session.createWith_of_le _ _ roomy]

/-- Where there is no room the client stays without a session. -/
theorem accept_of_roomless (free : server.registries.size < server.config.maxConnections.toNat)
    (roomless : ¬ server.config.Roomy) (peer : Address) :
    server.accept peer =
      { (server.enroll peer).setSocket ⟨server.nextId⟩ Socket.fresh.hangUp with
        accepting := false } := by
  simp only [accept, Nat.not_le.mpr free, if_false,
    Session.createWith_of_lt _ _ (Nat.not_le.mp roomless)]

/-- A client that connects is turned away, gets a session, or stays without one. -/
theorem accept_cases (server : Server) (peer : Address) :
    server.accept peer = { server with traffic := server.traffic.turnedAway 1 } ∨
      server.config.Roomy ∧ server.accept peer =
        (server.enroll peer).notify (.add (Session.create ⟨server.nextId⟩ peer)) ∨
      ¬ server.config.Roomy ∧ server.accept peer =
        { (server.enroll peer).setSocket ⟨server.nextId⟩ Socket.fresh.hangUp with
          accepting := false } := by
  by_cases full : server.config.maxConnections.toNat ≤ server.registries.size
  · exact .inl (accept_of_full full peer)
  · have free := Nat.lt_of_not_le full
    by_cases roomy : server.config.Roomy
    · exact .inr (.inl ⟨roomy, accept_of_roomy free roomy peer⟩)
    · exact .inr (.inr ⟨roomy, accept_of_roomless free roomy peer⟩)

/-- Whatever becomes of the client, the loop that owns the readiness set, the pools and a shutdown
are as far as they were. -/
theorem accept_beside (server : Server) (peer : Address) :
    (server.accept peer).polling = server.polling ∧
      (server.accept peer).signal = server.signal ∧
      (server.accept peer).stopped = server.stopped ∧
      ∀ stage, (server.accept peer).pool stage = server.pool stage := by
  obtain same | ⟨_, same⟩ | ⟨_, same⟩ := server.accept_cases peer
  · rw [same]
    exact ⟨rfl, rfl, rfl, fun _ => rfl⟩
  · rw [same]
    exact ⟨rfl, rfl, rfl, fun _ => rfl⟩
  · rw [same]
    exact ⟨rfl, rfl, rfl, fun _ => rfl⟩

/-- The sockets of earlier connections do not change. -/
theorem socket_accept (peer : Address) {id : ConnId} (earlier : id.number < server.nextId) :
    (server.accept peer).socket id = server.socket id := by
  have differs : id ≠ ⟨server.nextId⟩ := by
    intro same
    rw [same] at earlier
    exact Nat.lt_irrefl _ earlier
  obtain same | ⟨_, same⟩ | ⟨_, same⟩ := server.accept_cases peer
  · rw [same]
    rfl
  · rw [same]
    simp only [socket, notify, enroll, Bindings.find?_insert, if_neg differs]
  · rw [same]
    simp only [socket, setSocket, enroll, Bindings.find?_insert, if_neg differs]

end Server

end KeyValueServer
