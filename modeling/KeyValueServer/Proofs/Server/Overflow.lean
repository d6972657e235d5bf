import KeyValueServer.Proofs.Server.Fixture
import KeyValueServer.Proofs.Server.Ownership

/-!
# What a read job can count

A read job may take one byte more than the largest request has, and computes this number first. The
sum is a 64-bit number for every accepted configuration but those that allow requests of the largest
64-bit size. With all others a read job has room for a byte and comes to its end, whatever the
session holds, and it takes what lies ready in the socket.

With the largest size every read job stops at the sum, which is checked. It takes nothing, and its
session is lost. The connection stays in the registries and counts as open, so its place is lost as
well. No job of another kind ever begins.
-/

namespace KeyValueServer

namespace Socket

/-- What a run of reads brings stands behind what was read before it. -/
theorem readFrom_grows (inputEnded : Bool) (chunks : List (List UInt8)) (limit : Nat)
    (arrivals : List Arrival) :
    ∃ more, (readFrom inputEnded chunks limit arrivals).1.reverse.flatten =
      chunks.reverse.flatten ++ more := by
  induction arrivals generalizing chunks limit with
  | nil => exact ⟨[], (List.append_nil _).symm⟩
  | cons arrival arrivals inductionHypothesis =>
    have chunk (content : List UInt8) : (content :: chunks).reverse.flatten =
        chunks.reverse.flatten ++ content := by
      rw [List.reverse_cons, List.flatten_append, List.flatten_singleton]
    unfold readFrom
    split
    · exact ⟨[], (List.append_nil _).symm⟩
    · cases arrival with
      | bytes content =>
        dsimp only
        split
        · exact ⟨_, chunk _⟩
        · obtain ⟨more, grown⟩ := inductionHypothesis (content :: chunks) (limit - content.length)
          rw [chunk, List.append_assoc] at grown
          exact ⟨_, grown⟩
      | wouldBlock => exact ⟨[], (List.append_nil _).symm⟩
      | interrupted => exact inductionHypothesis chunks limit
      | failed failure => exact ⟨[], (List.append_nil _).symm⟩

/-- Whether the next reads bring bytes, before one has to wait or fails. -/
inductive Brings : List Arrival → Prop
  | bytes (content : List UInt8) (later : List Arrival) (some : content ≠ []) :
      Brings (.bytes content :: later)
  /-- Nothing is read. -/
  | empty (later : List Arrival) (brings : Brings later) : Brings (.bytes [] :: later)
  /-- The read is repeated. -/
  | interrupted (later : List Arrival) (brings : Brings later) : Brings (.interrupted :: later)

/-- A run of reads that may read bytes takes some of those that lie ready. -/
theorem readFrom_takes (inputEnded : Bool) (chunks : List (List UInt8)) {limit : Nat}
    (positive : 0 < limit) {arrivals : List Arrival} (brings : Brings arrivals) :
    ∃ more, more ≠ [] ∧ (readFrom inputEnded chunks limit arrivals).1.reverse.flatten =
      chunks.reverse.flatten ++ more := by
  have mayRead : limit ≠ 0 := Nat.ne_of_gt positive
  have chunk (content : List UInt8) : (content :: chunks).reverse.flatten =
      chunks.reverse.flatten ++ content := by
    rw [List.reverse_cons, List.flatten_append, List.flatten_singleton]
  induction brings generalizing chunks with
  | bytes content later some =>
    unfold readFrom
    rw [if_neg mayRead]
    dsimp only
    split
    · refine ⟨content.take limit, ?_, chunk _⟩
      rw [Ne, List.take_eq_nil_iff, not_or]
      exact ⟨mayRead, some⟩
    · obtain ⟨more, grown⟩ := readFrom_grows inputEnded (content :: chunks)
        (limit - content.length) later
      rw [chunk, List.append_assoc] at grown
      exact ⟨content ++ more, fun none => some (List.append_eq_nil_iff.mp none).1, grown⟩
  | empty later brings inductionHypothesis =>
    obtain ⟨more, any, grown⟩ := inductionHypothesis ([] :: chunks) fun content => by
      simp only [List.reverse_cons, List.flatten_append, List.flatten_singleton]
    rw [chunk, List.append_nil] at grown
    refine ⟨more, any, ?_⟩
    unfold readFrom
    rw [if_neg mayRead]
    exact grown
  | interrupted later brings inductionHypothesis =>
    unfold readFrom
    rw [if_neg mayRead]
    exact inductionHypothesis chunks chunk

/-- A read that may read bytes takes some of those that lie ready. -/
theorem read_takes (socket : Socket) {limit : Nat} (positive : 0 < limit)
    (brings : Brings socket.arrivals) :
    ∃ taken, taken ≠ [] ∧ taken ++ (socket.read limit).2.2.unread = socket.unread := by
  obtain ⟨taken, any, read⟩ := readFrom_takes socket.inputEnded [] positive brings
  refine ⟨taken, any, ?_⟩
  have same : (socket.read limit).1 = taken := read
  rw [← same]
  exact socket.read_conserves limit

end Socket

namespace Server

variable {server : Server} {store : Store} {session : Session}

/-- The socket of a connection is read no further while a session is dropped. -/
theorem unread_drop (server : Server) (session : Session) (id : ConnId) :
    ((server.drop session).socket id).unread = (server.socket id).unread := by
  rw [socket_drop]
  split
  · next same =>
    rw [same]
    rfl
  · rfl

/-- The socket of a connection is read no further while a session is submitted. -/
theorem unread_submit (server : Server) (stage : Stage) (session : Session) (id : ConnId) :
    ((server.submit stage session).socket id).unread = (server.socket id).unread := by
  unfold submit
  split
  · cases stage <;> rfl
  · exact unread_drop (server.unregister session.id) session id

/-- The socket of a connection is read no further while a session changes its stage. -/
theorem unread_advance (server : Server) (session : Session) (before after : Stage) (id : ConnId) :
    ((server.advance session before after).socket id).unread = (server.socket id).unread := by
  unfold advance
  split
  · rfl
  · next registries _ =>
    cases after with
    | readRegistered => rfl
    | processing => exact unread_submit { server with registries := registries } _ session id
    | writePending => exact unread_submit { server with registries := registries } _ session id

/-- The socket of a connection is read no further while its input is decoded. -/
theorem unread_decodeNext (server : Server) (session : Session) (id : ConnId) :
    ((server.decodeNext session).2.socket id).unread = (server.socket id).unread := by
  unfold decodeNext
  split
  · exact unread_drop server _ id
  · exact unread_advance server _ _ _ id
  · dsimp only
    split
    · rfl
    · exact unread_advance server _ _ _ id

/-- The limit of a read job is known and above the size of the largest request, unless this is the
largest number. -/
theorem readLimit_of_lt (bounded : server.requestLimit + 1 < UInt64.size) :
    server.readLimit = .ok (server.requestLimit + 1) := by
  rw [readLimit, if_pos bounded]

/-- A read job with a limit takes bytes that lie ready, whatever its session holds. -/
theorem takes_of_brings (bounded : server.requestLimit + 1 < UInt64.size) (session : Session)
    (brings : Socket.Brings (server.socket session.id).arrivals) :
    ∃ taken, taken ≠ [] ∧
      taken ++ ((server.read session).2.socket session.id).unread =
        (server.socket session.id).unread := by
  rcases filled : session.fill (server.requestLimit + 1) (server.socket session.id) with
    ⟨answer, after, left⟩
  obtain ⟨rfl, rfl⟩ := Session.eq_of_fill filled
  obtain ⟨taken, any, conserved⟩ :=
    (server.socket session.id).read_takes (Nat.succ_pos server.requestLimit) brings
  refine ⟨taken, any, ?_⟩
  rw [← conserved, Server.read, readLimit_of_lt bounded]
  simp only [filled]
  cases answer with
  | error error =>
    exact congrArg (fun socket => taken ++ Socket.unread socket) (socket_setSocket server _ _)
  | ok count =>
    dsimp only
    rw [unread_decodeNext]
    exact congrArg (fun socket => taken ++ Socket.unread socket) (socket_setSocket server _ _)

/-- Input can be decoded for every session that holds no request. -/
theorem decodeNext_of_idle (server : Server) (session : Session) (idle : session.command = none) :
    (server.decodeNext session).1 = none := by
  unfold decodeNext
  rw [session.parseNext_eq _ idle]
  split
  · next outcome => cases outcome
  · rfl
  · dsimp only
    split <;> rfl

/-- A read job with a limit comes to its end, whatever its session holds but a request. -/
theorem faultless_of_idle (bounded : server.requestLimit + 1 < UInt64.size) (session : Session)
    (idle : session.command = none) : (server.read session).1 = none := by
  rcases filled : session.fill (server.requestLimit + 1) (server.socket session.id) with
    ⟨answer, after, left⟩
  obtain ⟨rfl, rfl⟩ := Session.eq_of_fill filled
  rw [Server.read, readLimit_of_lt bounded]
  simp only [filled]
  cases answer with
  | error error => rfl
  | ok count =>
    exact decodeNext_of_idle _ _ idle

/-- A read job without a limit loses its session, and changes nothing but the socket. -/
theorem read_of_largest (largest : server.requestLimit + 1 = UInt64.size) (session : Session) :
    server.read session = (some .sumOverflow, server.drop session) := by
  have unbounded : ¬ server.requestLimit + 1 < UInt64.size := by omega
  rw [Server.read, readLimit, if_neg unbounded]
  rfl

/-- No connection has come further than to a read job, and each of these jobs has stopped. -/
structure Unserved (store : Store) (server : Server) : Prop where
  largest : server.requestLimit + 1 = UInt64.size
  control : ∀ message ∈ server.control,
    ∃ session, message = .add session ∧ session.command = none
  parked : ∀ id parked, server.parked.find? id = some parked →
    ∃ session, parked = .read session ∧ session.command = none
  jobs : ∀ session ∈ server.readPool.queue ++ server.readPool.running, session.command = none
  stopped : server.readPool.panicked = server.readPool.completed
  processing : server.processPool.queue = [] ∧ server.processPool.running = [] ∧
    server.processPool.submitted = 0
  writing : server.writePool.queue = [] ∧ server.writePool.running = [] ∧
    server.writePool.submitted = 0
  stored : server.store = store

/-- A server that was started has served nobody yet. -/
theorem unserved_of_launch {host : Host} {config : Config} {taken : Bool}
    (largest : config.maxRequestSize.toNat + 1 = UInt64.size)
    (launched : launch host config taken = .ok server) : Unserved server.store server := by
  obtain ⟨_, _, _, rfl⟩ := eq_fresh_of_launch launched
  exact ⟨largest, nofun, nofun, nofun, rfl, ⟨rfl, rfl, rfl⟩, ⟨rfl, rfl, rfl⟩, rfl⟩

/-- A session that is dropped was not served. -/
theorem Unserved.close (unserved : Unserved store server) (session : Session) :
    Unserved store (server.close session) :=
  { unserved with }

/-- Sessions that are dropped were not served. -/
theorem Unserved.closeAll (unserved : Unserved store server) (sessions : List Session) :
    Unserved store (server.closeAll sessions) := by
  rw [closeAll_eq]
  exact { unserved with }

/-- A session that goes to a read job is not served yet. -/
theorem Unserved.submit (unserved : Unserved store server) (idle : session.command = none) :
    Unserved store (server.submit .readRegistered session) := by
  unfold Server.submit
  split
  · next pool taken =>
    obtain ⟨_, rfl⟩ := JobPool.eq_of_submit taken
    refine { unserved with jobs := ?_ }
    intro other member
    have shape : other ∈ (server.readPool.queue ++ [session]) ++ server.readPool.running := member
    rw [List.append_assoc, List.singleton_append, List.mem_append, List.mem_cons] at shape
    rcases shape with waits | rfl | runs
    · exact unserved.jobs other (List.mem_append_left _ waits)
    · exact idle
    · exact unserved.jobs other (List.mem_append_right _ runs)
  · exact unserved.close session

/-- A client that connects is not served yet. -/
theorem Unserved.accept (unserved : Unserved store server) (peer : Address) :
    Unserved store (server.accept peer) := by
  obtain same | ⟨_, same⟩ | ⟨_, same⟩ := server.accept_cases peer
  · rw [same]
    exact { unserved with }
  · rw [same]
    refine { unserved with control := ?_ }
    intro message member
    rcases List.mem_append.mp member with earlier | new
    · exact unserved.control message earlier
    · rw [List.mem_singleton.mp new]
      exact ⟨_, rfl, rfl⟩
  · rw [same]
    exact { unserved with }

/-- What happens to a socket serves nobody. -/
theorem Unserved.onSocket (unserved : Unserved store server) (id : ConnId)
    (change : Socket → Socket) : Unserved store (server.onSocket id change) := by
  unfold Server.onSocket
  split
  · exact unserved
  · exact { unserved with }

/-- A session that enters the readiness set is not served yet. -/
theorem Unserved.park (unserved : Unserved store server) (registers : Bool)
    (idle : session.command = none) : Unserved store (server.park registers (.read session)) := by
  cases registers with
  | false => exact unserved.close session
  | true =>
    refine { unserved with parked := ?_ }
    intro id parked found
    change (server.parked.insert session.id (.read session)).find? id = some parked at found
    rw [Bindings.find?_insert] at found
    split at found
    · exact ⟨session, (Option.some.inj found).symm, idle⟩
    · exact unserved.parked id parked found

/-- The loop that looks at a message serves nobody. -/
theorem Unserved.applyControl (unserved : Unserved store server) (registers : Bool) :
    Unserved store (server.applyControl registers) := by
  unfold Server.applyControl
  cases heard : server.control with
  | nil => exact unserved
  | cons message messages =>
    obtain ⟨⟨session, rfl, idle⟩, others⟩ := List.forall_mem_cons.mp (heard ▸ unserved.control)
    have popped : Unserved store { server with control := messages } :=
      { unserved with control := others }
    simp only [Server.apply]
    split
    · exact popped.close session
    · next registries _ =>
      have moved : Unserved store { server with control := messages, registries := registries } :=
        { popped with }
      exact moved.park registers idle

/-- A connection that is reported goes to a read job. -/
theorem Unserved.ready (unserved : Unserved store server) (id : ConnId) :
    Unserved store (server.ready id) := by
  unfold Server.ready
  cases found : server.parked.find? id with
  | none => exact unserved
  | some parked =>
    obtain ⟨session, rfl, idle⟩ := unserved.parked id parked found
    have taken : Unserved store { server with parked := server.parked.erase id } := by
      refine { unserved with parked := ?_ }
      intro other parked stillFound
      change (server.parked.erase id).find? other = some parked at stillFound
      rw [Bindings.find?_erase] at stillFound
      split at stillFound
      · cases stillFound
      · exact unserved.parked other parked stillFound
    exact taken.submit idle

/-- A read job that starts has not served its session. -/
theorem Unserved.start (unserved : Unserved store server) (stage : Stage) :
    Unserved store (server.start stage) := by
  unfold Server.start
  split
  · exact unserved
  · next pool started =>
    obtain ⟨session, later, queue, _, rfl⟩ := JobPool.eq_of_start? started
    cases stage with
    | readRegistered =>
      refine { unserved with jobs := ?_ }
      intro other member
      have listed := unserved.jobs other
      rw [show server.readPool.queue = session :: later from queue] at listed
      have shape : other ∈ later ++ (server.readPool.running ++ [session]) := member
      refine listed ?_
      rw [← List.append_assoc] at shape
      rcases List.mem_append.mp shape with earlier | new
      · exact List.mem_cons_of_mem _ earlier
      · rw [List.mem_singleton.mp new]
        exact List.mem_cons_self
    | processing => exact nomatch unserved.processing.1.symm.trans queue
    | writePending => exact nomatch unserved.writing.1.symm.trans queue

/-- A read job of a server that serves nobody stops. It leaves everything but the pool and the
socket of its session as it is. -/
theorem Unserved.finish_eq (unserved : Unserved store server) {index : Nat}
    (found : server.readPool.running[index]? = some session) :
    server.finish .readRegistered index = (server.drop session).setPool .readRegistered
      { server.readPool with
        running := server.readPool.running.eraseIdx index
        completed := server.readPool.completed + 1
        panicked := server.readPool.panicked + 1 } := by
  have stops : ∃ fault, server.runJob .readRegistered session =
      (some fault, server.drop session) := by
    unfold runJob
    dsimp only
    split
    · exact ⟨_, read_of_largest unserved.largest session⟩
    · exact ⟨_, rfl⟩
  obtain ⟨fault, stops⟩ := stops
  have running : (server.pool .readRegistered).running[index]? = some session := found
  have same : (server.drop session).pool .readRegistered = server.readPool := rfl
  simp only [Server.finish, running, stops, same, JobPool.finish?, found, Option.isSome_some,
    ↓reduceIte]

/-- A job that ends has served nobody. -/
theorem Unserved.finish (unserved : Unserved store server) (stage : Stage) (index : Nat) :
    Unserved store (server.finish stage index) := by
  cases found : (server.pool stage).running[index]? with
  | none =>
    simp only [Server.finish, found]
    exact unserved
  | some session =>
    cases stage with
    | readRegistered =>
      rw [unserved.finish_eq found]
      refine { unserved with jobs := ?_, stopped := congrArg (· + 1) unserved.stopped }
      intro other member
      rcases List.mem_append.mp member with waits | runs
      · exact unserved.jobs other (List.mem_append_left _ waits)
      · exact unserved.jobs other (List.mem_append_right _ (List.mem_of_mem_eraseIdx runs))
    | processing =>
      have none : (server.pool .processing).running = [] := unserved.processing.2.1
      rw [none] at found
      cases found
    | writePending =>
      have none : (server.pool .writePending).running = [] := unserved.writing.2.1
      rw [none] at found
      cases found

/-- No step serves anybody. -/
theorem Unserved.step (unserved : Unserved store server) (event : Event) :
    Unserved store (server.step event) := by
  have into : server.StepsInto (Unserved store) := {
    idle := unserved
    accept := fun _ peer => unserved.accept peer
    onSocket := fun id change => unserved.onSocket id change
    applyControl := fun _ registers => unserved.applyControl registers
    ready := fun _ id => unserved.ready id
    start := unserved.start
    finish := unserved.finish
    trigger := { unserved with }
    stopAccepting := fun _ => { unserved with }
    stopPolling := by
      refine fun _ _ =>
        { unserved.closeAll (server.parked.values.map Parked.session) with parked := ?_ }
      intro id parked found
      cases found
    closePool := fun stage _ => by cases stage <;> exact { unserved with }
    complete := by
      refine fun _ _ =>
        { unserved.closeAll (server.control.map Control.session) with control := ?_ }
      intro message member
      cases member }
  exact into.step event

/-- No run serves anybody. -/
theorem Unserved.run (unserved : Unserved store server) (events : List Event) :
    Unserved store (server.run events) :=
  holds_run (fun event unserved => unserved.step event) unserved events

/-- No session of a server that serves nobody holds a request. -/
theorem Unserved.idle (unserved : Unserved store server) (holding : Holding)
    (member : holding ∈ server.holdings) : holding.2.command = none := by
  have job (stage : Stage) (isJob : holding ∈ server.jobs stage) :
      holding.2 ∈ (server.pool stage).queue ++ (server.pool stage).running := by
    rcases List.mem_append.mp isJob with waits | runs
    · obtain ⟨session, isIn, rfl⟩ := List.mem_map.mp waits
      exact List.mem_append_left _ isIn
    · obtain ⟨session, isIn, rfl⟩ := List.mem_map.mp runs
      exact List.mem_append_right _ isIn
  rcases List.mem_append.mp member with isMessage | others
  · obtain ⟨message, isIn, rfl⟩ := List.mem_map.mp isMessage
    obtain ⟨session, rfl, idle⟩ := unserved.control message isIn
    exact idle
  rcases List.mem_append.mp others with isParked | jobs
  · obtain ⟨parked, isIn, rfl⟩ := List.mem_map.mp isParked
    obtain ⟨id, found⟩ := Bindings.exists_find?_of_mem_values _ _ isIn
    obtain ⟨session, rfl, idle⟩ := unserved.parked id parked found
    exact idle
  rcases List.mem_append.mp jobs with reads | later
  · exact unserved.jobs holding.2 (job .readRegistered reads)
  rcases List.mem_append.mp later with executes | writes
  · have listed := job .processing executes
    rw [show (server.pool .processing).queue = [] from unserved.processing.1,
      show (server.pool .processing).running = [] from unserved.processing.2.1] at listed
    cases listed
  · have listed := job .writePending writes
    rw [show (server.pool .writePending).queue = [] from unserved.writing.1,
      show (server.pool .writePending).running = [] from unserved.writing.2.1] at listed
    cases listed

/-- The read jobs of servers with a configuration can do their work. -/
structure Reads (config : Config) : Prop where
  /-- The limit of a read job is a 64-bit number above the size of the largest request. -/
  limited : ∀ server : Server, server.config = config → ∃ limit, server.readLimit = .ok limit ∧
    config.maxRequestSize.toNat < limit ∧ limit < UInt64.size
  /-- A read job comes to its end, if no request is left in its session. -/
  faultless : ∀ (server : Server) (session : Session), server.config = config →
    session.command = none → (server.read session).1 = none
  /-- A read job takes some of the bytes that lie ready. -/
  takes : ∀ (server : Server) (session : Session), server.config = config →
    Socket.Brings (server.socket session.id).arrivals → ∃ taken, taken ≠ [] ∧
      taken ++ ((server.read session).2.socket session.id).unread =
        (server.socket session.id).unread
  /-- In no run does a read job stop. -/
  runs : ∀ host taken server, launch host config taken = .ok server → ∀ events,
    (∀ session ∈ (server.run events).readPool.running,
      ((server.run events).runJob .readRegistered session).1 = none) ∧
      (server.run events).readPool.panicked = 0

/-- The read jobs of servers with a configuration cannot do their work. They stop as in a build that
checks its sums; in one that lets them wrap the limit is 0, and a read job takes nothing. -/
structure Stalls (config : Config) : Prop where
  /-- A read job stops before it has read anything, and loses its session. -/
  faults : ∀ (server : Server) (session : Session), server.config = config →
    server.read session = (some .sumOverflow, server.drop session)
  /-- In no run is any connection served. -/
  unserved : ∀ host taken server, launch host config taken = .ok server → ∀ events,
    Unserved server.store (server.run events)
  /-- The connection of a session that is lost stays in the registries and counts as open. -/
  leaks : ∀ host taken server, launch host config taken = .ok server → ∀ events index session,
    (server.run events).readPool.running[index]? = some session →
    (server.run (events ++ [.finish .readRegistered index])).registries =
        (server.run events).registries ∧
      (server.run (events ++ [.finish .readRegistered index])).traffic =
        (server.run events).traffic ∧
      ((server.run (events ++ [.finish .readRegistered index])).socket session.id).closed = true ∧
      (server.run (events ++ [.finish .readRegistered index])).readPool.panicked =
        (server.run events).readPool.panicked + 1

/-- Read jobs can do their work where one more than the largest request is a 64-bit number. -/
theorem reads_of_lt {config : Config} (bounded : config.maxRequestSize.toNat + 1 < UInt64.size) :
    Reads config := by
  constructor
  · rintro server rfl
    exact ⟨_, readLimit_of_lt bounded, Nat.lt_succ_self _, bounded⟩
  · rintro server session rfl idle
    exact faultless_of_idle bounded session idle
  · rintro server session rfl brings
    exact takes_of_brings bounded session brings
  · intro host taken server launched events
    by_cases roomy : config.Roomy
    · have owned := ((orderly_of_launch roomy bounded launched).run events).owned
      exact ⟨owned.faultless .readRegistered, owned.calm .readRegistered⟩
    · have stranded := stranded_of_roomless roomy launched events
      have idle : (server.run events).readPool.running = [] :=
        (((holdings_eq_nil_iff _).mp stranded.nothing).2.2 .readRegistered).2
      refine ⟨fun session running => ?_, (stranded.unused .readRegistered).2.2⟩
      rw [idle] at running
      cases running

/-- Read jobs cannot do their work where requests may have the largest 64-bit size. -/
theorem stalls_of_largest {config : Config}
    (largest : config.maxRequestSize.toNat + 1 = UInt64.size) : Stalls config := by
  constructor
  · rintro server session rfl
    exact read_of_largest largest session
  · intro host taken server launched events
    exact (unserved_of_launch largest launched).run events
  · intro host taken server launched events index session found
    have unserved := (unserved_of_launch largest launched).run events
    have stops : server.run (events ++ [.finish .readRegistered index]) =
        (server.run events).finish .readRegistered index := by
      rw [run_append]
      rfl
    rw [stops, unserved.finish_eq found]
    refine ⟨rfl, rfl, ?_, rfl⟩
    have socket : (((server.run events).drop session).socket session.id).closed = true := by
      rw [drop, socket_setSocket]
      rfl
    exact socket

/-- Read jobs can do their work with every configuration but those that allow requests of the
largest 64-bit size. -/
theorem reads_unless_largest (config : Config) :
    (config.maxRequestSize ≠ 0xffffffffffffffff → Reads config) ∧
      (config.maxRequestSize = 0xffffffffffffffff → Stalls config) := by
  have below := config.maxRequestSize.toNat_lt_size
  constructor
  · intro smaller
    refine reads_of_lt ?_
    by_contra above
    apply smaller
    apply UInt64.toNat_inj.mp
    change config.maxRequestSize.toNat = UInt64.size - 1
    omega
  · intro largest
    refine stalls_of_largest ?_
    rw [largest]
    rfl

/-- Read jobs can do their work with the standard configuration. -/
theorem reads_of_standard :
    Config.standard.validate = .ok () ∧ Config.standard.maxRequestSize ≠ 0xffffffffffffffff ∧
      Reads Config.standard :=
  ⟨rfl, by decide, (reads_unless_largest Config.standard).1 (by decide)⟩

/-- The standard configuration for requests of the largest 64-bit size. -/
def largestRequests : Config := { Config.standard with maxRequestSize := 0xffffffffffffffff }

/-- A client connects and sends a byte, and a job sets out to read it. -/
def firstByte : List Event :=
  [.connect (Address.loopback 1), .applyControl true, .arrive ⟨1⟩ (.bytes [0x2a]), .ready ⟨1⟩,
    .start .readRegistered, .finish .readRegistered 0]

/-- A configuration can be accepted with which no read job comes to its end: the one that sets out
to read the first byte stops, and the connection is lost and stays registered. -/
theorem accepted_configuration_stops :
    largestRequests.validate = .ok () ∧
      ∃ server, launch Host.loopback largestRequests false = .ok server ∧
        server.readLimit = .error .sumOverflow ∧
        (server.run firstByte).readPool.panicked = 1 ∧
        ((server.run firstByte).socket ⟨1⟩).unread = [0x2a] ∧
        ((server.run firstByte).socket ⟨1⟩).closed = true ∧
        (server.run firstByte).holdings = [] ∧ (server.run firstByte).registries.size = 1 := by
  have launched : launch Host.loopback largestRequests false = .ok _ := rfl
  exact ⟨rfl, _, launched, rfl, rfl, rfl, rfl, rfl, rfl⟩

end Server

end KeyValueServer
