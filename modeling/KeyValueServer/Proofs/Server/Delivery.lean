import KeyValueServer.Proofs.Server.Unattended

/-!
# Segments that a client chooses

Whatever segments the client of a lone connection chooses, there is a run in which exactly these are
read, one behind the other, if each is no longer than one job may read and none but the last is
refused. So what is said about all segments is said about runs, and nothing in it is out of reach.
-/

namespace KeyValueServer

/-- Where a session goes with a verdict. -/
def Verdict.place : Verdict → Place
  | .waits => .readMore
  | .takes _ _ | .refuses _ => .queued .processing

/-- A read job hands its session on as the verdict about the input says. -/
theorem Turn.judged {limit count : Nat} {session filled : Session} {next : Holding}
    {scene later : Scene} {socket : Socket}
    (turn : Turn limit (.running .readRegistered, session) scene next later)
    (read : session.fill (limit + 1) scene.socket = (.ok count, filled, socket))
    (idle : filled.command = none) :
    next.1 = (judge limit filled.input).place ∧
      (judge limit filled.input).Made filled.input next.2 ∧
      next.2.output = filled.output ∧ next.2.closeAfterWrite = filled.closeAfterWrite ∧
      later.socket = socket := by
  cases turn with
  | passed _ _ _ _ passage => cases passage
  | lost _ _ _ _ _ lost => cases lost.symm.trans read
  | short _ _ _ _ _ same incomplete small =>
    cases same.symm.trans read
    rw [judge_eq_waits_iff.mpr ⟨incomplete, small⟩]
    exact ⟨rfl, ⟨idle, rfl⟩, rfl, rfl, rfl⟩
  | oversized _ _ _ _ _ same incomplete large =>
    cases same.symm.trans read
    rw [judge_oversized incomplete large]
    exact ⟨rfl, ⟨rfl, rfl⟩, rfl, rfl, rfl⟩
  | malformed _ _ _ _ _ error same refused =>
    cases same.symm.trans read
    rw [judge_malformed refused]
    exact ⟨rfl, ⟨rfl, rfl⟩, rfl, rfl, rfl⟩
  | decoded _ _ _ _ _ request rest same complete =>
    cases same.symm.trans read
    rw [judge_eq_takes_iff.mpr ⟨_, complete⟩]
    exact ⟨rfl, ⟨rfl, rfl⟩, rfl, rfl, rfl⟩

/-- A job that executes a request hands its session on with the reply. -/
theorem Turn.replied {limit : Nat} {session : Session} {next : Holding} {scene later : Scene}
    {request : Value} (turn : Turn limit (.running .processing, session) scene next later)
    (stored : session.command = some (.ok request)) :
    next = (.queued .writePending,
        { session with command := none }.queueReply (Command.execute scene.store request).1) ∧
      later.socket = scene.socket := by
  cases turn with
  | passed _ _ _ _ passage => cases passage
  | executed _ _ other same =>
    obtain rfl := Except.ok.inj (Option.some.inj (same.symm.trans stored))
    exact ⟨rfl, rfl⟩
  | refused _ _ error same => cases same.symm.trans stored

/-- A job that writes all output of a connection that goes on hands its session back. -/
theorem Turn.written {limit count : Nat} {session flushed : Session} {next : Holding}
    {scene later : Scene} {socket : Socket}
    (turn : Turn limit (.running .writePending, session) scene next later)
    (written : session.flush scene.socket = (.ok (.done count), flushed, socket))
    (goesOn : flushed.closeAfterWrite = false) :
    next = (.rearm, flushed) ∧ later.socket = socket := by
  cases turn with
  | passed _ _ _ _ passage => cases passage
  | broken _ _ _ _ _ same => cases same.symm.trans written
  | blocked _ _ _ _ _ same => cases same.symm.trans written
  | ended _ _ _ _ _ same closing =>
    cases same.symm.trans written
    cases goesOn.symm.trans closing
  | answered _ _ _ _ _ same _ =>
    cases same.symm.trans written
    exact ⟨rfl, rfl⟩

namespace Server

/-- The one connection of a server has no output left and waits for input, in the readiness set or
for a worker. -/
structure Listening (server : Server) (id : ConnId) (limit : Nat) (place : Place)
    (session : Session) : Prop where
  alone : server.Alone id limit (place, session)
  awaits : place = .parkedRead ∨ place = .queued .readRegistered
  output : session.output = []
  goesOn : session.closeAfterWrite = false
  quiet : (server.socket id).Quiet

/-- The session of the one connection was judged with `verdict` about the input `found`, and the
job that goes with the verdict is still to come. -/
structure Judged (server : Server) (id : ConnId) (limit : Nat) (verdict : Verdict)
    (found : List UInt8) (session : Session) : Prop where
  alone : server.Alone id limit (verdict.place, session)
  made : verdict.Made found session
  output : session.output = []
  goesOn : session.closeAfterWrite = false
  quiet : (server.socket id).Quiet

variable {server : Server} {id : ConnId} {limit : Nat} {place : Place} {session : Session}

/-- A session that waits for input has no request. -/
theorem Listening.idle (listening : server.Listening id limit place session) :
    session.command = none := by
  have stored := listening.alone.orderly.accounted.stored _ listening.alone.member
  refine Place.idle_of_stored stored ?_
  rcases listening.awaits with rfl | rfl <;> rfl

/-- The socket of the one connection is there. -/
theorem Alone.connected {holding : Holding} (alone : server.Alone id limit holding) :
    (server.sockets.find? id).isSome = true := by
  rw [← alone.named]
  exact alone.orderly.connected holding alone.member

/-- Bytes that arrive concern only the socket. -/
theorem Alone.arrives {holding : Holding} (alone : server.Alone id limit holding)
    (content : List UInt8) :
    (server.step (.arrive id (.bytes content))).Alone id limit holding ∧
      (server.step (.arrive id (.bytes content))).socket id = (server.socket id).feed content := by
  have arrives : server.step (.arrive id (.bytes content)) =
      server.onSocket id fun socket => socket.feed content := rfl
  have sizes := (server.kept_of_step (.arrive id (.bytes content))).2.1
  rw [arrives] at sizes ⊢
  obtain ⟨holdings, config, polling, _, _⟩ :=
    server.unconcerned_onSocket id fun socket => socket.feed content
  have scene := server.scene_onSocket id (fun socket => socket.feed content) alone.connected
  refine ⟨⟨polling.trans alone.polling, (requestLimit_of_config config).trans alone.limited,
    alone.orderly.onSocket id _, fun stage => ?_, holdings.trans alone.alone, alone.named⟩,
    congrArg Scene.socket scene⟩
  exact Nat.lt_of_lt_of_eq (alone.staffed stage) (sizes stage).symm

/-- A session that waits for input comes to a worker. -/
theorem Alone.listens (alone : server.Alone id limit (place, session))
    (awaits : place = .parkedRead ∨ place = .queued .readRegistered) :
    ∃ after, server.Reaches id [] [] after ∧
      after.Alone id limit (.running .readRegistered, session) ∧
      after.socket id = server.socket id := by
  rcases awaits with rfl | rfl
  · obtain ⟨queued, same⟩ := alone.reported
    obtain ⟨started, sameThen⟩ := queued.started
    refine ⟨_, ?_, started, sameThen.trans same⟩
    exact ((Reaches.refl server id).step (.ready id) rfl rfl).step (.start .readRegistered) rfl rfl
  · obtain ⟨started, same⟩ := alone.started
    exact ⟨_, (Reaches.refl server id).step (.start .readRegistered) rfl rfl, started, same⟩

/-- A socket with one segment in it is quiet once the segment is read. -/
theorem quiet_of_feed {socket : Socket} (quiet : socket.Quiet) (content : List UInt8) :
    (socket.feed content).arrivals = [.bytes content] ∧
      ({ socket.feed content with arrivals := [] } : Socket).Quiet := by
  refine ⟨?_, rfl, quiet.allowances, quiet.inputEnded, quiet.peerClosed⟩
  rw [Socket.feed, quiet.arrivals]
  rfl

/-- A segment that arrives while the connection waits for input is read and judged. -/
theorem Listening.reads (listening : server.Listening id limit place session)
    (segment : List UInt8) (bounded : segment.length ≤ limit + 1) :
    ∃ after judged, server.Reaches id segment [segment] after ∧
      after.Judged id limit (judge limit (session.input ++ segment)) (session.input ++ segment)
        judged := by
  obtain ⟨arrived, socketThen⟩ := listening.alone.arrives segment
  obtain ⟨ready, reaches, running, socket⟩ := arrived.listens listening.awaits
  obtain ⟨next, turn, ends, ended⟩ := running.finished
  obtain ⟨arrivals, quiet⟩ := quiet_of_feed listening.quiet segment
  rw [← socketThen, ← socket] at arrivals quiet
  have positive := Nat.succ_pos limit
  have read := session.fill_whole segment arrivals quiet.inputEnded positive bounded
  obtain ⟨place, made, output, goesOn, left⟩ := turn.judged read listening.idle
  have segments : (Event.finish .readRegistered 0).segments ready id = [segment] := by
    obtain ⟨stop, _, whole⟩ :=
      (ready.socket id).read_whole segment (limit + 1) arrivals quiet.inputEnded positive bounded
    have named : session.id = id := running.named
    rw [segments_of_ended ended, if_pos named, running.limited, named]
    dsimp only [Place.segments]
    rw [whole]
  have delivers := ((server.reaches_step id (.arrive id (.bytes segment))).trans reaches).trans
    (ready.reaches_step id (.finish .readRegistered 0))
  have sent : (Event.arrive id (.bytes segment)).sent ++ [] ++
      (Event.finish .readRegistered 0).sent = segment := by
    simp [Event.sent, Arrival.content]
  rw [segments, sent] at delivers
  refine ⟨ready.step (.finish .readRegistered 0), next.2, delivers, place ▸ ends, made,
    output.trans listening.output, goesOn.trans listening.goesOn, ?_⟩
  have same : (ready.step (.finish .readRegistered 0)).socket id = _ := left
  rw [same]
  exact quiet

/-- A job that does not read can follow a run. -/
theorem Reaches.works {after : Server} {sent : List UInt8} {segments : List (List UInt8)}
    {stage : Stage} (reaches : server.Reaches id sent segments after)
    (ended : (Event.finish stage 0).ended after = some (stage, session))
    (other : stage ≠ .readRegistered) :
    server.Reaches id sent segments (after.step (.finish stage 0)) := by
  have nothing : (Event.finish stage 0).segments after id = [] := by
    rw [segments_of_ended ended]
    cases stage with
    | readRegistered => exact absurd rfl other
    | processing => exact ite_self []
    | writePending => exact ite_self []
  have follows := reaches.trans (after.reaches_step id (.finish stage 0))
  rw [nothing, List.append_nil] at follows
  have silent : sent ++ (Event.finish stage 0).sent = sent := List.append_nil sent
  rw [silent] at follows
  exact follows

/-- A session whose reply is written waits for input again. -/
theorem Alone.rearmed (alone : server.Alone id limit (.rearm, session)) :
    ∃ place, (place = .parkedRead ∨ place = .queued .readRegistered) ∧
      (server.step (.applyControl true)).Alone id limit (place, session) ∧
      (server.step (.applyControl true)).socket id = server.socket id := by
  have heard : server.Alone id limit (Control.rearm session).holding := alone
  obtain ⟨place, passage, goesOn, socket⟩ := heard.applies Place.noConfusion
  refine ⟨place, ?_, goesOn, socket⟩
  cases passage with
  | wantsNext _ => exact .inl rfl
  | hasNext _ => exact .inr rfl

/-- A request that was taken is executed and answered, and the connection waits for input again. -/
theorem Judged.serves {request : Value} {rest found : List UInt8}
    (judged : server.Judged id limit (.takes request rest) found session) :
    ∃ after place next, server.Reaches id [] [] after ∧
      after.Listening id limit place next ∧ next.input = rest := by
  obtain ⟨stored, input⟩ := judged.made
  obtain ⟨executing, same⟩ := judged.alone.started
  obtain ⟨replied, executes, queued, executed⟩ := executing.finished
  obtain ⟨rfl, sameThen⟩ := executes.replied stored
  obtain ⟨writing, sameAgain⟩ := queued.started
  obtain ⟨written, writes, ended, wrote⟩ := writing.finished
  have quiet := judged.quiet
  have socket : ((((server.step (.start .processing)).step (.finish .processing 0)).step
      (.start .writePending)).scene id).socket = server.socket id :=
    sameAgain.trans (sameThen.trans same)
  rw [← socket] at quiet
  obtain ⟨rfl, left⟩ := writes.written (Session.flush_whole _ quiet.allowances quiet.peerClosed)
    judged.goesOn
  obtain ⟨place, awaits, listens, sameLast⟩ := ended.rearmed
  have reaches := (((((Reaches.refl server id).step (.start .processing) rfl rfl).works executed
    Stage.noConfusion).step (.start .writePending) rfl rfl).works wrote
    Stage.noConfusion).step (.applyControl true) rfl rfl
  refine ⟨_, place, _, reaches, ⟨listens, awaits, rfl, judged.goesOn, ?_⟩, input⟩
  have same := sameLast.trans left
  rw [same]
  exact ⟨quiet.arrivals, rfl, quiet.inputEnded, quiet.peerClosed⟩

/-- A connection whose request is incomplete waits for input again. -/
theorem Judged.waits {found : List UInt8}
    (judged : server.Judged id limit .waits found session) :
    ∃ after, server.Reaches id [] [] after ∧ after.Listening id limit .parkedRead session ∧
      session.input = found := by
  have heard : server.Alone id limit (Control.readMore session).holding := judged.alone
  obtain ⟨place, passage, goesOn, same⟩ := heard.applies Place.noConfusion
  cases passage
  refine ⟨_, (Reaches.refl server id).step (.applyControl true) rfl rfl,
    ⟨goesOn, .inl rfl, judged.output, judged.goesOn, ?_⟩, judged.made.2⟩
  rw [same]
  exact judged.quiet

/-- Segments that are not refused are read one behind the other. -/
theorem Listening.hears (listening : server.Listening id limit place session) (streak : Nat)
    (segments : List (List UInt8)) (bounded : ∀ segment ∈ segments, segment.length ≤ limit + 1)
    (calm : Intake.Calm limit ⟨session.input, streak⟩ segments) :
    ∃ after place next, server.Reaches id segments.flatten segments after ∧
      after.Listening id limit place next ∧
      next.input = (Intake.hearAll limit ⟨session.input, streak⟩ segments).input := by
  induction segments generalizing server place session streak with
  | nil => exact ⟨server, place, session, Reaches.refl server id, listening, rfl⟩
  | cons segment segments inductionHypothesis =>
    obtain ⟨first, others⟩ := List.forall_mem_cons.mp bounded
    obtain ⟨unrefused, calmThen⟩ := calm
    obtain ⟨looked, judged, reads, verdict⟩ := listening.reads segment first
    have goesOn : ∃ after place next, looked.Reaches id [] [] after ∧
        after.Listening id limit place next ∧
        next.input = (Intake.hear limit ⟨session.input, streak⟩ segment).input := by
      rw [Intake.input_hear]
      dsimp only at unrefused ⊢
      cases outcome : judge limit (session.input ++ segment) with
      | waits =>
        rw [outcome] at verdict
        obtain ⟨after, reaches, listens, input⟩ := verdict.waits
        exact ⟨after, _, judged, reaches, listens, input⟩
      | takes request rest =>
        rw [outcome] at verdict
        exact verdict.serves
      | refuses error => exact absurd outcome (unrefused error)
    obtain ⟨middle, placeThen, next, reaches, listens, input⟩ := goesOn
    have intake : Intake.hear limit ⟨session.input, streak⟩ segment =
        ⟨next.input, (Intake.hear limit ⟨session.input, streak⟩ segment).streak⟩ := by
      rw [input]
    rw [intake] at calmThen
    obtain ⟨after, last, final, reachesThen, listensThen, inputThen⟩ :=
      inductionHypothesis listens _ others calmThen
    have whole := (reads.trans reaches).trans reachesThen
    rw [List.append_nil, List.append_nil] at whole
    refine ⟨after, last, final, whole, listensThen, ?_⟩
    rw [inputThen, ← intake]
    rfl

/-- The first client of a server that was started has its input awaited. -/
theorem listening_of_launch {host : Host} {config : Config} {taken : Bool}
    (bounded : config.maxRequestSize.toNat + 1 < UInt64.size)
    (launched : launch host config taken = .ok server) (attends : server.Attends)
    (peer : Address) :
    ∃ after, server.Reaches firstId [] [] after ∧
      after.Listening firstId config.maxRequestSize.toNat .parkedRead
        (Session.create firstId peer) := by
  obtain ⟨roomy, polling⟩ := attends
  rw [config_of_launch launched] at roomy
  have orderly := (orderly_of_launch roomy bounded launched).step (.connect peer)
  obtain ⟨valid, store, _, rfl⟩ := eq_fresh_of_launch launched
  have positive := positive_of_validate valid
  have admits := positive ("max_connections", config.maxConnections) (by simp [Config.sizes])
  let admitted := (fresh config store (JobPool.fresh "read" config.readWorkers.toNat)
    (JobPool.fresh "process" config.processWorkers.toNat)
    (JobPool.fresh "write" config.writeWorkers.toNat) (mayPoll host config)).step (.connect peer)
  have shape := connect_fresh config store (JobPool.fresh "read" config.readWorkers.toNat)
    (JobPool.fresh "process" config.processWorkers.toNat)
    (JobPool.fresh "write" config.writeWorkers.toNat) (mayPoll host config) peer admits roomy
  have alone : admitted.Alone firstId config.maxRequestSize.toNat
      (Control.add (Session.create firstId peer)).holding := by
    rw [shape] at orderly
    simp only [admitted, shape]
    refine ⟨polling, rfl, orderly, fun stage => ?_, rfl, rfl⟩
    cases stage with
    | readRegistered =>
      exact positive ("read_workers", config.readWorkers) (by simp [Config.sizes])
    | processing =>
      exact positive ("process_workers", config.processWorkers) (by simp [Config.sizes])
    | writePending =>
      exact positive ("write_workers", config.writeWorkers) (by simp [Config.sizes])
  have socket : admitted.socket firstId = Socket.fresh := by
    simp only [admitted, shape]
    rfl
  obtain ⟨place, passage, goesOn, same⟩ := alone.applies Place.noConfusion
  cases passage
  refine ⟨_, ((Reaches.refl _ firstId).step (.connect peer) rfl rfl).step (.applyControl true)
    rfl rfl, goesOn, .inl rfl, rfl, rfl, ?_⟩
  rw [same, socket]
  exact ⟨rfl, rfl, rfl, rfl⟩

/-- Any segments of which none but the last is refused are read in some run from the connection of
the first client, and the verdict about the last of them is still to be carried out. -/
theorem exists_judged {host : Host} {config : Config} {taken : Bool}
    (bounded : config.maxRequestSize.toNat + 1 < UInt64.size)
    (launched : launch host config taken = .ok server) (attends : server.Attends)
    (peer : Address) (segments : List (List UInt8)) (last : List UInt8)
    (short : ∀ segment ∈ segments ++ [last], segment.length ≤ config.maxRequestSize.toNat + 1)
    (calm : Intake.Calm config.maxRequestSize.toNat Intake.start segments) :
    ∃ after session, server.Reaches firstId (segments.flatten ++ last) (segments ++ [last]) after ∧
      after.Judged firstId config.maxRequestSize.toNat
        (judge config.maxRequestSize.toNat
          (foundBehind config.maxRequestSize.toNat segments last))
        (foundBehind config.maxRequestSize.toNat segments last) session := by
  obtain ⟨shortFirst, shortLast⟩ := List.forall_mem_append.mp short
  obtain ⟨begun, reaches, listening⟩ := listening_of_launch bounded launched attends peer
  obtain ⟨middle, place, next, reads, listens, input⟩ :=
    listening.hears 0 segments shortFirst calm
  obtain ⟨after, session, lastly, judged⟩ :=
    listens.reads last (shortLast last (List.mem_singleton_self last))
  rw [input] at judged
  exact ⟨after, session, (reaches.trans reads).trans lastly, judged⟩

end Server

end KeyValueServer
