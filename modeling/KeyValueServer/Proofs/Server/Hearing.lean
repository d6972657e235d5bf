import KeyValueServer.Proofs.Request.Intake
import KeyValueServer.Proofs.Server.Outcome

/-!
# What a server has heard from a connection

The segments that are read from the socket of a connection in a run decide what its session holds,
whatever else the server does and however its steps are scheduled. Between two reads the session
holds the input that the segments left, and on its way to execution it holds what was made of the
input behind the last of them. Only a session that is to be removed may hold input that was not
judged.
-/

namespace KeyValueServer

/-- The segments that a job reads when an event ends the job, if it is one of the connection. There
is at most one. -/
def Event.segments (server : Server) (id : ConnId) (event : Event) : List (List UInt8) :=
  match event.ended server with
  | some (.readRegistered, session) =>
    if session.id = id then [((server.socket id).read (server.requestLimit + 1)).1] else []
  | _ => []

/-- The segments that are read from the socket of a connection in a run. -/
def Server.segmentsIn (server : Server) (id : ConnId) : List Event → List (List UInt8)
  | [] => []
  | event :: events => event.segments server id ++ (server.step event).segmentsIn id events

/-- What a verdict about the input `found` makes of a session. The reply to refused input is still
to be made, and the input is dropped with it. -/
def Verdict.Made (found : List UInt8) (session : Session) : Verdict → Prop
  | .waits => session.command = none ∧ session.input = found
  | .takes request rest => session.command = some (.ok request) ∧ session.input = rest
  | .refuses error => session.command = some (.error error) ∧ session.input = found

/-- The input that is found behind the last of the segments, where requests have at most `limit`
bytes. -/
def foundBehind (limit : Nat) (earlier : List (List UInt8)) (last : List UInt8) : List UInt8 :=
  (Intake.start.hearAll limit earlier).input ++ last

/-- What a session in a place holds after the segments that were read from its connection. -/
def Place.Heard (limit : Nat) (segments : List (List UInt8)) (session : Session) : Place → Prop
  | .queued .processing | .running .processing =>
    ∃ earlier last, segments = earlier ++ [last] ∧
      (judge limit (foundBehind limit earlier last)).Made (foundBehind limit earlier last) session
  | .removed =>
    session.input = (Intake.start.hearAll limit segments).input ∨
      ∃ earlier last, segments = earlier ++ [last] ∧
        session.input = foundBehind limit earlier last
  | .added | .readMore | .rearm | .awaitWritable | .parkedRead | .parkedWrite
  | .queued .readRegistered | .running .readRegistered
  | .queued .writePending | .running .writePending =>
    session.input = (Intake.start.hearAll limit segments).input

/-- The segments that the job of a place reads from a socket. -/
def Place.segments (limit : Nat) (socket : Socket) : Place → List (List UInt8)
  | .running .readRegistered => [(socket.read (limit + 1)).1]
  | _ => []

section Turning

variable {limit : Nat} {segments : List (List UInt8)} {session : Session}

/-- A session that goes on as it is holds what it held. -/
theorem Passage.heard {before after : Place} (passage : Passage session before after)
    (heard : before.Heard limit segments session) : after.Heard limit segments session := by
  cases passage with
  | started stage => cases stage <;> exact heard
  | admitted | wantsMore | wantsNext | hasNext | wantsRoom | readable | writable => exact heard

/-- A session on its way to execution holds what was made of the input behind the last segment. -/
theorem Place.Heard.made {place : Place} (heard : place.Heard limit segments session)
    (executes : place.executes = true) :
    ∃ earlier last, segments = earlier ++ [last] ∧
      (judge limit (foundBehind limit earlier last)).Made (foundBehind limit earlier last)
        session := by
  cases place with
  | queued stage =>
    cases stage with
    | readRegistered | writePending => cases executes
    | processing => exact heard
  | running stage =>
    cases stage with
    | readRegistered | writePending => cases executes
    | processing => exact heard
  | removed | added | readMore | rearm | awaitWritable | parkedRead | parkedWrite => cases executes

/-- Any other session holds what the segments left, or all the input behind the last of them. -/
theorem Place.Heard.input_cases {place : Place} (heard : place.Heard limit segments session)
    (idle : place.executes = false) :
    session.input = (Intake.start.hearAll limit segments).input ∨
      ∃ earlier last, segments = earlier ++ [last] ∧
        session.input = foundBehind limit earlier last := by
  cases place with
  | queued stage =>
    cases stage with
    | readRegistered | writePending => exact .inl heard
    | processing => cases idle
  | running stage =>
    cases stage with
    | readRegistered | writePending => exact .inl heard
    | processing => cases idle
  | removed => exact heard
  | added | readMore | rearm | awaitWritable | parkedRead | parkedWrite => exact .inl heard

/-- No job runs for a session that goes on as it is. -/
theorem Passage.segments_eq_nil {before after : Place} (passage : Passage session before after)
    (socket : Socket) : before.segments limit socket = [] := by
  cases passage <;> rfl

/-- A request that was taken leaves its rest in hand. -/
theorem Verdict.Made.rest_of_ok {verdict : Verdict} {found : List UInt8} {request : Value}
    (made : verdict.Made found session) (stored : session.command = some (.ok request)) :
    session.input = verdict.rest found := by
  cases verdict with
  | waits => cases made.1.symm.trans stored
  | takes request rest => exact made.2
  | refuses error => cases made.1.symm.trans stored

/-- Input that was refused leaves nothing in hand. -/
theorem Verdict.Made.rest_of_error {verdict : Verdict} {found : List UInt8} {error : Request.Error}
    (made : verdict.Made found session) (stored : session.command = some (.error error)) :
    verdict.rest found = [] := by
  cases verdict with
  | waits => cases made.1.symm.trans stored
  | takes request rest => cases made.1.symm.trans stored
  | refuses error => rfl

/-- The input in hand behind the last segment is what its verdict leaves. -/
theorem input_behind (limit : Nat) (earlier : List (List UInt8)) (last : List UInt8) :
    (Intake.start.hearAll limit (earlier ++ [last])).input =
      (judge limit (foundBehind limit earlier last)).rest (foundBehind limit earlier last) := by
  rw [Intake.hearAll_concat, Intake.input_hear]
  rfl

/-- What a read job finds is what the segments left, and its own segment behind. -/
theorem input_of_fill {socket left : Socket} {filled : Session}
    {answer : Except ConnectionError Nat}
    (heard : session.input = (Intake.start.hearAll limit segments).input)
    (read : session.fill (limit + 1) socket = (answer, filled, left)) :
    filled.input = foundBehind limit segments (socket.read (limit + 1)).1 := by
  rw [(Session.eq_of_fill read).1]
  exact congrArg (· ++ (socket.read (limit + 1)).1) heard

/-- A turn adds the segment that its job reads to those that decide what the session holds. -/
theorem Turn.heard {before after : Holding} {scene next : Scene}
    (turn : Turn limit before scene after next) (heard : before.1.Heard limit segments before.2) :
    after.1.Heard limit (segments ++ before.1.segments limit scene.socket) after.2 := by
  cases turn with
  | passed session scene before after passage =>
    rw [passage.segments_eq_nil, List.append_nil]
    exact passage.heard heard
  | lost session filled scene error socket read =>
    exact .inr ⟨segments, _, rfl, input_of_fill heard read⟩
  | short session filled scene count socket read incomplete small =>
    have found := input_of_fill heard read
    have judged := judge_eq_waits_iff.mpr ⟨incomplete, small⟩
    change filled.input = (Intake.start.hearAll limit (segments ++ [_])).input
    rw [input_behind, ← found, judged]
    rfl
  | oversized session filled scene count socket read incomplete large =>
    refine ⟨segments, _, rfl, ?_⟩
    rw [← input_of_fill heard read, judge_oversized incomplete large]
    exact ⟨rfl, rfl⟩
  | malformed session filled scene count socket error read refused =>
    refine ⟨segments, _, rfl, ?_⟩
    rw [← input_of_fill heard read, judge_malformed refused]
    exact ⟨rfl, rfl⟩
  | decoded session filled scene count socket request rest read complete =>
    have judged := judge_eq_takes_iff.mpr ⟨_, complete⟩
    refine ⟨segments, _, rfl, ?_⟩
    rw [← input_of_fill heard read, judged]
    exact ⟨rfl, rfl⟩
  | executed session scene request stored =>
    dsimp only [Place.segments]
    rw [List.append_nil]
    obtain ⟨earlier, last, rfl, made⟩ := heard
    exact (made.rest_of_ok stored).trans (input_behind limit earlier last).symm
  | refused session scene error stored =>
    dsimp only [Place.segments]
    rw [List.append_nil]
    obtain ⟨earlier, last, rfl, made⟩ := heard
    have nothing := (input_behind limit earlier last).trans (made.rest_of_error stored)
    refine Eq.trans ?_ nothing.symm
    split <;> rfl
  | broken session flushed scene error socket written =>
    dsimp only [Place.segments]
    rw [List.append_nil, (Session.eq_of_flush written).1]
    exact .inl heard
  | blocked session flushed scene count socket written =>
    dsimp only [Place.segments]
    rw [List.append_nil, (Session.eq_of_flush written).1]
    exact heard
  | ended session flushed scene count socket written closing =>
    dsimp only [Place.segments]
    rw [List.append_nil, (Session.eq_of_flush written).1]
    exact .inl heard
  | answered session flushed scene count socket written goesOn =>
    dsimp only [Place.segments]
    rw [List.append_nil, (Session.eq_of_flush written).1]
    exact heard

end Turning

namespace Server

variable {server : Server} {id : ConnId} {segments : List (List UInt8)}

/-- The segments were read from the connection `id`, and every session of it holds what they
left. A connection that is to come was not heard yet. -/
structure Hears (server : Server) (id : ConnId) (segments : List (List UInt8)) : Prop where
  heard : ∀ holding ∈ server.holdings, holding.2.id = id →
    holding.1.Heard server.requestLimit segments holding.2
  fresh : server.nextId ≤ id.number → segments = []

/-- A job reads the segments of its place. -/
theorem segments_of_ended {event : Event} {stage : Stage} {session : Session}
    (ended : event.ended server = some (stage, session)) :
    event.segments server id =
      if session.id = id then
        (Place.running stage).segments server.requestLimit (server.socket session.id)
      else [] := by
  unfold Event.segments
  rw [ended]
  cases stage with
  | readRegistered =>
    dsimp only
    split
    · next same =>
      rw [same]
      rfl
    · rfl
  | processing =>
    dsimp only
    split <;> rfl
  | writePending =>
    dsimp only
    split <;> rfl

/-- An event that ends no job reads nothing. -/
theorem segments_of_idle {event : Event} (idle : event.ended server = none) :
    event.segments server id = [] := by
  unfold Event.segments
  rw [idle]

/-- No event reads more than one job may read. -/
theorem segments_bounded (event : Event) :
    ∀ segment ∈ event.segments server id, segment.length ≤ server.requestLimit + 1 := by
  intro segment member
  unfold Event.segments at member
  split at member
  · split at member
    · rw [List.mem_singleton.mp member]
      exact Socket.read_bounded _ _
    · cases member
  · cases member

/-- No run reads a segment that is longer. -/
theorem segmentsIn_bounded (events : List Event) :
    ∀ segment ∈ server.segmentsIn id events, segment.length ≤ server.requestLimit + 1 := by
  induction events generalizing server with
  | nil => exact fun _ member => absurd member List.not_mem_nil
  | cons event events inductionHypothesis =>
    have limit : (server.step event).requestLimit = server.requestLimit := by
      rw [requestLimit, requestLimit, (server.kept_of_step event).1]
    rw [segmentsIn, List.forall_mem_append, ← limit]
    exact ⟨limit ▸ segments_bounded event, inductionHypothesis⟩

/-- A session that was taken on holds what the segments left, its own one included. -/
theorem Hears.took {after : Server} {kept : List Holding} {before next : Holding}
    {more : List (List UInt8)} (hears : server.Hears id segments) (orderly : server.Orderly)
    (took : server.Took after kept before next)
    (reads : more = if before.2.id = id then
      before.1.segments server.requestLimit (server.socket before.2.id) else []) :
    ∀ holding ∈ after.holdings, holding.2.id = id →
      holding.1.Heard server.requestLimit (segments ++ more) holding.2 := by
  intro holding member named
  have accounted := orderly.accounted.perm took.leaves
  rcases List.mem_cons.mp (took.arrives.mem_iff.mp member) with rfl | stayed
  · have own : before.2.id = id := took.same.symm.trans named
    have inside := took.leaves.mem_iff.mpr List.mem_cons_self
    rw [reads, if_pos own]
    exact took.turn.heard (hears.heard before inside own)
  · have other : ¬ before.2.id = id := fun own =>
      accounted.apart holding stayed (named.trans own.symm)
    rw [reads, if_neg other, List.append_nil]
    exact hears.heard holding (took.leaves.mem_iff.mpr (List.mem_cons_of_mem _ stayed)) named

/-- Every step adds the segments that it reads. -/
theorem Hears.step (hears : server.Hears id segments) (orderly : server.Orderly) (event : Event) :
    (server.step event).Hears id (segments ++ event.segments server id) := by
  obtain ⟨config, _, upwards⟩ := server.kept_of_step event
  have limit : (server.step event).requestLimit = server.requestLimit := by
    rw [requestLimit, requestLimit, config]
  refine ⟨?_, ?_⟩
  · rw [limit]
    cases orderly.outcome event with
    | worked stage session kept next ended took =>
      exact hears.took orderly took (segments_of_ended ended)
    | passed session before after kept idle passage took =>
      refine hears.took orderly took ?_
      rw [segments_of_idle idle, passage.segments_eq_nil, ite_self]
    | admitted peer idle arrives =>
      rw [segments_of_idle idle, List.append_nil]
      intro holding member named
      rcases List.mem_cons.mp (arrives.mem_iff.mp member) with rfl | stayed
      · -- No connection had this number before.
        have next : server.nextId = id.number := congrArg ConnId.number named
        rw [hears.fresh (Nat.le_of_eq next)]
        rfl
      · exact hears.heard holding stayed named
    | left idle stays =>
      rw [segments_of_idle idle, List.append_nil]
      exact fun holding member => hears.heard holding (stays holding member)
  · intro unused
    have unusedBefore := Nat.le_trans upwards unused
    rw [hears.fresh unusedBefore, List.nil_append]
    cases orderly.outcome event with
    | worked stage session kept next ended took =>
      rw [segments_of_ended ended]
      refine if_neg fun own => ?_
      have numbered := orderly.accounted.numbered _ (took.leaves.mem_iff.mpr List.mem_cons_self)
      dsimp only at numbered
      rw [own] at numbered
      omega
    | passed _ _ _ _ idle _ _ => exact segments_of_idle idle
    | admitted _ idle _ => exact segments_of_idle idle
    | left idle _ => exact segments_of_idle idle

/-- A run adds the segments that are read in it. -/
theorem Hears.run (hears : server.Hears id segments) (orderly : server.Orderly)
    (events : List Event) :
    (server.run events).Hears id (segments ++ server.segmentsIn id events) := by
  unfold Server.run
  induction events generalizing server segments with
  | nil =>
    rw [segmentsIn, List.append_nil]
    exact hears
  | cons event events inductionHypothesis =>
    rw [segmentsIn, ← List.append_assoc]
    exact inductionHypothesis (hears.step orderly event) (orderly.step event)

/-- A server that was started has heard nothing. -/
theorem hears_of_launch {host : Host} {config : Config} {taken : Bool}
    (launched : launch host config taken = .ok server) (id : ConnId) : server.Hears id [] := by
  obtain ⟨_, store, _, rfl⟩ := eq_fresh_of_launch launched
  exact ⟨(fun _ member => nomatch member), fun _ => rfl⟩

/-- In every run of a server that was started the largest request is the configured one. -/
theorem requestLimit_run {host : Host} {config : Config} {taken : Bool}
    (launched : launch host config taken = .ok server) (events : List Event) :
    (server.run events).requestLimit = config.maxRequestSize.toNat := by
  obtain ⟨_, store, _, rfl⟩ := eq_fresh_of_launch launched
  rw [requestLimit, (kept_of_run events).1]
  rfl

/-- In every run of a server that was started the sessions of a connection hold what the segments
left that were read from it, and none of these is longer than one job may read. -/
theorem heard_of_launch {host : Host} {config : Config} {taken : Bool}
    (bounded : config.maxRequestSize.toNat + 1 < UInt64.size)
    (launched : launch host config taken = .ok server) (events : List Event) (id : ConnId) :
    (∀ holding ∈ (server.run events).holdings, holding.2.id = id →
      holding.1.Heard config.maxRequestSize.toNat (server.segmentsIn id events) holding.2) ∧
      ∀ segment ∈ server.segmentsIn id events,
        segment.length ≤ config.maxRequestSize.toNat + 1 := by
  have limit : server.requestLimit = config.maxRequestSize.toNat := requestLimit_run launched []
  refine ⟨fun holding member named => ?_, limit ▸ segmentsIn_bounded events⟩
  have orderly := orderly_of_launch (roomy_of_holding launched member) bounded launched
  have heard := ((hears_of_launch launched id).run orderly events).heard holding member named
  rw [requestLimit_run launched, List.nil_append] at heard
  exact heard

end Server

end KeyValueServer
