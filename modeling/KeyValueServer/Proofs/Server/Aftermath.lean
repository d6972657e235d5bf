import KeyValueServer.Proofs.Server.Accounting
import KeyValueServer.Proofs.Server.Course
import KeyValueServer.Proofs.Server.Overflow
import KeyValueServer.Proofs.Server.Refusal

/-!
# What becomes of a connection whose input was refused

A read job that finds no request stores the reason. From there the way of the connection is fixed,
whatever clients, network, loops and workers do. One job answers the reason, and the reply is the
last output. Behind a fatal reason nothing is read or executed any more, and the connection ends
when the reply is written. Behind any other reason the connection waits for input again when the
reply is written, and what it reads then is judged by itself.

A connection ends before its reply is written only if its socket fails or the server is shut down.
-/

namespace KeyValueServer

/-- What is executed for a connection when an event ends a job of it: a request, or the reason why
there is none. -/
def Event.commands (id : ConnId) (server : Server) (event : Event) :
    List (Except Request.Error Value) :=
  match event.ended server with
  | some (.processing, session) => if session.id = id then session.command.toList else []
  | _ => []

/-- Whether the socket of a connection fails in a run. -/
def Server.FailsIn (server : Server) (id : ConnId) : List Event → Prop
  | [] => False
  | event :: events => event.Fails server id ∨ (server.step event).FailsIn id events

/-- The bytes that are sent on a connection in a run. -/
def Server.sentIn (server : Server) (id : ConnId) (events : List Event) : List UInt8 :=
  server.receivedIn id events ++ ((server.run events).socket id).delivered

namespace Server

variable {server : Server} {event : Event} {id : ConnId} {error : Request.Error}
  {base gone : List UInt8} {executed : List (Except Request.Error Value)} {failed : Prop}

/-- How it stands with a connection whose input was refused. Since then `executed` was executed for
it, and `failed` says whether its socket failed. -/
inductive Fate (server : Server) (id : ConnId) (error : Request.Error) (base sent : List UInt8)
    (executed : List (Except Request.Error Value)) (failed : Prop) : Prop
  /-- The reply is still to come. -/
  | refused (holding : Holding) (member : holding ∈ server.holdings) (named : holding.2.id = id)
      (nothing : executed = []) (refused : holding.2.Refused error base sent)
  /-- The reply was made. -/
  | replied (holding : Holding) (member : holding ∈ server.holdings) (named : holding.2.id = id)
      (once : executed = [.error error]) (replied : holding.2.Replied error base sent)
      (follows : holding.1.Follows error failed holding.2.output)
  /-- The connection is over. -/
  | closed (absent : ∀ holding ∈ server.holdings, holding.2.id ≠ id)
      (once : executed = [] ∨ executed = [.error error])
      (cause : failed ∨ server.polling = false ∨ error.isFatal = true ∧
        executed = [.error error] ∧ sent = base ++ (refusal error).encode)

/-- Nothing is executed for a connection by an event that ends no job of it. -/
theorem Spares.commands (spares : server.Spares event id) : event.commands id server = [] := by
  unfold Event.commands
  split
  · next session ended => exact if_neg (spares.idle _ session ended)
  · rfl

/-- Nothing is read for a connection by an event that ends no job of it. -/
theorem Spares.segments (spares : server.Spares event id) : event.segments server id = [] := by
  unfold Event.segments
  split
  · next session ended => exact if_neg (spares.idle _ session ended)
  · rfl

/-- A session that holds a reason is on its way to execution. -/
theorem Orderly.executes_of_stored (orderly : server.Orderly) {holding : Holding}
    (member : holding ∈ server.holdings) (stored : holding.2.command = some (.error error)) :
    holding.1.executes = true := by
  have executes := orderly.accounted.stored holding member
  rw [stored] at executes
  exact executes.symm

/-- What stands with a connection that is spared stands with it behind the event. -/
theorem Spares.fate (spares : server.Spares event id) (orderly : server.Orderly)
    (fate : server.Fate id error base (gone ++ (server.socket id).delivered) executed failed) :
    (server.step event).Fate id error base
      (gone ++ event.received server id ++ ((server.step event).socket id).delivered)
      executed (failed ∨ event.Fails server id) := by
  rw [List.append_assoc, spares.sent]
  cases fate with
  | refused holding member named nothing refused =>
    rcases spares.goesOn holding member named with ⟨place, _, memberThen⟩ | ⟨absent, cause⟩
    · exact .refused (place, holding.2) memberThen named nothing refused
    · refine .closed absent (.inl nothing) ?_
      rcases cause with removed | fails | ended
      · -- No message asks for the removal of a session that is on its way to execution.
        have executes := orderly.executes_of_stored member refused.command
        rw [removed] at executes
        cases executes
      · exact .inl (.inr fails)
      · exact .inr (.inl ended)
  | replied holding member named once replied follows =>
    rcases spares.goesOn holding member named with ⟨place, goes, memberThen⟩ | ⟨absent, cause⟩
    · refine .replied (place, holding.2) memberThen named once replied ?_
      have followsThen : holding.1.Follows error (failed ∨ event.Fails server id)
          holding.2.output := follows.mono .inl
      rcases goes with rfl | passage
      · exact followsThen
      · exact followsThen.passage passage
    · refine .closed absent (.inr once) ?_
      rcases cause with removed | fails | ended
      · rcases follows.of_removed removed with failed | ⟨fatal, nothing⟩
        · exact .inl (.inl failed)
        · have total := replied.total
          rw [nothing, List.append_nil] at total
          exact .inr (.inr ⟨fatal, once, total⟩)
      · exact .inl (.inr fails)
      · exact .inr (.inl ended)
  | closed absent once cause =>
    refine .closed ?_ once ?_
    · intro holding member named
      obtain ⟨earlier, inside, same⟩ := spares.known holding member named
      exact absent earlier inside same
    · rcases cause with failed | ended | flushed
      · exact .inl (.inl failed)
      · exact .inr (.inl (polling_of_step event ended))
      · exact .inr (.inr flushed)

/-- The end of a job of a connection whose input was refused is the step to the reply or a step
behind it, and leaves the store alone, unless it is the next read. -/
theorem Fate.worked {stage : Stage} {session : Session} {kept : List Holding} {next : Holding}
    (fate : server.Fate session.id error base (gone ++ (server.socket session.id).delivered)
      executed failed) (orderly : server.Orderly)
    (ended : event.ended server = some (stage, session))
    (took : server.Took (server.step event) kept (.running stage, session) next)
    (unread : stage ≠ .readRegistered) :
    (server.step event).Fate session.id error base
        (gone ++ ((server.step event).socket session.id).delivered)
        (executed ++ event.commands session.id server) (failed ∨ event.Fails server session.id) ∧
      (server.step event).store = server.store := by
  have member : ((Place.running stage, session) : Holding) ∈ server.holdings :=
    took.leaves.mem_iff.mpr List.mem_cons_self
  have memberThen : next ∈ (server.step event).holdings :=
    took.arrives.mem_iff.mpr List.mem_cons_self
  cases fate with
  | refused holding inside named nothing refused =>
    obtain rfl := orderly.unique inside member named
    have executes := orderly.executes_of_stored member refused.command
    cases stage with
    | readRegistered | writePending => cases executes
    | processing =>
      have commands : event.commands session.id server = [.error error] := by
        simp only [Event.commands, ended, ↓reduceIte]
        exact congrArg Option.toList refused.command
      obtain ⟨replied, place, something, store⟩ := refused.turn took.turn
      refine ⟨.replied next memberThen took.same ?_ replied ?_, store⟩
      · rw [nothing, commands]
        rfl
      · rw [place]
        exact something
  | replied holding inside named once replied follows =>
    obtain rfl := orderly.unique inside member named
    cases stage with
    | readRegistered => exact absurd rfl unread
    | processing => exact follows.elim
    | writePending =>
      have commands : event.commands session.id server = [] := by
        simp only [Event.commands, ended]
      obtain ⟨repliedThen, followsThen, store⟩ := replied.turn took.turn
      refine ⟨.replied next memberThen took.same ?_ repliedThen ?_, store⟩
      · rw [once, commands]
        rfl
      · refine followsThen.mono ?_
        rintro ⟨failure, flushed, left, written⟩
        exact .inr (.unwritable event session flushed failure left ended rfl written)
  | closed absent once cause => exact absurd rfl (absent _ member)

/-- A job of a connection reads nothing only if it is no read job. -/
theorem unread_of_segments {stage : Stage} {session : Session}
    (ended : event.ended server = some (stage, session))
    (quiet : event.segments server session.id = []) : stage ≠ .readRegistered := by
  rintro rfl
  rw [segments_of_ended ended, if_pos rfl] at quiet
  cases quiet

/-- A session that is read for has its reply written, and the reason was not fatal. -/
theorem Fate.reader {session : Session}
    (fate : server.Fate session.id error base gone executed failed) (orderly : server.Orderly)
    (member : (.running .readRegistered, session) ∈ server.holdings) :
    session.Replied error base gone ∧ error.isFatal = false ∧ session.output = [] := by
  cases fate with
  | refused holding inside named nothing refused =>
    obtain rfl := orderly.unique inside member named
    cases orderly.executes_of_stored member refused.command
  | replied holding inside named once replied follows =>
    obtain rfl := orderly.unique inside member named
    exact ⟨replied, follows⟩
  | closed absent once cause => exact absurd rfl (absent _ member)

/-- Nothing is read behind a fatal reason. -/
theorem Fate.quiet (fate : server.Fate id error base gone executed failed)
    (orderly : server.Orderly) (fatal : error.isFatal = true) (event : Event)
    (admitted : id.number < server.nextId) : event.segments server id = [] := by
  cases orderly.course event admitted with
  | spared spares => exact spares.segments
  | worked stage session kept next ended named took =>
    subst named
    have member : ((Place.running stage, session) : Holding) ∈ server.holdings :=
      took.leaves.mem_iff.mpr List.mem_cons_self
    rw [segments_of_ended ended, if_pos rfl]
    cases stage with
    | processing | writePending => rfl
    | readRegistered =>
      obtain ⟨_, goesOn, _⟩ := fate.reader orderly member
      cases goesOn.symm.trans fatal

/-- Every event in which nothing is read takes a connection whose input was refused on its way, and
its jobs leave the store alone. -/
theorem Fate.step
    (fate : server.Fate id error base (gone ++ (server.socket id).delivered) executed failed)
    (orderly : server.Orderly) (admitted : id.number < server.nextId) (event : Event)
    (quiet : event.segments server id = []) :
    (server.step event).Fate id error base
        (gone ++ event.received server id ++ ((server.step event).socket id).delivered)
        (executed ++ event.commands id server) (failed ∨ event.Fails server id) ∧
      ∀ stage session, event.ended server = some (stage, session) → session.id = id →
        (server.step event).store = server.store := by
  cases orderly.course event admitted with
  | spared spares =>
    rw [spares.commands, List.append_nil]
    refine ⟨spares.fate orderly fate, ?_⟩
    intro stage session ended named
    exact absurd named (spares.idle stage session ended)
  | worked stage session kept next ended named took =>
    subst named
    have unread := unread_of_segments ended quiet
    obtain ⟨goesOn, store⟩ := fate.worked orderly ended took unread
    rw [received_of_ended ended, List.append_nil]
    exact ⟨goesOn, fun _ _ _ _ => store⟩

/-- Every run in which nothing is read takes a connection whose input was refused on its way. -/
theorem Fate.run
    (fate : server.Fate id error base (gone ++ (server.socket id).delivered) executed failed)
    (orderly : server.Orderly) (admitted : id.number < server.nextId) (events : List Event)
    (quiet : server.segmentsIn id events = []) :
    (server.run events).Fate id error base
      (gone ++ server.receivedIn id events ++ ((server.run events).socket id).delivered)
      (executed ++ server.history (Event.commands id) events)
      (failed ∨ server.FailsIn id events) := by
  induction events generalizing server gone executed failed with
  | nil =>
    simp only [receivedIn, history, FailsIn, List.append_nil, or_false]
    exact fate
  | cons event events inductionHypothesis =>
    -- What the client receives in the first step belongs to what is gone for the others.
    obtain ⟨quietFirst, quietThen⟩ := List.append_eq_nil_iff.mp quiet
    obtain ⟨goesOn, _⟩ := fate.step orderly admitted event quietFirst
    have admittedThen := Nat.lt_of_lt_of_le admitted (server.kept_of_step event).2.2
    have later := inductionHypothesis goesOn (orderly.step event) admittedThen quietThen
    simp only [receivedIn, history, FailsIn, ← List.append_assoc, ← or_assoc]
    exact later

/-- Nothing is read in any run behind a fatal reason. -/
theorem Fate.quiet_run
    (fate : server.Fate id error base (gone ++ (server.socket id).delivered) executed failed)
    (orderly : server.Orderly) (fatal : error.isFatal = true) (admitted : id.number < server.nextId)
    (events : List Event) : server.segmentsIn id events = [] := by
  induction events generalizing server gone executed failed with
  | nil => rfl
  | cons event events inductionHypothesis =>
    have quiet := fate.quiet orderly fatal event admitted
    obtain ⟨goesOn, _⟩ := fate.step orderly admitted event quiet
    have admittedThen := Nat.lt_of_lt_of_le admitted (server.kept_of_step event).2.2
    rw [segmentsIn, quiet, List.nil_append]
    exact inductionHypothesis goesOn (orderly.step event) admittedThen

/-- The way of a connection in the run `back` behind `front`, where the input of `session` was
refused for the reason `error`. -/
structure Settles (server : Server) (front : List Event) (session : Session)
    (error : Request.Error) (back : List Event) : Prop where
  /-- The reason is answered once, the reply stands behind all output before it, and the connection
  ends only for a cause. -/
  fate : (server.run (front ++ back)).Fate session.id error
    (server.sentIn session.id front ++ session.output) (server.sentIn session.id (front ++ back))
    ((server.run front).history (Event.commands session.id) back)
    ((server.run front).FailsIn session.id back)
  /-- No job of the connection changes the store. -/
  store : ∀ earlier event later, back = earlier ++ event :: later → ∀ stage worked,
    event.ended (server.run (front ++ earlier)) = some (stage, worked) →
      worked.id = session.id →
        (server.run (front ++ earlier ++ [event])).store = (server.run (front ++ earlier)).store

/-- A connection behind the reply to refused input, on which `sent` was sent, goes on where the
reply ends. -/
structure StartsOver (server : Server) (id : ConnId) (error : Request.Error)
    (base sent : List UInt8) : Prop where
  /-- When the reply is written, the connection is registered for reading and has no input. -/
  rearmed : sent = base ++ (refusal error).encode → ∀ holding ∈ server.holdings,
    holding.2.id = id → server.registries.stageOf id = some .readRegistered ∧
      holding.1 ∈ [.rearm, .parkedRead, .queued .readRegistered, .running .readRegistered] ∧
      holding.2.input = [] ∧ holding.2.closeAfterWrite = false
  /-- Nothing is read before, and what is read next is judged by itself. -/
  reads : ∀ event segment, event.segments server id = [segment] →
    sent = base ++ (refusal error).encode ∧
      ∃ next ∈ (server.step event).holdings, next.2.id = id ∧ next.2.output = [] ∧
        next.2.closeAfterWrite = false ∧
        (next.1 = .removed ∧ next.2.input = segment ∨
          next.1 = (judge server.requestLimit segment).place ∧
            (judge server.requestLimit segment).Made segment next.2)

/-- A connection whose reply was written, and that was not refused for a fatal reason, is registered
for reading. -/
theorem Fate.rearmed (fate : server.Fate id error base gone executed failed)
    (orderly : server.Orderly) (goesOn : error.isFatal = false)
    (written : gone = base ++ (refusal error).encode) {holding : Holding}
    (member : holding ∈ server.holdings) (named : holding.2.id = id) :
    server.registries.stageOf id = some .readRegistered ∧
      holding.1 ∈ [.rearm, .parkedRead, .queued .readRegistered, .running .readRegistered] ∧
      holding.2.input = [] ∧ holding.2.closeAfterWrite = false := by
  cases fate with
  | refused other inside same nothing refused =>
    have total := refused.total
    rw [written, List.append_assoc] at total
    have excess := List.append_eq_nil_iff.mp (List.append_right_eq_self.mp total)
    exact absurd excess.1 (Session.encode_refusal_ne_nil error)
  | replied other inside same once replied follows =>
    obtain rfl := orderly.unique inside member (same.trans named.symm)
    have nothing : other.2.output = [] := by
      have total := replied.total
      rw [written] at total
      exact List.append_right_eq_self.mp total
    obtain ⟨expected, place⟩ := follows.awaits goesOn nothing
    have agreed := orderly.accounted.agreed other member _ expected
    rw [named] at agreed
    exact ⟨agreed, place, replied.input, replied.closing.trans goesOn⟩
  | closed absent once cause => exact absurd named (absent holding member)

/-- What is read from a connection is read by a job of it. -/
theorem ended_of_segments {segment : List UInt8} (read : event.segments server id = [segment]) :
    ∃ session, event.ended server = some (.readRegistered, session) ∧ session.id = id ∧
      ((server.socket id).read (server.requestLimit + 1)).1 = segment := by
  unfold Event.segments at read
  split at read
  · next session ended =>
    split at read
    · next named => exact ⟨session, ended, named, (List.cons.inj read).1⟩
    · cases read
  · cases read

/-- What is read next behind the reply to refused input is judged by itself, and it is read when the
reply is written. -/
theorem Fate.reads (fate : server.Fate id error base gone executed failed)
    (orderly : server.Orderly) (admitted : id.number < server.nextId) {segment : List UInt8}
    (read : event.segments server id = [segment]) :
    gone = base ++ (refusal error).encode ∧
      ∃ next ∈ (server.step event).holdings, next.2.id = id ∧ next.2.output = [] ∧
        next.2.closeAfterWrite = false ∧
        (next.1 = .removed ∧ next.2.input = segment ∨
          next.1 = (judge server.requestLimit segment).place ∧
            (judge server.requestLimit segment).Made segment next.2) := by
  obtain ⟨reader, reads, _, rfl⟩ := ended_of_segments read
  cases orderly.course event admitted with
  | spared spares => cases spares.segments.symm.trans read
  | worked stage session kept next ended named took =>
    cases reads.symm.trans ended
    subst named
    have member : ((Place.running .readRegistered, reader) : Holding) ∈ server.holdings :=
      took.leaves.mem_iff.mpr List.mem_cons_self
    obtain ⟨replied, goesOn, nothing⟩ := fate.reader orderly member
    obtain ⟨output, closing, judged⟩ := replied.turn_read took.turn
    have total := replied.total
    rw [nothing, List.append_nil] at total
    exact ⟨total, next, took.arrives.mem_iff.mpr List.mem_cons_self, took.same,
      output.trans nothing, (closing.trans replied.closing).trans goesOn, judged⟩

/-- What clients receive in two runs, one behind the other. -/
theorem receivedIn_append (server : Server) (id : ConnId) (front back : List Event) :
    server.receivedIn id (front ++ back) =
      server.receivedIn id front ++ (server.run front).receivedIn id back := by
  induction front generalizing server with
  | nil => rfl
  | cons event front inductionHypothesis =>
    rw [List.cons_append, receivedIn, inductionHypothesis, receivedIn, List.append_assoc]
    rfl

/-- What is sent in two runs, one behind the other. -/
theorem sentIn_append (server : Server) (id : ConnId) (front back : List Event) :
    server.sentIn id (front ++ back) = server.receivedIn id front ++
      (server.run front).receivedIn id back ++
      (((server.run front).run back).socket id).delivered := by
  rw [sentIn, receivedIn_append, run_append]

/-- A session that holds a reason for which its input was refused stands before the reply. -/
theorem fate_of_stored {front : List Event} {holding : Holding}
    (orderly : (server.run front).Orderly)
    (leaves : holding.2.closeAfterWrite = true → holding.1.leaves = true)
    (member : holding ∈ (server.run front).holdings)
    (stored : holding.2.command = some (.error error)) :
    (server.run front).Fate holding.2.id error
      (server.sentIn holding.2.id front ++ holding.2.output) (server.sentIn holding.2.id front)
      [] False := by
  have executes := orderly.executes_of_stored member stored
  have goesOn : holding.2.closeAfterWrite = false := by
    rw [← Bool.not_eq_true]
    intro closing
    cases (Place.waits_of_leaves (leaves closing)).symm.trans executes
  exact .refused holding member rfl rfl ⟨stored, goesOn, rfl⟩

/-- The fate of a connection covers every run in which nothing is read from it. -/
theorem Fate.settles {front : List Event} {session : Session}
    (fate : (server.run front).Fate session.id error
      (server.sentIn session.id front ++ session.output) (server.sentIn session.id front) [] False)
    (orderly : (server.run front).Orderly)
    (admitted : session.id.number < (server.run front).nextId) (back : List Event)
    (quiet : (server.run front).segmentsIn session.id back = []) :
    server.Settles front session error back := by
  constructor
  · have later := fate.run orderly admitted back quiet
    rw [List.nil_append, false_or] at later
    rw [sentIn_append, run_append]
    exact later
  · rintro earlier event later rfl stage worked ended named
    rw [segmentsIn_append] at quiet
    obtain ⟨quietEarlier, quietThen⟩ := List.append_eq_nil_iff.mp quiet
    obtain ⟨quietEvent, _⟩ := List.append_eq_nil_iff.mp quietThen
    have reached := fate.run orderly admitted earlier quietEarlier
    have admittedThen := Nat.lt_of_lt_of_le admitted (kept_of_run earlier).2.2
    rw [run_append] at ended
    rw [run_append, run_append]
    exact (reached.step (orderly.run earlier) admittedThen event quietEvent).2 stage worked
      ended named

/-- Whatever is stored in the place of a request, it is what the verdict about the input says. -/
theorem judged_of_stored {host : Host} {config : Config} {taken : Bool}
    (bounded : config.maxRequestSize.toNat + 1 < UInt64.size)
    (launched : launch host config taken = .ok server) (front : List Event) {holding : Holding}
    (member : holding ∈ (server.run front).holdings)
    (stored : holding.2.command = some (.error error)) :
    judge config.maxRequestSize.toNat holding.2.input = .refuses error := by
  have roomy := roomy_of_holding launched member
  have orderly := (orderly_of_launch roomy bounded launched).run front
  have heard := (heard_of_launch bounded launched front holding.2.id).1 holding member rfl
  obtain ⟨earlier, last, _, made⟩ := heard.made (orderly.executes_of_stored member stored)
  cases verdict : judge config.maxRequestSize.toNat
      (foundBehind config.maxRequestSize.toNat earlier last) with
  | waits =>
    rw [verdict] at made
    cases made.1.symm.trans stored
  | takes request rest =>
    rw [verdict] at made
    cases made.1.symm.trans stored
  | refuses other =>
    rw [verdict] at made
    obtain ⟨command, input⟩ := made
    rw [input, verdict, Except.error.inj (Option.some.inj (command.symm.trans stored))]

/-- A connection whose input was refused is closed behind the reply or starts over there, in every
run of a server that was started. The reason is what the verdict about the input says. Behind a
fatal one nothing is read any more, whatever comes. Behind another one the same holds until the next
read, and what is read then is judged by itself. -/
theorem refusals_close_or_start_over {host : Host} {config : Config} {taken : Bool}
    (launched : launch host config taken = .ok server) (front : List Event) (holding : Holding)
    (member : holding ∈ (server.run front).holdings) (error : Request.Error)
    (stored : holding.2.command = some (.error error)) :
    judge config.maxRequestSize.toNat holding.2.input = .refuses error ∧
      (error.isFatal = true → ∀ back, (server.run front).segmentsIn holding.2.id back = [] ∧
        server.Settles front holding.2 error back) ∧
      (error.isFatal = false → ∀ back, (server.run front).segmentsIn holding.2.id back = [] →
        server.Settles front holding.2 error back ∧
          (server.run (front ++ back)).StartsOver holding.2.id error
            (server.sentIn holding.2.id front ++ holding.2.output)
            (server.sentIn holding.2.id (front ++ back))) := by
  have size := config.maxRequestSize.toNat_lt_size
  by_cases bounded : config.maxRequestSize.toNat + 1 < UInt64.size
  · have begun := orderly_of_launch (roomy_of_holding launched member) bounded launched
    have orderly := begun.run front
    have admitted := orderly.accounted.numbered holding member
    have leaves := begun.leaves_run (leaves_of_launch launched) front holding member
    have fate := fate_of_stored orderly leaves member stored
    refine ⟨judged_of_stored bounded launched front member stored, ?_, ?_⟩
    · intro fatal back
      have quiet := fate.quiet_run orderly fatal admitted back
      exact ⟨quiet, fate.settles orderly admitted back quiet⟩
    · intro goesOn back quiet
      have settles := fate.settles orderly admitted back quiet
      have orderlyThen := begun.run (front ++ back)
      have admittedThen : holding.2.id.number < (server.run (front ++ back)).nextId := by
        rw [run_append]
        exact Nat.lt_of_lt_of_le admitted (kept_of_run back).2.2
      refine ⟨settles, ?_, ?_⟩
      · intro written other inside named
        exact settles.fate.rearmed orderlyThen goesOn written inside named
      · intro event segment read
        exact settles.fate.reads orderlyThen admittedThen read
  · -- With requests of the largest size no read job comes to its end, so nothing is stored.
    have largest : config.maxRequestSize.toNat + 1 = UInt64.size := by omega
    have unserved := (unserved_of_launch largest launched).run front
    cases (unserved.idle holding member).symm.trans stored

/-- A client connects and sends bytes, and a job reads them. -/
def readOnce (content : List UInt8) : List Event :=
  [.connect (Address.loopback 1), .applyControl true, .arrive firstId (.bytes content),
    .ready firstId, .start .readRegistered, .finish .readRegistered 0]

/-- The head of an array with more elements than a request may have. -/
def longArray : List UInt8 := [0x2a, 0x31, 0x30, 0x34, 0x38, 0x35, 0x37, 0x37, 0x0d, 0x0a]

/-- An array whose element is no bulk string, and more behind it. -/
def numberedArray : List UInt8 := [0x2a, 0x31, 0x0d, 0x0a, 0x3a, 0x31, 0x0d, 0x0a]

/-- A server with the standard configuration refuses an array for its length, for good, and an array
for its element, for once. -/
theorem standard_server_refuses :
    ∃ server, launch Host.loopback Config.standard false = .ok server ∧
      (∃ session, (.queued .processing, session) ∈ (server.run (readOnce longArray)).holdings ∧
        session.command = some (.error (.arrayLength 1048577)) ∧
        ∀ back, (server.run (readOnce longArray)).segmentsIn session.id back = [] ∧
          server.Settles (readOnce longArray) session (.arrayLength 1048577) back) ∧
      ∃ session, (.queued .processing, session) ∈ (server.run (readOnce numberedArray)).holdings ∧
        session.command = some (.error (.notBulk 0x3a)) ∧
        ∀ back, (server.run (readOnce numberedArray)).segmentsIn session.id back = [] →
          server.Settles (readOnce numberedArray) session (.notBulk 0x3a) back ∧
            (server.run (readOnce numberedArray ++ back)).StartsOver session.id (.notBulk 0x3a)
              (server.sentIn session.id (readOnce numberedArray) ++ session.output)
              (server.sentIn session.id (readOnce numberedArray ++ back)) := by
  have launched : launch Host.loopback Config.standard false = .ok _ := rfl
  refine ⟨_, launched, ⟨_, List.mem_cons_self, rfl, ?_⟩, ⟨_, List.mem_cons_self, rfl, ?_⟩⟩
  · exact (refusals_close_or_start_over launched (readOnce longArray) _ List.mem_cons_self
      (.arrayLength 1048577) rfl).2.1 rfl
  · exact (refusals_close_or_start_over launched (readOnce numberedArray) _ List.mem_cons_self
      (.notBulk 0x3a) rfl).2.2 rfl

end Server

end KeyValueServer
