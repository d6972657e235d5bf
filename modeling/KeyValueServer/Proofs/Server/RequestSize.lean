import KeyValueServer.Proofs.Request.Arrival
import KeyValueServer.Proofs.Server.InputBound
import KeyValueServer.Proofs.Server.Segmentation

/-!
# Whether a large request is refused

The largest request is no bound on the requests that are executed. A request is handed over when all
of it is in hand, and one read job adds up to one byte more than the largest request has. So a
request with that many bytes is never refused for its size, and for a larger one it depends on how
its bytes arrive, and on the requests in front of it: they can let as much of it through as any
request needs. Only where the largest request is one byte there is a bound on what can be handed
over.

The main statement says by which bytes a request is judged, which requests can be handed over, and
that for every one of them that is larger by more than one byte there are two runs with the same
bytes in one of which it is handed over, while in the other its client is refused.
-/

namespace KeyValueServer

open Request (Spells overlong)

/-- Only what is answered goes to execution. -/
theorem Verdict.place_of_answer {verdict : Verdict} {answer : Except Request.Error Value}
    (given : verdict.answer? = some answer) : verdict.place = .queued .processing := by
  cases verdict with
  | waits => cases given
  | takes request rest => rfl
  | refuses error => rfl

/-- A session holds the answer of the verdict about its input. -/
theorem Verdict.Made.command_eq {verdict : Verdict} {found : List UInt8} {session : Session}
    (made : verdict.Made found session) : session.command = verdict.answer? := by
  cases verdict with
  | waits => exact made.1
  | takes request rest => exact made.1
  | refuses error => exact made.1

/-- A request can be cut so that its last segment is one that a job may read, and so many bytes are
in front of that as some number of short lines leaves. -/
theorem exists_count {limit size : Nat} (positive : 0 < limit) (large : limit < size)
    (reachable : 2 ≤ limit ∨ size ≤ 2 * limit + 1) :
    ∃ count, 1 + (count + 1) * (limit - 1) ≤ size ∧
      size ≤ 1 + (count + 1) * (limit - 1) + (limit + 1) := by
  by_cases once : size ≤ 2 * limit + 1
  · exact ⟨0, by omega, by omega⟩
  · have several : 0 < limit - 1 := by omega
    have split := Nat.div_add_mod (size - 1) (limit - 1)
    have less := Nat.mod_lt (size - 1) several
    have some_ : 0 < (size - 1) / (limit - 1) := Nat.div_pos (by omega) several
    obtain ⟨count, counted⟩ := Nat.exists_eq_add_one.mpr some_
    rw [counted, Nat.mul_comm] at split
    exact ⟨count, by omega, by omega⟩

/-- Some number of short lines, read in segments with the bytes that follow, lets so many of these
in that the others fit in one segment. -/
theorem exists_letting_in {limit : Nat} (positive : 0 < limit) (written : List UInt8)
    (reachable : 2 ≤ limit ∨ written.length ≤ 2 * limit + 1) :
    ∃ lines segments last, (∀ segment ∈ segments ++ [last], segment.length ≤ limit + 1) ∧
      Intake.Calm limit Intake.start segments ∧
      segments.flatten ++ last = shortLines lines ++ written ∧
      foundBehind limit segments last = written := by
  rcases Nat.lt_or_ge limit written.length with large | small
  · obtain ⟨count, enough, little⟩ := exists_count positive large reachable
    obtain ⟨segments, short, flat, calm, heard⟩ := Intake.exists_crowd_from_start positive count
      (written.take (1 + (count + 1) * (limit - 1))) (List.length_take_of_le enough)
    refine ⟨count + 1, segments, written.drop (1 + (count + 1) * (limit - 1)),
      List.forall_mem_append.mpr ⟨short, ?_⟩, calm, ?_, ?_⟩
    · rw [List.forall_mem_singleton, List.length_drop]
      omega
    · rw [flat, List.append_assoc, List.take_append_drop]
    · rw [foundBehind, heard, List.take_append_drop]
  · -- A request that is not larger than the largest needs nothing in front of it.
    refine ⟨0, [], written, ?_, trivial, rfl, rfl⟩
    rw [List.nil_append, List.forall_mem_singleton]
    exact Nat.le_succ_of_le small

namespace Server

variable {server after : Server} {limit : Nat} {session : Session}
  {answer : Except Request.Error Value}

/-- In a run a session holds an answer to the input `found`: all that was in hand behind the last
segment from its connection. -/
structure Answers (server : Server) (limit : Nat) (events : List Event) (session : Session)
    (found : List UInt8) (answer : Except Request.Error Value) : Prop where
  stored : session.command = some answer
  behind : ∃ earlier last, server.segmentsIn session.id events = earlier ++ [last] ∧
    found = foundBehind limit earlier last ∧
      found.length ≤ largestInput limit (Intake.streakBehind limit earlier)

/-- The one connection of a run has an answer to the input `found`, and a job to carry it out. -/
def EndsWith (server : Server) (limit : Nat) (events : List Event) (found : List UInt8)
    (answer : Except Request.Error Value) : Prop :=
  ∃ session, (server.run events).holdings = [(.queued .processing, session)] ∧
    server.Answers limit events session found answer

/-- A verdict that answers waits for a job to carry it out. -/
theorem Judged.answered {id : ConnId} {verdict : Verdict} {found : List UInt8}
    (judged : server.Judged id limit verdict found session)
    (given : verdict.answer? = some answer) :
    server.Alone id limit (.queued .processing, session) ∧ session.command = some answer :=
  ⟨Verdict.place_of_answer given ▸ judged.alone, judged.made.command_eq.trans given⟩

/-- A run to a connection with an answer ends with that answer. -/
theorem Reaches.endsWith {sent : List UInt8} {earlier : List (List UInt8)} {last : List UInt8}
    {id : ConnId} (reaches : server.Reaches id sent (earlier ++ [last]) after)
    (positive : 0 < limit) (short : ∀ segment ∈ earlier ++ [last], segment.length ≤ limit + 1)
    (answered : after.Alone id limit (.queued .processing, session) ∧
      session.command = some answer) :
    ∃ events, events.flatMap Event.sent = sent ∧
      server.EndsWith limit events (foundBehind limit earlier last) answer := by
  obtain ⟨events, rfl, rfl, segments⟩ := reaches
  obtain ⟨alone, stored⟩ := answered
  have named : session.id = id := alone.named
  refine ⟨events, rfl, session, alone.alone, stored, earlier, last, ?_, rfl, ?_⟩
  · rw [named, segments]
  · exact length_foundBehind_le positive earlier last short

/-- Where the largest request is one byte, no more than three bytes are ever judged. -/
theorem Answers.length_le_of_one {events : List Event} {found : List UInt8}
    (answers : server.Answers limit events session found answer) (one : limit - 1 = 0) :
    found.length ≤ 2 * limit + 1 := by
  obtain ⟨_, _, _, _, within⟩ := answers.behind
  rwa [largestInput, one, Nat.mul_zero] at within

section Started

variable {host : Host} {config : Config} {taken : Bool} {written : List UInt8} {request : Value}

/-- In every run, a session on its way to execution holds the answer to the input that was in hand
behind the last segment. -/
theorem exists_answers (bounded : config.maxRequestSize.toNat + 1 < UInt64.size)
    (launched : launch host config taken = .ok server) (events : List Event) {holding : Holding}
    (member : holding ∈ (server.run events).holdings) (executes : holding.1.executes = true) :
    ∃ found answer, server.Answers config.maxRequestSize.toNat events holding.2 found answer ∧
      ByArrival config.maxRequestSize.toNat found answer := by
  obtain ⟨heard, short⟩ := heard_of_launch bounded launched events holding.2.id
  obtain ⟨earlier, last, split, made⟩ := (heard holding member rfl).made executes
  have roomy := roomy_of_holding launched member
  have orderly := (orderly_of_launch roomy bounded launched).run events
  have stored := orderly.accounted.stored holding member
  rw [executes, Option.isSome_iff_exists] at stored
  obtain ⟨answer, stored⟩ := stored
  rw [split] at short
  have within := length_foundBehind_le (positive_of_launch launched) earlier last short
  exact ⟨_, answer, ⟨stored, earlier, last, split, rfl, within⟩,
    byArrival (made.command_eq.symm.trans stored)⟩

/-- A request is handed over when its last bytes arrive at once, if the short lines in front of it
have let the others in. -/
theorem exists_handing (bounded : config.maxRequestSize.toNat + 1 < UInt64.size)
    (launched : launch host config taken = .ok server) (attends : server.Attends)
    (positive : 0 < config.maxRequestSize.toNat)
    (spells : Spells config.maxRequestSize.toNat written request)
    (reachable : 2 ≤ config.maxRequestSize.toNat ∨
      written.length ≤ 2 * config.maxRequestSize.toNat + 1) :
    ∃ lines events, events.flatMap Event.sent = shortLines lines ++ written ∧
      server.EndsWith config.maxRequestSize.toNat events written (.ok request) := by
  have given : (judge config.maxRequestSize.toNat written).answer? = some (.ok request) := by
    rw [judge_eq_takes_iff.mpr ⟨_, spells⟩]
    rfl
  obtain ⟨lines, segments, last, short, calm, sent, found⟩ :=
    exists_letting_in positive written reachable
  obtain ⟨after, session, reaches, judged⟩ :=
    exists_judged bounded launched attends (Address.loopback 1) segments last short calm
  rw [found] at judged
  obtain ⟨events, sentThen, ends⟩ := reaches.endsWith positive short (judged.answered given)
  rw [found] at ends
  exact ⟨lines, events, sentThen.trans sent, ends⟩

/-- A client is refused when one byte more than the largest request arrives of a larger one, and
nothing else was in hand. -/
theorem exists_refusing (bounded : config.maxRequestSize.toNat + 1 < UInt64.size)
    (launched : launch host config taken = .ok server) (attends : server.Attends)
    (positive : 0 < config.maxRequestSize.toNat)
    {front missing : List UInt8} (cut : front.length = config.maxRequestSize.toNat + 1)
    (more : missing ≠ []) (spells : Spells config.maxRequestSize.toNat (front ++ missing) request)
    (lines : Nat) :
    ∃ events error, events.flatMap Event.sent = shortLines lines ++ (front ++ missing) ∧
      server.EndsWith config.maxRequestSize.toNat events front (.error error) ∧
      (error = .tooLarge (config.maxRequestSize.toNat + 1) config.maxRequestSize.toNat ∨
        error = overlong) := by
  have large : config.maxRequestSize.toNat < front.length := by
    rw [cut]
    exact Nat.lt_succ_self _
  obtain ⟨error, given, cause⟩ := spells.refused more large
  rw [cut] at cause
  obtain ⟨calm, heard⟩ := Intake.hearAll_shortLines config.maxRequestSize.toNat lines
  have short : ∀ segment ∈ List.replicate lines shortLine ++ [front],
      segment.length ≤ config.maxRequestSize.toNat + 1 := by
    refine List.forall_mem_append.mpr ⟨fun segment member => ?_, ?_⟩
    · rw [List.eq_of_mem_replicate member]
      exact Nat.succ_le_succ positive
    · rw [List.forall_mem_singleton, cut]
  have found : foundBehind config.maxRequestSize.toNat (List.replicate lines shortLine) front =
      front := by
    rw [foundBehind, heard]
    rfl
  obtain ⟨after, session, reaches, judged⟩ :=
    exists_judged bounded launched attends (Address.loopback 1) _ _ short calm
  rw [found] at judged
  obtain ⟨alone, stored⟩ := judged.answered given
  -- The other bytes of the request arrive when it is already refused.
  have follows := reaches.trans (after.reaches_step firstId (.arrive firstId (.bytes missing)))
  rw [segments_of_idle rfl, List.append_nil] at follows
  obtain ⟨events, sent, ends⟩ :=
    follows.endsWith positive short ⟨(alone.arrives missing).1, stored⟩
  rw [found] at ends
  exact ⟨events, error, sent.trans (List.append_assoc _ _ _), ends, cause⟩

end Started

/-- By what the requests to a server are judged in its runs, where the largest request has `limit`
bytes. -/
structure JudgesByArrival (server : Server) (limit : Nat) : Prop where
  /-- Whatever goes to execution was judged by the input that was in hand behind the last segment,
  and this is bounded by the requests in a row that have left input behind. -/
  answered : ∀ events, ∀ holding ∈ (server.run events).holdings, holding.1.executes = true →
    ∃ found answer, server.Answers limit events holding.2 found answer ∧
      ByArrival limit found answer
  /-- Every request that is read at all is handed over in some run, if the server attends to its
  clients. Only where the largest request is one byte, it has to be short. -/
  handed_iff : ∀ written request, Spells limit written request →
    ((∃ events, ∃ holding ∈ (server.run events).holdings, holding.1.executes = true ∧
        ∃ found, server.Answers limit events holding.2 found (.ok request) ∧ written <+: found) ↔
      server.Attends ∧ (2 ≤ limit ∨ written.length ≤ 2 * limit + 1))
  /-- Such a request that is larger than the largest by more than one byte is handed over in one run
  and refused in another, with the same bytes sent. -/
  undecided : server.Attends → ∀ written request, Spells limit written request →
    limit + 1 < written.length → 2 ≤ limit ∨ written.length ≤ 2 * limit + 1 →
      ∃ lines handing refusing error,
        handing.flatMap Event.sent = shortLines lines ++ written ∧
        refusing.flatMap Event.sent = shortLines lines ++ written ∧
        server.EndsWith limit handing written (.ok request) ∧
        server.EndsWith limit refusing (written.take (limit + 1)) (.error error) ∧
        (error = .tooLarge (limit + 1) limit ∨ error = overlong)

/-- In every run of a server that was started, whatever its clients send and however it is
scheduled, requests are judged by how much of them is there, and not by their size. -/
theorem large_requests_judged_by_arrival {host : Host} {config : Config} {taken : Bool}
    (bounded : config.maxRequestSize.toNat + 1 < UInt64.size)
    (launched : launch host config taken = .ok server) :
    server.JudgesByArrival config.maxRequestSize.toNat := by
  have positive := positive_of_launch launched
  refine ⟨fun events holding member executes =>
    exists_answers bounded launched events member executes, ?_, ?_⟩
  · intro written request spells
    constructor
    · rintro ⟨events, holding, member, executes, found, answers, front⟩
      constructor
      · by_contra unattended
        rw [(untouched_of_not_attends launched unattended member).1] at executes
        cases executes
      by_cases several : 2 ≤ config.maxRequestSize.toNat
      · exact .inl several
      · exact .inr (Nat.le_trans front.length_le (answers.length_le_of_one (by omega)))
    · rintro ⟨attends, reachable⟩
      obtain ⟨_, events, _, session, alone, answers⟩ :=
        exists_handing bounded launched attends positive spells reachable
      refine ⟨events, (.queued .processing, session), ?_, rfl, written, answers,
        List.prefix_refl written⟩
      rw [alone]
      exact List.mem_singleton_self _
  · intro attends written request spells large reachable
    obtain ⟨lines, handing, sent, hands⟩ :=
      exists_handing bounded launched attends positive spells reachable
    have cut : (written.take (config.maxRequestSize.toNat + 1)).length =
        config.maxRequestSize.toNat + 1 := List.length_take_of_le (Nat.le_of_lt large)
    have more : written.drop (config.maxRequestSize.toNat + 1) ≠ [] := by
      rw [Ne, List.drop_eq_nil_iff]
      exact Nat.not_le.mpr large
    have whole := spells
    rw [← List.take_append_drop (config.maxRequestSize.toNat + 1) written] at whole
    obtain ⟨refusing, error, sentToo, refuses, cause⟩ :=
      exists_refusing bounded launched attends positive cut more whole lines
    rw [List.take_append_drop] at sentToo
    exact ⟨lines, handing, refusing, error, sent, sentToo, hands, refuses, cause⟩

/-- The standard server judges requests by how much of them is there. -/
theorem standard_requests_judged_by_arrival : ∃ server,
    launch Host.loopback Config.standard false = .ok server ∧
      Config.standard.maxRequestSize.toNat + 1 < UInt64.size ∧ server.Attends ∧
      server.JudgesByArrival Config.standard.maxRequestSize.toNat :=
  have roomy : Config.standard.Roomy := by decide
  have bounded : Config.standard.maxRequestSize.toNat + 1 < UInt64.size := by decide
  have launched : launch Host.loopback Config.standard false = .ok _ := rfl
  ⟨_, launched, bounded, ⟨roomy, rfl⟩, large_requests_judged_by_arrival bounded launched⟩

/-- A client sends a request at once, and it is read and executed. -/
def sentAtOnce : List Event :=
  [.connect (Address.loopback 1), .applyControl true,
    .arrive firstId (.bytes settingRequest.encode), .ready firstId,
    .start .readRegistered, .finish .readRegistered 0, .start .processing, .finish .processing 0]

/-- A request of 27 bytes is executed where the largest request has 26. -/
theorem large_request_executed : ∃ server,
    launch Host.loopback { Config.standard with maxRequestSize := 26 } false = .ok server ∧
      26 < settingRequest.encode.length ∧
      (server.run sentAtOnce).traffic.commands = 1 ∧
      (server.run sentAtOnce).traffic.protocolErrors = 0 := by
  have launched :
      launch Host.loopback { Config.standard with maxRequestSize := 26 } false = .ok _ := rfl
  exact ⟨_, launched, by decide, rfl, rfl⟩

end Server

end KeyValueServer
