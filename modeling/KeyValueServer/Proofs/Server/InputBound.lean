import KeyValueServer.Proofs.Request.Crowd
import KeyValueServer.Proofs.Server.Delivery

/-!
# How much input a connection holds

A read job adds at most one byte more than the largest request has, and a session that awaits the
rest of a request holds no more than the largest request. But the input is compared with the largest
request only where no complete request stands in front of it. While requests are taken, each job
reads before it takes one, and what it leaves is not bounded by the largest request: it grows by one
byte less than the largest request with every request that leaves input behind.

The main statement gives the greatest amount exactly, by the number of requests in a row that have
left input behind. It is at most twice the largest request and one byte as long as there was at most
one of them, and beyond all bounds in general, unless the largest request is one byte or the server
attends to nobody.
-/

namespace KeyValueServer

/-- A verdict leaves no more in hand than was found. -/
theorem length_rest_le (limit : Nat) (found : List UInt8) :
    ((judge limit found).rest found).length ≤ found.length := by
  cases judged : judge limit found with
  | waits => exact Nat.le_refl _
  | takes request rest => exact Nat.le_trans (Nat.le_add_right _ _) (length_of_takes judged)
  | refuses error => exact Nat.zero_le _

/-- With a verdict a session holds no more than was found. -/
theorem Verdict.Made.length_le {limit : Nat} {found : List UInt8} {session : Session}
    (made : (judge limit found).Made found session) : session.input.length ≤ found.length := by
  cases judged : judge limit found with
  | waits =>
    rw [judged] at made
    exact Nat.le_of_eq (congrArg List.length made.2)
  | takes request rest =>
    rw [judged] at made
    rw [made.2]
    exact Nat.le_trans (Nat.le_add_right _ _) (length_of_takes judged)
  | refuses error =>
    rw [judged] at made
    exact Nat.le_of_eq (congrArg List.length made.2)

/-- The input that is found behind a segment is no longer than the streak before it allows. -/
theorem length_foundBehind_le {limit : Nat} (positive : 0 < limit) (earlier : List (List UInt8))
    (last : List UInt8) (bounded : ∀ segment ∈ earlier ++ [last], segment.length ≤ limit + 1) :
    (foundBehind limit earlier last).length ≤
      largestInput limit (Intake.streakBehind limit earlier) := by
  obtain ⟨boundedBefore, boundedLast⟩ := List.forall_mem_append.mp bounded
  have held := (Intake.held_start limit).hearAll positive earlier boundedBefore
  exact held.found (boundedLast last (List.mem_singleton_self last))

/-- In every place a session holds no more input than the streak before the last segment allows. -/
theorem Place.Heard.length_le {limit : Nat} {segments : List (List UInt8)} {session : Session}
    {place : Place} (heard : place.Heard limit segments session) (positive : 0 < limit)
    (bounded : ∀ segment ∈ segments, segment.length ≤ limit + 1) :
    session.input.length ≤
      largestInput limit (Intake.streakBehind limit segments.dropLast) := by
  have atLast (earlier : List (List UInt8)) (last : List UInt8)
      (split : segments = earlier ++ [last])
      (within : session.input.length ≤ (foundBehind limit earlier last).length) :
      session.input.length ≤
        largestInput limit (Intake.streakBehind limit segments.dropLast) := by
    subst split
    rw [List.dropLast_concat]
    exact Nat.le_trans within (length_foundBehind_le positive earlier last bounded)
  cases executes : place.executes with
  | true =>
    obtain ⟨earlier, last, split, made⟩ := heard.made executes
    exact atLast earlier last split made.length_le
  | false =>
    rcases heard.input_cases executes with same | ⟨earlier, last, split, same⟩
    · rcases List.eq_nil_or_concat' segments with rfl | ⟨earlier, last, split⟩
      · rw [same]
        exact Nat.zero_le _
      · refine atLast earlier last split ?_
        rw [same, split, input_behind]
        exact length_rest_le limit _
    · exact atLast earlier last split (Nat.le_of_eq (congrArg List.length same))

/-- A byte that is part of no terminator, several times. -/
def filler (count : Nat) : List UInt8 := List.replicate count 0x61

/-- A line that does not end is incomplete. -/
theorem decode_filler (limit count : Nat) :
    Request.decode limit (filler count) = .incomplete := by
  cases count with
  | zero => rfl
  | succ count =>
    have unended : (filler (count + 1)).findIdx? (· == 0x0a) = none := by
      rw [List.findIdx?_eq_none_iff]
      intro byte member
      rw [List.eq_of_mem_replicate member]
      rfl
    have first : Request.decode limit (filler (count + 1)) =
        Request.Cursor.inline ⟨0, filler (count + 1)⟩ := rfl
    rw [first, Request.Cursor.inline, unended]

/-- For every streak there are segments behind which as much of a line is in hand as the streak
allows, and no end of it. -/
theorem exists_filling {limit : Nat} (positive : 0 < limit) (streak : Nat) :
    ∃ segments count, (∀ segment ∈ segments, segment.length ≤ limit + 1) ∧
      Intake.Calm limit Intake.start segments ∧
      Intake.start.hearAll limit segments = ⟨filler count, streak⟩ ∧
      count + (limit + 1) = largestInput limit streak := by
  cases streak with
  | zero =>
    have size : (filler limit).length = limit := List.length_replicate
    have waits : judge limit (filler limit) = .waits :=
      judge_eq_waits_iff.mpr ⟨decode_filler limit limit, Nat.le_of_eq size⟩
    refine ⟨[filler limit], limit, ?_, ⟨?_, trivial⟩, ?_, ?_⟩
    · rw [List.forall_mem_singleton, size]
      exact Nat.le_succ limit
    · intro error refused
      cases waits.symm.trans refused
    · rw [Intake.hearAll, List.foldl_cons, List.foldl_nil]
      exact Intake.hear_of_waits waits
    · rw [largestInput, Nat.zero_sub, Nat.zero_mul]
      omega
  | succ streak =>
    obtain ⟨segments, short, _, calm, heard⟩ := Intake.exists_crowd_from_start positive streak
      (filler (1 + (streak + 1) * (limit - 1))) List.length_replicate
    refine ⟨segments, _, short, calm, heard, ?_⟩
    rw [largestInput, Nat.add_sub_cancel, Nat.add_mul]
    omega

/-- Input of a line that does not end is refused as soon as it is too large. -/
theorem judge_filler {limit count : Nat} (large : limit < count) :
    judge limit (filler count) = .refuses (.tooLarge count limit) := by
  have size : (filler count).length = count := List.length_replicate
  have judged := judge_oversized (decode_filler limit count) (large.trans_eq size.symm)
  rwa [size] at judged

namespace Server

variable {server : Server}

/-- For every streak there is a run that leads to the most input that the streak allows. -/
theorem exists_largestInput {host : Host} {config : Config} {taken : Bool}
    (bounded : config.maxRequestSize.toNat + 1 < UInt64.size)
    (launched : launch host config taken = .ok server) (attends : server.Attends)
    (positive : 0 < config.maxRequestSize.toNat) (streak : Nat) :
    ∃ events, ∃ holding ∈ (server.run events).holdings,
      Intake.streakBehind config.maxRequestSize.toNat
        (server.segmentsIn holding.2.id events).dropLast = streak ∧
      holding.2.input.length = largestInput config.maxRequestSize.toNat streak := by
  obtain ⟨segments, count, short, calm, heard, size⟩ := exists_filling positive streak
  -- One more segment of the line makes it too large, and it is all kept until it is refused.
  have shortAll : ∀ segment ∈ segments ++ [filler (config.maxRequestSize.toNat + 1)],
      segment.length ≤ config.maxRequestSize.toNat + 1 := by
    refine List.forall_mem_append.mpr ⟨short, ?_⟩
    rw [List.forall_mem_singleton]
    exact Nat.le_of_eq List.length_replicate
  obtain ⟨after, session, ⟨events, rfl, _, segmentsRead⟩, judged⟩ :=
    exists_judged bounded launched attends (Address.loopback 1) segments _ shortAll calm
  have found : foundBehind config.maxRequestSize.toNat segments
      (filler (config.maxRequestSize.toNat + 1)) =
        filler (largestInput config.maxRequestSize.toNat streak) := by
    rw [foundBehind, heard, ← size]
    exact List.replicate_append_replicate
  rw [found, judge_filler (by rw [largestInput]; omega)] at judged
  have named : session.id = firstId := judged.alone.named
  refine ⟨events, _, judged.alone.member, ?_, ?_⟩
  · rw [named, segmentsRead, List.dropLast_concat, Intake.streakBehind, heard]
  · rw [judged.made.2]
    exact List.length_replicate

/-- How much input the sessions of a server hold in its runs, where requests have at most `limit`
bytes. -/
structure InputBounded (server : Server) (limit : Nat) : Prop where
  /-- In whatever place it is, a session holds no more than the requests in a row allow that have
  left input behind before its last read job. -/
  held : ∀ events, ∀ holding ∈ (server.run events).holdings,
    holding.2.input.length ≤ largestInput limit
      (Intake.streakBehind limit (server.segmentsIn holding.2.id events).dropLast)
  /-- A read job that runs finds no more than those allow that have left input behind up to now. -/
  found : ∀ events, ∀ session ∈ ((server.run events).pool .readRegistered).running,
    (session.fill (limit + 1) ((server.run events).socket session.id)).2.1.input.length ≤
      largestInput limit (Intake.streakBehind limit (server.segmentsIn session.id events))
  /-- The most that is allowed is held in some run, if the server attends to its clients. -/
  attained : server.Attends → ∀ streak, ∃ events, ∃ holding ∈ (server.run events).holdings,
    Intake.streakBehind limit (server.segmentsIn holding.2.id events).dropLast = streak ∧
      holding.2.input.length = largestInput limit streak
  /-- There is a bound for all runs only where the largest request is one byte, or where the server
  attends to nobody. -/
  bounded_iff : (∃ most, ∀ events, ∀ holding ∈ (server.run events).holdings,
    holding.2.input.length ≤ most) ↔ limit = 1 ∨ ¬ server.Attends

/-- In every run of a server that was started, whatever its clients send and however it is
scheduled, the input of a session is bounded by the requests in a row that have left input behind,
and by nothing else. -/
theorem input_bounded_by_streak {host : Host} {config : Config} {taken : Bool}
    (bounded : config.maxRequestSize.toNat + 1 < UInt64.size)
    (launched : launch host config taken = .ok server) :
    server.InputBounded config.maxRequestSize.toNat := by
  have positive := positive_of_launch launched
  have held (events : List Event) (holding : Holding)
      (member : holding ∈ (server.run events).holdings) :
      holding.2.input.length ≤ largestInput config.maxRequestSize.toNat
        (Intake.streakBehind config.maxRequestSize.toNat
          (server.segmentsIn holding.2.id events).dropLast) := by
    obtain ⟨heard, short⟩ := heard_of_launch bounded launched events holding.2.id
    exact (heard holding member rfl).length_le positive short
  refine ⟨held, ?_, ?_, ?_⟩
  · intro events session running
    obtain ⟨heard, short⟩ := heard_of_launch bounded launched events session.id
    have member : ((Place.running .readRegistered, session) : Holding) ∈
        (server.run events).holdings :=
      ((server.run events).mem_holdings_iff _).mpr (.inr (.inr ⟨_, .inr ⟨rfl, running⟩⟩))
    have reading := heard _ member rfl
    rcases read : session.fill (config.maxRequestSize.toNat + 1)
      ((server.run events).socket session.id) with ⟨answer, filled, socket⟩
    rw [input_of_fill reading read]
    refine length_foundBehind_le positive _ _ (List.forall_mem_append.mpr ⟨short, ?_⟩)
    rw [List.forall_mem_singleton]
    exact Socket.read_bounded _ _
  · exact fun attends => exists_largestInput bounded launched attends positive
  · constructor
    · rintro ⟨most, always⟩
      by_contra several
      rw [not_or, Classical.not_not] at several
      obtain ⟨several, attends⟩ := several
      obtain ⟨events, holding, member, _, size⟩ :=
        exists_largestInput bounded launched attends positive (most + 1)
      have within := always events holding member
      have steps : most * 1 ≤ most * (config.maxRequestSize.toNat - 1) :=
        Nat.mul_le_mul_left most (by omega)
      rw [size, largestInput, Nat.add_sub_cancel] at within
      omega
    · rintro (one | unattended)
      · refine ⟨3, fun events holding member => ?_⟩
        have within := held events holding member
        rw [one, largestInput, Nat.sub_self, Nat.mul_zero] at within
        exact within
      · refine ⟨0, fun events holding member => ?_⟩
        rw [(untouched_of_not_attends launched unattended member).2]
        exact Nat.le_refl 0

/-- The standard server holds no more input than the requests in a row allow, and so much in some
run. -/
theorem standard_input_bounded_by_streak : ∃ server,
    launch Host.loopback Config.standard false = .ok server ∧
      Config.standard.maxRequestSize.toNat + 1 < UInt64.size ∧ server.Attends ∧
      server.InputBounded Config.standard.maxRequestSize.toNat :=
  have roomy : Config.standard.Roomy := by decide
  have bounded : Config.standard.maxRequestSize.toNat + 1 < UInt64.size := by decide
  have launched : launch Host.loopback Config.standard false = .ok _ := rfl
  ⟨_, launched, bounded, ⟨roomy, rfl⟩, input_bounded_by_streak bounded launched⟩

/-- The jobs that take one request from the input of a connection and answer it. -/
def oneRound : List Event :=
  [.start .readRegistered, .finish .readRegistered 0, .start .processing, .finish .processing 0,
    .start .writePending, .finish .writePending 0, .applyControl true]

/-- A client sends eight empty arrays at once, and four of them are answered. -/
def fourRounds : List Event :=
  [.connect (Address.loopback 1), .applyControl true,
    .arrive firstId (.bytes (List.replicate 8 (Value.array []).encode).flatten), .ready firstId] ++
    (List.replicate 4 oneRound).flatten

/-- When four of the empty arrays are answered, the session of the connection holds the other four,
one byte more than twice the largest request and one byte. -/
theorem input_beyond_two_requests : ∃ server,
    launch Host.loopback { Config.standard with maxRequestSize := 7 } false = .ok server ∧
      (server.run fourRounds).holdings.map (fun holding => holding.2.input.length) =
        [2 * 7 + 2] := by
  have launched :
      launch Host.loopback { Config.standard with maxRequestSize := 7 } false = .ok _ := rfl
  exact ⟨_, launched, by decide +kernel⟩

end Server

end KeyValueServer
