import KeyValueServer.Proofs.Request.Finality
import KeyValueServer.Proofs.Request.Intake

/-!
# Requests by the bytes that have arrived

A request is not judged by its size, but by how much of it is there when input is looked at. When
all of it is there, in front, it is handed over, however long it is. When only a front of it is
there, that is compared with the largest request.

The one bound that does not depend on arrival is that on byte strings: a request with a larger one
is refused in either case.
-/

namespace KeyValueServer

namespace Request

/-- Some bytes are one request and nothing more, where byte strings have at most `limit` bytes. -/
def Spells (limit : Nat) (written : List UInt8) (request : Value) : Prop :=
  decode limit written = .complete request ⟨written.length, []⟩

variable {limit other : Nat} {written front missing : List UInt8} {request : Value}

/-- A request is read whatever follows it. -/
theorem Spells.followed (spells : Spells limit written request) (more : List UInt8) :
    decode limit (written ++ more) = .complete request ⟨written.length, more⟩ := by
  obtain ⟨extent, _, split, _, same⟩ := decode_extent spells
  obtain rfl : written = extent := split.trans (List.append_nil extent)
  exact same more

/-- What is read from the front of a buffer spells the request that was read. -/
theorem exists_spelling {buffer : List UInt8} {next : Cursor}
    (read : decode limit buffer = .complete request next) :
    ∃ written, Spells limit written request ∧ buffer = written ++ next.ahead := by
  obtain ⟨written, _, split, _, same⟩ := decode_extent read
  have alone := same []
  rw [List.append_nil] at alone
  exact ⟨written, alone, split⟩

/-- A front of a request is incomplete, or it ends in a length line that is too long so far. -/
theorem Spells.unfinished (spells : Spells limit (front ++ missing) request) (more : missing ≠ []) :
    decode limit front = .incomplete ∨ decode limit front = .refused overlong := by
  rcases decode_proper_front more spells limit with incomplete | unended | ⟨size, _, refused⟩
  · exact .inl incomplete
  · exact .inr unended
  · have stands := refusal_stands limit front missing _ refused nofun
    cases stands.symm.trans spells

/-- A request that is read only with a greater limit has a byte string that is too large. -/
theorem Spells.tooLarge (spells : Spells other written request)
    (unfit : ¬ Spells limit written request) :
    ∃ size, limit < size ∧
      ∀ more, decode limit (written ++ more) = .refused (.tooLarge size limit) := by
  rcases decode_bounded spells limit with fits | ⟨size, large, refused⟩
  · exact absurd fits unfit
  · exact ⟨size, large, fun more => refusal_stands limit written more _ refused nofun⟩

end Request

open Request (Spells overlong)

/-- What a verdict answers to the client, either a request that is to be executed or a refusal. -/
def Verdict.answer? : Verdict → Option (Except Request.Error Value)
  | .waits => none
  | .takes request _ => some (.ok request)
  | .refuses error => some (.error error)

/-- The answer to input follows from how much of a request is there. -/
structure ByArrival (limit : Nat) (found : List UInt8) (answer : Except Request.Error Value) :
    Prop where
  /-- What is handed over is a request all of which is there. -/
  handed : ∀ request, answer = .ok request →
    ∃ written, Spells limit written request ∧ written <+: found
  /-- A request all of which is there is handed over, however long it is. -/
  whole : ∀ written request, Spells limit written request → written <+: found →
    answer = .ok request
  /-- A front of a request is refused where it is larger than the largest request, or within a
  length line. -/
  front : ∀ written request, Spells limit written request → found <+: written →
    found ≠ written →
      limit < found.length ∧ answer = .error (.tooLarge found.length limit) ∨
        answer = .error overlong
  /-- A request with a byte string that is too large is refused, and so is a front of it. -/
  unfit : ∀ greater written request, Spells greater written request →
    ¬ Spells limit written request → written <+: found ∨ found <+: written →
      (∃ size, limit < size ∧ answer = .error (.tooLarge size limit)) ∨ answer = .error overlong

section Judging

variable {limit : Nat} {found : List UInt8} {answer : Except Request.Error Value}

/-- A request that is read is handed over. -/
theorem answer_of_complete {request : Value} {next : Request.Cursor}
    (complete : Request.decode limit found = .complete request next)
    (given : (judge limit found).answer? = some answer) : answer = .ok request := by
  rw [judge_eq_takes_iff.mpr ⟨next.position, complete⟩] at given
  exact (Option.some.inj given).symm

/-- A refusal is passed on. -/
theorem answer_of_refused {error : Request.Error}
    (refused : Request.decode limit found = .refused error)
    (given : (judge limit found).answer? = some answer) : answer = .error error := by
  rw [judge_malformed refused] at given
  exact (Option.some.inj given).symm

/-- Incomplete input is answered only where it is larger than the largest request. -/
theorem answer_of_incomplete (incomplete : Request.decode limit found = .incomplete)
    (given : (judge limit found).answer? = some answer) :
    limit < found.length ∧ answer = .error (.tooLarge found.length limit) := by
  rcases Nat.lt_or_ge limit found.length with large | small
  · rw [judge_oversized incomplete large] at given
    exact ⟨large, (Option.some.inj given).symm⟩
  · rw [judge_eq_waits_iff.mpr ⟨incomplete, small⟩] at given
    cases given

/-- What is handed over was read. -/
theorem complete_of_answer {request : Value}
    (given : (judge limit found).answer? = some (.ok request)) :
    ∃ next, Request.decode limit found = .complete request next := by
  cases outcome : Request.decode limit found with
  | incomplete => cases (answer_of_incomplete outcome given).2
  | refused error => cases answer_of_refused outcome given
  | complete value next =>
    obtain rfl := Except.ok.inj (answer_of_complete outcome given)
    exact ⟨next, rfl⟩

/-- All input is answered by how much of a request is there. -/
theorem byArrival (given : (judge limit found).answer? = some answer) :
    ByArrival limit found answer := by
  constructor
  case handed =>
    rintro request rfl
    obtain ⟨next, complete⟩ := complete_of_answer given
    obtain ⟨written, spells, split⟩ := Request.exists_spelling complete
    exact ⟨written, spells, ⟨next.ahead, split.symm⟩⟩
  case whole =>
    rintro written request spells ⟨more, rfl⟩
    exact answer_of_complete (spells.followed more) given
  case front =>
    rintro written request spells ⟨missing, rfl⟩ proper
    have more : missing ≠ [] := by
      rintro rfl
      exact proper (List.append_nil found).symm
    rcases spells.unfinished more with incomplete | unended
    · exact .inl (answer_of_incomplete incomplete given)
    · exact .inr (answer_of_refused unended given)
  case unfit =>
    rintro greater written request spells unfit (⟨more, rfl⟩ | ⟨missing, rfl⟩)
    · obtain ⟨size, large, refused⟩ := spells.tooLarge unfit
      exact .inl ⟨size, large, answer_of_refused (refused more) given⟩
    · by_cases nothing : missing = []
      · obtain ⟨size, large, refused⟩ := spells.tooLarge unfit
        have whole := refused []
        rw [nothing, List.append_nil, List.append_nil] at whole
        exact .inl ⟨size, large, answer_of_refused whole given⟩
      · rcases Request.decode_proper_front nothing spells limit with
          incomplete | unended | ⟨size, large, refused⟩
        · exact .inl ⟨found.length, answer_of_incomplete incomplete given⟩
        · exact .inr (answer_of_refused unended given)
        · exact .inl ⟨size, large, answer_of_refused refused given⟩

/-- A front of a request that is larger than the largest request is refused. -/
theorem Request.Spells.refused {front missing : List UInt8} {request : Value}
    (spells : Spells limit (front ++ missing) request) (more : missing ≠ [])
    (large : limit < front.length) :
    ∃ error, (judge limit front).answer? = some (.error error) ∧
      (error = .tooLarge front.length limit ∨ error = overlong) := by
  rcases spells.unfinished more with incomplete | unended
  · rw [judge_oversized incomplete large]
    exact ⟨_, rfl, .inl rfl⟩
  · rw [judge_malformed unended]
    exact ⟨_, rfl, .inr rfl⟩

end Judging

end KeyValueServer
