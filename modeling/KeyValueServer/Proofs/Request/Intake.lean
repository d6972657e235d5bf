import KeyValueServer.Proofs.Request.Extent

/-!
# What a connection takes in

The input of a connection is read in segments. After each segment all that is there is judged: a
request is taken from its front, or it is refused, or it stays and more is awaited. The largest
request is no bound for a request that is complete. It is compared with the input only where no
complete request stands in front.

So what is left behind a request may be longer than the largest request, and it is not looked at
before the next segment is there. `Intake` follows this: `streak` counts the requests that were
taken in a row while each left input behind. Every one of them may leave more than the one before,
by one byte less than the largest request, and no more than that.
-/

namespace KeyValueServer

/-- What is made of the input that is found. -/
inductive Verdict where
  /-- More is awaited. -/
  | waits
  /-- A request is taken from the front. -/
  | takes (request : Value) (rest : List UInt8)
  | refuses (error : Request.Error)

/-- Judges the input that is found, where requests have at most `limit` bytes. -/
def judge (limit : Nat) (found : List UInt8) : Verdict :=
  match Request.decode limit found with
  | .incomplete =>
    if found.length ≤ limit then .waits else .refuses (.tooLarge found.length limit)
  | .refused error => .refuses error
  | .complete request next => .takes request next.ahead

/-- The input that is still in hand behind a verdict. Refused input is dropped. -/
def Verdict.rest (found : List UInt8) : Verdict → List UInt8
  | .waits => found
  | .takes _ rest => rest
  | .refuses _ => []

/-- What is in hand between two segments. -/
structure Intake where
  input : List UInt8
  /-- How many requests in a row have left input behind, up to now. -/
  streak : Nat

namespace Intake

/-- Nothing was read yet. -/
def start : Intake := ⟨[], 0⟩

/-- Reads one more segment. -/
def hear (limit : Nat) (intake : Intake) (segment : List UInt8) : Intake :=
  match judge limit (intake.input ++ segment) with
  | .waits => ⟨intake.input ++ segment, 0⟩
  | .takes _ rest => ⟨rest, if rest = [] then 0 else intake.streak + 1⟩
  | .refuses _ => start

/-- Reads segments, one behind the other. -/
def hearAll (limit : Nat) (intake : Intake) (segments : List (List UInt8)) : Intake :=
  segments.foldl (hear limit) intake

/-- How many requests in a row have left input behind, up to the last of the segments. -/
def streakBehind (limit : Nat) (segments : List (List UInt8)) : Nat :=
  (hearAll limit start segments).streak

/-- Whether segments are read without a refusal. -/
def Calm (limit : Nat) : Intake → List (List UInt8) → Prop
  | _, [] => True
  | intake, segment :: segments =>
    (∀ error, judge limit (intake.input ++ segment) ≠ .refuses error) ∧
      Calm limit (intake.hear limit segment) segments

end Intake

/-- The most input that can be found with a streak, where requests have at most `limit` bytes. -/
def largestInput (limit streak : Nat) : Nat := 2 * limit + 1 + (streak - 1) * (limit - 1)

section Judging

variable {limit : Nat} {found rest : List UInt8} {request : Value}

/-- A request is taken where it is decoded. -/
theorem judge_eq_takes_iff : judge limit found = .takes request rest ↔
    ∃ position, Request.decode limit found = .complete request ⟨position, rest⟩ := by
  unfold judge
  constructor
  · intro judged
    split at judged
    · split at judged <;> cases judged
    · cases judged
    · next _ next complete =>
      obtain ⟨rfl, rfl⟩ := Verdict.takes.inj judged
      exact ⟨next.position, complete⟩
  · rintro ⟨position, complete⟩
    rw [complete]

/-- More is awaited where a request is incomplete and not too large yet. -/
theorem judge_eq_waits_iff : judge limit found = .waits ↔
    Request.decode limit found = .incomplete ∧ found.length ≤ limit := by
  unfold judge
  constructor
  · intro judged
    split at judged
    · next incomplete =>
      split at judged
      · next small => exact ⟨incomplete, small⟩
      · cases judged
    · cases judged
    · cases judged
  · rintro ⟨incomplete, small⟩
    simp only [incomplete, small, ↓reduceIte]

/-- Incomplete input is refused where it is larger than the largest request. -/
theorem judge_oversized (incomplete : Request.decode limit found = .incomplete)
    (large : limit < found.length) :
    judge limit found = .refuses (.tooLarge found.length limit) := by
  simp only [judge, incomplete, Nat.not_le.mpr large, ↓reduceIte]

/-- What a decoder refuses is refused. -/
theorem judge_malformed {error : Request.Error}
    (refused : Request.decode limit found = .refused error) :
    judge limit found = .refuses error := by
  simp only [judge, refused]

/-- Where more is awaited, everything in hand is kept, and the streak is over. -/
theorem Intake.hear_of_waits {intake : Intake} {segment : List UInt8}
    (waits : judge limit (intake.input ++ segment) = .waits) :
    intake.hear limit segment = ⟨intake.input ++ segment, 0⟩ := by
  rw [hear, waits]

/-- A request that is taken has at least two bytes. -/
theorem length_of_takes (takes : judge limit found = .takes request rest) :
    rest.length + 2 ≤ found.length := by
  obtain ⟨_, complete⟩ := judge_eq_takes_iff.mp takes
  obtain ⟨written, long, split, _⟩ := Request.decode_extent complete
  have lengths := congrArg List.length split
  rw [List.length_append] at lengths
  dsimp only at lengths
  omega

/-- A request whose front was incomplete is longer than that front. -/
theorem length_of_completed {front segment : List UInt8}
    (incomplete : Request.decode limit front = .incomplete)
    (takes : judge limit (front ++ segment) = .takes request rest) :
    rest.length < segment.length := by
  obtain ⟨_, complete⟩ := judge_eq_takes_iff.mp takes
  obtain ⟨written, _, split, _, same⟩ := Request.decode_extent complete
  by_contra large
  have lengths := congrArg List.length split
  simp only [List.length_append] at lengths
  have inside : written <+: front :=
    List.prefix_of_prefix_length_le ⟨_, split.symm⟩ (List.prefix_append _ _) (by omega)
  obtain ⟨more, rfl⟩ := inside
  rw [same more] at incomplete
  cases incomplete

end Judging

namespace Intake

variable {limit : Nat} {intake : Intake} {segment : List UInt8}

/-- What holds between two segments: input without a streak is incomplete, and the input is no
longer than the streak allows. -/
structure Held (limit : Nat) (intake : Intake) : Prop where
  open_ : intake.streak = 0 → Request.decode limit intake.input = .incomplete
  short : intake.input.length ≤ limit + (intake.streak - 1) * (limit - 1)

/-- At the start there is no input. -/
theorem held_start (limit : Nat) : Held limit start := ⟨fun _ => rfl, Nat.zero_le _⟩

/-- The input that is found behind a segment is no longer than the streak allows. -/
theorem Held.found (held : Held limit intake) (bounded : segment.length ≤ limit + 1) :
    (intake.input ++ segment).length ≤ largestInput limit intake.streak := by
  have short := held.short
  rw [List.length_append, largestInput]
  omega

/-- Every segment adds to the streak at most what it allows. -/
theorem Held.hear (held : Held limit intake) (positive : 0 < limit)
    (bounded : segment.length ≤ limit + 1) : Held limit (intake.hear limit segment) := by
  unfold Intake.hear
  cases judged : judge limit (intake.input ++ segment) with
  | waits =>
    obtain ⟨incomplete, small⟩ := judge_eq_waits_iff.mp judged
    exact ⟨fun _ => incomplete, Nat.le_trans small (Nat.le_add_right _ _)⟩
  | refuses error => exact held_start limit
  | takes request rest =>
    dsimp only
    by_cases nothing : rest = []
    · rw [if_pos nothing, nothing]
      exact ⟨fun _ => rfl, Nat.zero_le _⟩
    · rw [if_neg nothing]
      refine ⟨fun none_ => absurd none_ (Nat.succ_ne_zero _), ?_⟩
      dsimp only
      rw [Nat.add_sub_cancel]
      cases grown : intake.streak with
      | zero =>
        -- The request was longer than the input before the segment.
        have less := length_of_completed (held.open_ grown) judged
        omega
      | succ streak =>
        have short := held.short
        have less := length_of_takes judged
        rw [grown, Nat.add_sub_cancel] at short
        rw [List.length_append] at less
        rw [Nat.add_mul, Nat.one_mul]
        omega

/-- Segments keep the input within what the streak allows. -/
theorem Held.hearAll (held : Held limit intake) (positive : 0 < limit)
    (segments : List (List UInt8)) (bounded : ∀ segment ∈ segments, segment.length ≤ limit + 1) :
    Held limit (intake.hearAll limit segments) := by
  unfold Intake.hearAll
  induction segments generalizing intake with
  | nil => exact held
  | cons segment segments inductionHypothesis =>
    obtain ⟨first, others⟩ := List.forall_mem_cons.mp bounded
    exact inductionHypothesis (held.hear positive first) others

/-- The input in hand behind a segment is what its verdict leaves. -/
theorem input_hear (limit : Nat) (intake : Intake) (segment : List UInt8) :
    (intake.hear limit segment).input =
      (judge limit (intake.input ++ segment)).rest (intake.input ++ segment) := by
  unfold hear
  cases judge limit (intake.input ++ segment) <;> rfl

/-- The last of several segments is read behind the others. -/
theorem hearAll_concat (limit : Nat) (intake : Intake) (segments : List (List UInt8))
    (segment : List UInt8) :
    intake.hearAll limit (segments ++ [segment]) =
      (intake.hearAll limit segments).hear limit segment := by
  rw [hearAll, List.foldl_append]
  rfl

end Intake

end KeyValueServer
