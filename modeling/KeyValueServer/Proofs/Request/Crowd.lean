import KeyValueServer.Proofs.Request.Intake

/-!
# Short requests in front

Short requests that are read in segments of the greatest size fill the input as fast as it can be
filled: each of them is taken as soon as a segment is there that holds many more. Behind them the
input may begin with anything, in any amount that the streak allows, and none of it was looked at.
-/

namespace KeyValueServer

/-- The shortest line with a word in it. -/
def shortLine : List UInt8 := [0x78, 0x0a]

/-- The request on that line. -/
def shortRequest : Value := .array [.bulk [0x78]]

/-- The short line, several times. -/
def shortLines (count : Nat) : List UInt8 := (List.replicate count shortLine).flatten

/-- The short line is taken from whatever begins with it. -/
theorem judge_shortLine (limit : Nat) (rest : List UInt8) :
    judge limit (shortLine ++ rest) = .takes shortRequest rest := by
  have alone : Request.decode limit shortLine = .complete shortRequest ⟨2, []⟩ := rfl
  obtain ⟨written, _, split, _, same⟩ := Request.decode_extent alone
  obtain rfl : shortLine = written := split.trans (List.append_nil written)
  exact judge_eq_takes_iff.mpr ⟨_, same rest⟩

/-- Short lines are counted by their bytes. -/
theorem length_shortLines (count : Nat) : (shortLines count).length = 2 * count := by
  simp [shortLines, shortLine, Nat.mul_comm]

/-- One more short line stands in front of the others. -/
theorem shortLines_succ (count : Nat) :
    shortLines (count + 1) = shortLine ++ shortLines count := by
  rw [shortLines, List.replicate_succ, List.flatten_cons]
  rfl

namespace Intake

variable {limit : Nat}

/-- Short lines that are read one by one leave nothing behind. -/
theorem hearAll_shortLines (limit count : Nat) :
    Calm limit start (List.replicate count shortLine) ∧
      hearAll limit start (List.replicate count shortLine) = start := by
  have judged : judge limit (start.input ++ shortLine) = .takes shortRequest [] :=
    judge_shortLine limit []
  have again : hear limit start shortLine = start := by
    unfold hear
    rw [judged]
    rfl
  induction count with
  | zero => exact ⟨trivial, rfl⟩
  | succ count inductionHypothesis =>
    rw [List.replicate_succ]
    refine ⟨⟨?_, ?_⟩, ?_⟩
    · intro error refused
      cases judged.symm.trans refused
    · rw [again]
      exact inductionHypothesis.1
    · rw [hearAll, List.foldl_cons, again]
      exact inductionHypothesis.2

/-- A front of a stream and the segment behind it hold the first short line of the stream and a
longer front of what follows it. -/
theorem exists_longer {left ahead behind : List UInt8} (size : Nat)
    (split : left ++ ahead = shortLine ++ behind) (enough : size ≤ ahead.length)
    (long : 2 ≤ left.length + size) :
    ∃ longer, left ++ ahead.take size = shortLine ++ longer ∧ longer <+: behind ∧
      longer.length + 2 = left.length + size := by
  have cut := congrArg (List.take (left.length + size)) split
  have past : shortLine.length ≤ left.length + size := long
  rw [List.take_length_add_append, List.take_append, List.take_of_length_le past] at cut
  refine ⟨_, cut, List.take_prefix _ _, ?_⟩
  have lengths := congrArg List.length cut
  have two : shortLine.length = 2 := rfl
  rw [List.length_append, List.length_append, List.length_take_of_le enough, two] at lengths
  rw [two]
  omega

/-- A segment behind a front of the short lines takes the first of them, and leaves a longer front
of the others. -/
theorem hear_shortLine (positive : 0 < limit) {left rest : List UInt8} {count : Nat}
    (streak : Nat) (begun : left ≠ []) (front : left <+: shortLines (count + 1) ++ rest)
    (enough : left.length + (limit + 1) ≤ (shortLines (count + 1) ++ rest).length) :
    ∃ segment longer, segment.length = limit + 1 ∧ longer ≠ [] ∧
      longer <+: shortLines count ++ rest ∧ longer.length + 2 = left.length + (limit + 1) ∧
      left ++ segment = shortLine ++ longer ∧
      judge limit (left ++ segment) = .takes shortRequest longer ∧
      hear limit ⟨left, streak⟩ segment = ⟨longer, streak + 1⟩ := by
  obtain ⟨ahead, split⟩ := front
  have occupied : 0 < left.length := List.length_pos_iff.mpr begun
  have lengths := congrArg List.length split
  rw [List.length_append] at lengths
  rw [shortLines_succ, List.append_assoc] at split
  obtain ⟨longer, found, behind, size⟩ := exists_longer (limit + 1) split (by omega) (by omega)
  have nonempty : longer ≠ [] := by
    rintro rfl
    rw [List.length_nil] at size
    omega
  have judged : judge limit (left ++ ahead.take (limit + 1)) = .takes shortRequest longer := by
    rw [found]
    exact judge_shortLine limit longer
  refine ⟨ahead.take (limit + 1), longer, ?_, nonempty, behind, size, found, judged, ?_⟩
  · rw [List.length_take]
    omega
  · unfold hear
    dsimp only
    rw [judged]
    simp only [nonempty, ↓reduceIte]

/-- A front of short lines, with anything behind them, is read in segments of the greatest size so
that each segment takes one of the short lines and the rest is in hand at the end. -/
theorem exists_crowd (positive : 0 < limit) (count : Nat) {left rest : List UInt8} (streak : Nat)
    (begun : left ≠ []) (front : left <+: shortLines count ++ rest)
    (size : left.length + count * (limit + 1) = 2 * count + rest.length) :
    ∃ segments, (∀ segment ∈ segments, segment.length ≤ limit + 1) ∧
      left ++ segments.flatten = shortLines count ++ rest ∧
      Calm limit ⟨left, streak⟩ segments ∧
      hearAll limit ⟨left, streak⟩ segments = ⟨rest, streak + count⟩ := by
  induction count generalizing left streak with
  | zero =>
    have whole : left = rest := by
      refine List.IsPrefix.eq_of_length front ?_
      omega
    subst whole
    exact ⟨[], (fun _ member => nomatch member), List.append_nil _, trivial, rfl⟩
  | succ count inductionHypothesis =>
    have enough : left.length + (limit + 1) ≤ (shortLines (count + 1) ++ rest).length := by
      rw [List.length_append, length_shortLines, ← size, Nat.add_mul]
      omega
    obtain ⟨segment, longer, sized, nonempty, behind, longerSize, found, judged, heard⟩ :=
      hear_shortLine positive streak begun front enough
    have remaining : longer.length + count * (limit + 1) = 2 * count + rest.length := by
      rw [Nat.add_mul] at size
      omega
    obtain ⟨segments, bounded, whole, calm, heardAll⟩ :=
      inductionHypothesis (streak + 1) nonempty behind remaining
    refine ⟨segment :: segments, ?_, ?_, ⟨?_, ?_⟩, ?_⟩
    · exact List.forall_mem_cons.mpr ⟨Nat.le_of_eq sized, bounded⟩
    · rw [List.flatten_cons, ← List.append_assoc, found, List.append_assoc, whole,
        shortLines_succ, List.append_assoc]
    · intro error refused
      rw [judged] at refused
      cases refused
    · rw [heard]
      exact calm
    · rw [hearAll, List.foldl_cons, heard, ← hearAll, heardAll]
      congr 1
      omega

/-- Short lines with anything behind them can be read from the start so that the rest, of the
greatest length that so many lines allow, is in hand at the end. -/
theorem exists_crowd_from_start (positive : 0 < limit) (count : Nat) (rest : List UInt8)
    (size : rest.length = 1 + (count + 1) * (limit - 1)) :
    ∃ segments, (∀ segment ∈ segments, segment.length ≤ limit + 1) ∧
      segments.flatten = shortLines (count + 1) ++ rest ∧ Calm limit start segments ∧
      hearAll limit start segments = ⟨rest, count + 1⟩ := by
  have waits : judge limit [0x78] = .waits := judge_eq_waits_iff.mpr ⟨rfl, positive⟩
  have begins : hear limit start [0x78] = ⟨[0x78], 0⟩ := hear_of_waits waits
  have front : [0x78] <+: shortLines (count + 1) ++ rest := by
    rw [shortLines_succ]
    exact ⟨_, rfl⟩
  have lengths : [(0x78 : UInt8)].length + (count + 1) * (limit + 1) =
      2 * (count + 1) + rest.length := by
    have wider : limit + 1 = limit - 1 + 2 := by omega
    rw [size, List.length_singleton, wider, Nat.mul_add]
    omega
  obtain ⟨segments, bounded, whole, calm, heard⟩ :=
    exists_crowd positive (count + 1) 0 (List.cons_ne_nil _ _) front lengths
  refine ⟨[0x78] :: segments, ?_, ?_, ⟨?_, ?_⟩, ?_⟩
  · exact List.forall_mem_cons.mpr ⟨Nat.succ_le_succ (Nat.zero_le _), bounded⟩
  · exact whole
  · intro error refused
    cases waits.symm.trans refused
  · rw [begins]
    exact calm
  · rw [hearAll, List.foldl_cons, begins, ← hearAll, heard, Nat.zero_add]

end Intake

end KeyValueServer
