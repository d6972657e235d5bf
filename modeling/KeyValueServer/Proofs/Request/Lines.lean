import Mathlib.Data.List.Basic
import KeyValueServer.Request.Decode

/-!
# Where a length line ends

A length line ends at the first CR LF of everything that lies ahead. Its end is therefore decided
as soon as both bytes are there: bytes behind them do not matter. While they are not there, more
bytes can end the line behind what has arrived, or at a CR that came last.
-/

namespace KeyValueServer.Request

/-- The number of bytes passed before only shifts the answer. -/
theorem lineLength?_shift (passed : Nat) (bytes : List UInt8) :
    lineLength? passed bytes = (lineLength? 0 bytes).map (passed + ·) := by
  induction bytes generalizing passed with
  | nil => rfl
  | cons first rest inductionHypothesis =>
    cases rest with
    | nil => rfl
    | cons second rest =>
      simp only [lineLength?]
      by_cases ended : first = 0x0d ∧ second = 0x0a
      · simp [ended]
      · simp only [ended, ↓reduceIte]
        rw [inductionHypothesis (passed + 1), inductionHypothesis (0 + 1)]
        cases lineLength? 0 (second :: rest) with
        | none => rfl
        | some length => simp only [Option.map_some, Nat.zero_add, Nat.add_assoc]

/-- The search for the end of a line, byte by byte. -/
theorem lineLength?_cons (first : UInt8) (rest : List UInt8) :
    lineLength? 0 (first :: rest) =
      if first = 0x0d ∧ rest.head? = some 0x0a then some 0
      else (lineLength? 0 rest).map (1 + ·) := by
  cases rest with
  | nil => simp [lineLength?]
  | cons second rest =>
    simp only [lineLength?, List.head?_cons, Option.some.injEq]
    rw [lineLength?_shift (0 + 1)]

/-- A line that has ended is followed by CR LF. -/
theorem ended_of_lineLength? (bytes : List UInt8) (length : Nat)
    (found : lineLength? 0 bytes = some length) :
    ∃ rest, bytes = bytes.take length ++ 0x0d :: 0x0a :: rest := by
  induction bytes generalizing length with
  | nil => simp [lineLength?] at found
  | cons first rest inductionHypothesis =>
    rw [lineLength?_cons] at found
    by_cases ended : first = 0x0d ∧ rest.head? = some 0x0a
    · obtain ⟨rfl, second⟩ := ended
      obtain ⟨tail, rfl⟩ := List.head?_eq_some_iff.mp second
      have zero : 0 = length := by simpa using found
      subst zero
      exact ⟨tail, rfl⟩
    · rw [if_neg ended] at found
      obtain ⟨shorter, inner, rfl⟩ := Option.map_eq_some_iff.mp found
      obtain ⟨tail, split⟩ := inductionHypothesis shorter inner
      refine ⟨tail, ?_⟩
      rw [Nat.add_comm, List.take_succ_cons, List.cons_append, ← split]

/-- The end of a line lies within the bytes. -/
theorem lineLength?_bound (bytes : List UInt8) (length : Nat)
    (found : lineLength? 0 bytes = some length) : length + 2 ≤ bytes.length := by
  obtain ⟨rest, split⟩ := ended_of_lineLength? bytes length found
  have lengths := congrArg List.length split
  simp only [List.length_append, List.length_take, List.length_cons] at lengths
  omega

/-- Bytes behind the end of a line do not move it. -/
theorem lineLength?_append (bytes more : List UInt8) (length : Nat)
    (found : lineLength? 0 bytes = some length) : lineLength? 0 (bytes ++ more) = some length := by
  induction bytes generalizing length with
  | nil => simp [lineLength?] at found
  | cons first rest inductionHypothesis =>
    rw [lineLength?_cons] at found
    rw [List.cons_append, lineLength?_cons]
    by_cases ended : first = 0x0d ∧ rest.head? = some 0x0a
    · rw [if_pos ended] at found
      have stillEnded : first = 0x0d ∧ (rest ++ more).head? = some 0x0a := by
        simp [ended.1, List.head?_append, ended.2]
      rw [if_pos stillEnded, found]
    · rw [if_neg ended] at found
      obtain ⟨shorter, inner, rfl⟩ := Option.map_eq_some_iff.mp found
      have started : rest ≠ [] := by
        rintro rfl
        simp [lineLength?] at inner
      have stillOpen : ¬ (first = 0x0d ∧ (rest ++ more).head? = some 0x0a) := by
        rwa [List.head?_append_of_ne_nil _ started]
      rw [if_neg stillOpen, inductionHypothesis shorter inner]
      rfl

/-- A line end that lies among the first bytes is found in them alone. -/
theorem lineLength?_front (bytes more : List UInt8) (length : Nat)
    (found : lineLength? 0 (bytes ++ more) = some length) (inside : length + 2 ≤ bytes.length) :
    lineLength? 0 bytes = some length := by
  induction bytes generalizing length with
  | nil => simp at inside
  | cons first rest inductionHypothesis =>
    have started : rest ≠ [] := by
      rintro rfl
      simp at inside
    rw [List.cons_append, lineLength?_cons, List.head?_append_of_ne_nil _ started] at found
    rw [lineLength?_cons]
    by_cases ended : first = 0x0d ∧ rest.head? = some 0x0a
    · rw [if_pos ended] at found ⊢
      exact found
    · rw [if_neg ended] at found ⊢
      obtain ⟨shorter, inner, rfl⟩ := Option.map_eq_some_iff.mp found
      rw [inductionHypothesis shorter inner (by simp only [List.length_cons] at inside; omega)]
      rfl

/-- Bytes that do not hold a line end, also not together with a CR LF behind them, are the line
that this CR LF ends. -/
theorem lineLength?_line (line rest : List UInt8)
    (unended : lineLength? 0 (line ++ [0x0d]) = none) :
    lineLength? 0 (line ++ 0x0d :: 0x0a :: rest) = some line.length := by
  induction line with
  | nil => simp [lineLength?_cons]
  | cons first line inductionHypothesis =>
    rw [List.cons_append, lineLength?_cons] at unended ⊢
    by_cases ended : first = 0x0d ∧ (line ++ [0x0d]).head? = some 0x0a
    · simp [ended] at unended
    · rw [if_neg ended, Option.map_eq_none_iff] at unended
      have stillOpen : ¬ (first = 0x0d ∧ (line ++ 0x0d :: 0x0a :: rest).head? = some 0x0a) := by
        cases line with
        | nil => simp
        | cons second line => simpa using ended
      rw [if_neg stillOpen, inductionHypothesis unended, List.length_cons]
      simp [Nat.add_comm]

/-- A line without CR is not ended by a CR alone. -/
theorem unended_of_no_return (line : List UInt8) (none_inside : 0x0d ∉ line) :
    lineLength? 0 (line ++ [0x0d]) = none := by
  induction line with
  | nil => rfl
  | cons first line inductionHypothesis =>
    obtain ⟨apart, absent⟩ := not_or.mp (mt List.mem_cons.mpr none_inside)
    have open_ : ¬ (first = 0x0d ∧ (line ++ [0x0d]).head? = some 0x0a) :=
      fun ended => apart ended.1.symm
    rw [List.cons_append, lineLength?_cons, if_neg open_, inductionHypothesis absent]
    rfl

/-- A front of bytes without a line end has none either. -/
theorem unended_front (bytes more : List UInt8) (unended : lineLength? 0 (bytes ++ more) = none) :
    lineLength? 0 bytes = none := by
  cases found : lineLength? 0 bytes with
  | none => rfl
  | some length =>
    rw [lineLength?_append bytes more length found] at unended
    cases unended

/-- A CR alone does not end a line: bytes without a line end have none with a CR behind them. -/
theorem unended_return (bytes : List UInt8) (unended : lineLength? 0 bytes = none) :
    lineLength? 0 (bytes ++ [0x0d]) = none := by
  cases found : lineLength? 0 (bytes ++ [0x0d]) with
  | none => rfl
  | some length =>
    have bound := lineLength?_bound _ length found
    obtain ⟨tail, split⟩ := ended_of_lineLength? _ length found
    simp only [List.length_append, List.length_singleton] at bound
    by_cases inside : length + 2 ≤ bytes.length
    · rw [lineLength?_front bytes [0x0d] length found inside] at unended
      cases unended
    · -- The last byte would have to be both the CR that was added and the LF of the line end.
      have whole := congrArg List.getLast? split
      have lengths := congrArg List.length split
      simp only [List.length_append, List.length_take, List.length_cons,
        List.length_nil] at lengths
      have ended : tail = [] := List.eq_nil_of_length_eq_zero (by omega)
      subst ended
      simp at whole

/-- A line ends in a CR, which it can do without, or is as it is without one. -/
theorem Cursor.withoutReturn_cases (line : List UInt8) :
    (∃ front, line = front ++ [0x0d] ∧ withoutReturn line = front) ∨
      (line.getLast? ≠ some 0x0d ∧ withoutReturn line = line) := by
  by_cases returned : line.getLast? = some 0x0d
  · obtain ⟨front, rfl⟩ := List.getLast?_eq_some_iff.mp returned
    refine .inl ⟨front, rfl, ?_⟩
    rw [withoutReturn, if_pos returned, List.dropLast_concat]
  · exact .inr ⟨returned, if_neg returned⟩

end KeyValueServer.Request
