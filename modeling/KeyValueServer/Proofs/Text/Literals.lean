import Mathlib.Data.Nat.Digits.Defs
import KeyValueServer.Text.Decimal

/-!
# Reading and writing decimal literals

The reader for literals gives back every number that was written, if it lies in the range. A
written number is short and holds neither a sign nor a line end, so it can stand in a length line.

The reader goes from left to right and never lowers the magnitude it has found. A literal that has
not ended therefore bounds every literal that it can still become: this is what decides whether a
length line without an end can be the beginning of an acceptable one.
-/

namespace KeyValueServer.Decimal

/-- The byte of a decimal digit is read as that digit. -/
theorem digit?_digitChar (digit : Nat) (small : digit < 10) :
    digit? (Nat.digitChar digit).toNat.toUInt8 = some digit := by
  have every : ∀ digit < 10, digit? (Nat.digitChar digit).toNat.toUInt8 = some digit := by decide
  exact every digit small

/-- Reading goes on behind the digits that were read, with the magnitude that they gave. -/
theorem readDigits_append (limit : Nat) (beyond : Fault) (value : Nat) (left right : List UInt8) :
    readDigits limit beyond value (left ++ right) =
      (readDigits limit beyond value left).bind fun found =>
        readDigits limit beyond found right := by
  induction left generalizing value with
  | nil => rfl
  | cons byte left inductionHypothesis =>
    simp only [List.cons_append, readDigits]
    cases digit? byte with
    | none => rfl
    | some digit =>
      by_cases inside : value * 10 + digit ≤ limit
      · simp only [inside, ↓reduceIte, inductionHypothesis]
      · simp only [inside, ↓reduceIte]
        rfl

/-- A magnitude does not shrink while digits are added to it. -/
theorem le_of_readDigits (limit : Nat) (beyond : Fault) (value found : Nat) (bytes : List UInt8)
    (result : readDigits limit beyond value bytes = .ok found) : value ≤ found := by
  induction bytes generalizing value with
  | nil =>
    have same : value = found := by simpa only [readDigits, Except.ok.injEq] using result
    exact Nat.le_of_eq same
  | cons byte bytes inductionHypothesis =>
    simp only [readDigits] at result
    cases shown : digit? byte with
    | none => simp [shown] at result
    | some digit =>
      simp only [shown] at result
      by_cases inside : value * 10 + digit ≤ limit
      · rw [if_pos inside] at result
        have grown := inductionHypothesis (value * 10 + digit) result
        omega
      · simp [inside] at result

/-- A number within the limit is read back from its digits. -/
theorem readDigits_digits (limit : Nat) (beyond : Fault) (number : Nat) (inside : number ≤ limit) :
    readDigits limit beyond 0 (digits number) = .ok number := by
  induction number using Nat.strongRecOn with
  | ind number inductionHypothesis =>
    unfold digits at inductionHypothesis ⊢
    rw [Nat.toDigits_eq_if (by decide)]
    by_cases small : number < 10
    · have shown := digit?_digitChar number small
      simp [small, readDigits, shown, inside]
    · have front := inductionHypothesis (number / 10) (by omega) (by omega)
      have shown := digit?_digitChar (number % 10) (by omega)
      have whole : number / 10 * 10 + number % 10 = number := by omega
      rw [if_neg small, List.map_append, readDigits_append, front]
      simp [Except.bind, readDigits, shown, whole, inside]

/-- The digits of a number are the bytes of decimal digits. -/
theorem mem_digits (number : Nat) (byte : UInt8) (member : byte ∈ digits number) :
    ∃ digit < 10, byte = (Nat.digitChar digit).toNat.toUInt8 := by
  induction number using Nat.strongRecOn with
  | ind number inductionHypothesis =>
    unfold digits at inductionHypothesis member
    rw [Nat.toDigits_eq_if (by decide)] at member
    by_cases small : number < 10
    · rw [if_pos small] at member
      exact ⟨number, small, by simpa using member⟩
    · rw [if_neg small, List.map_append, List.mem_append] at member
      rcases member with front | last
      · exact inductionHypothesis (number / 10) (by omega) front
      · exact ⟨number % 10, by omega, by simpa using last⟩

/-- A written number holds no byte but digits: none of its bytes is a sign or a line end. -/
theorem digits_within (number : Nat) (byte : UInt8) (member : byte ∈ digits number) :
    0x30 ≤ byte ∧ byte ≤ 0x39 := by
  obtain ⟨digit, small, rfl⟩ := mem_digits number byte member
  have every : ∀ digit < 10, 0x30 ≤ (Nat.digitChar digit).toNat.toUInt8 ∧
      (Nat.digitChar digit).toNat.toUInt8 ≤ 0x39 := by decide
  exact every digit small

/-- Digits do not end a line. -/
theorem no_return_of_digits (number : Nat) : 0x0d ∉ digits number :=
  fun member => absurd (digits_within number _ member).1 (by decide)

/-- A written integer does not end a line. -/
theorem no_return_of_write (number : Int) : 0x0d ∉ write number := by
  rw [write]
  split
  · exact List.not_mem_cons_of_ne_of_not_mem (by decide) (no_return_of_digits _)
  · exact no_return_of_digits _

/-- Digits are not a negative integer. -/
theorem digits_ne_write (number : Nat) (other : Int) (negative : other < 0) :
    digits number ≠ write other := by
  intro same
  have sign : 0x2d ∈ digits number := by
    rw [same, write, if_pos negative]
    exact List.mem_cons_self
  exact absurd (digits_within number _ sign).1 (by decide)

/-- A number has at least one digit. -/
theorem digits_ne_nil (number : Nat) : digits number ≠ [] := by
  simp [digits, Nat.toDigits_ne_nil]

/-- A number below a power of ten has at most that many digits. -/
theorem length_digits_le (number places : Nat) (positive : 0 < places)
    (bound : number < 10 ^ places) : (digits number).length ≤ places := by
  rw [digits, List.length_map]
  exact Nat.toDigits_length 10 number places positive bound

/-- The reader for literals, by the first byte: a sign, or the first digit. -/
theorem read_cons (range : Range) (byte : UInt8) (rest : List UInt8) :
    read range (byte :: rest) =
      if byte = 0x2b then (readMagnitude range.above .tooLarge rest).map Int.ofNat
      else if byte = 0x2d then
        match range.below with
        | none => .error .unfitCharacter
        | some limit =>
          (readMagnitude limit .tooSmall rest).map fun (magnitude : Nat) => -(magnitude : Int)
      else (readMagnitude range.above .tooLarge (byte :: rest)).map Int.ofNat := by
  by_cases plus : byte = 0x2b
  · subst plus
    rfl
  · by_cases minus : byte = 0x2d
    · subst minus
      simp only [read, if_neg plus, ↓reduceIte]
      cases range.below with
      | none => rfl
      | some limit =>
        dsimp only
        cases readMagnitude limit .tooSmall rest <;> rfl
    · rw [if_neg plus, if_neg minus]
      unfold read
      split
      · contradiction
      · exact absurd (List.cons.inj ‹_›).1 plus
      · exact absurd (List.cons.inj ‹_›).1 minus
      · simp_all

/-- A natural number in the range is read back from its digits. -/
theorem read_digits (range : Range) (number : Nat) (inside : number ≤ range.above) :
    read range (digits number) = .ok (number : Int) := by
  cases shape : digits number with
  | nil => exact absurd shape (digits_ne_nil number)
  | cons byte rest =>
    have member : byte ∈ digits number := by rw [shape]; exact List.mem_cons_self
    have within := digits_within number byte member
    have notPlus : byte ≠ 0x2b := by
      rintro rfl
      exact absurd within.1 (by decide)
    have notMinus : byte ≠ 0x2d := by
      rintro rfl
      exact absurd within.1 (by decide)
    have magnitude : readDigits range.above .tooLarge 0 (byte :: rest) = .ok number := by
      rw [← shape]
      exact readDigits_digits range.above .tooLarge number inside
    rw [read_cons, if_neg notPlus, if_neg notMinus]
    simp only [readMagnitude, magnitude]
    rfl

/-- A mapped answer that is a success comes from a success. -/
theorem exists_of_map_eq_ok {Cause First Second : Type} {answer : Except Cause First}
    {change : First → Second} {value : Second} (mapped : answer.map change = .ok value) :
    ∃ first, answer = .ok first ∧ change first = value := by
  cases answer with
  | error cause => simp [Except.map] at mapped
  | ok first => exact ⟨first, rfl, by simpa [Except.map] using mapped⟩

/-- The magnitude that a longer text gives is at least the one that its front gives alone. -/
theorem readMagnitude_front (limit : Nat) (beyond : Fault) (value : Nat) (left right : List UInt8)
    (started : left ≠ []) (result : readMagnitude limit beyond (left ++ right) = .ok value) :
    ∃ found, readMagnitude limit beyond left = .ok found ∧ found ≤ value := by
  obtain ⟨byte, rest, rfl⟩ := List.exists_cons_of_ne_nil started
  have whole : readDigits limit beyond 0 ((byte :: rest) ++ right) = .ok value := result
  rw [readDigits_append] at whole
  cases front : readDigits limit beyond 0 (byte :: rest) with
  | error fault =>
    rw [front] at whole
    simp [Except.bind] at whole
  | ok found =>
    rw [front] at whole
    exact ⟨found, front, le_of_readDigits limit beyond found value right whole⟩

/-- Where a text is a literal, so is each of its fronts that has a byte behind the sign, and the
value of the front lies between zero and the value of the whole. -/
theorem read_front (range : Range) (value : Int) (left right : List UInt8)
    (long : 2 ≤ left.length) (result : read range (left ++ right) = .ok value) :
    ∃ found, read range left = .ok found ∧
      (0 ≤ found ∧ found ≤ value ∨ value ≤ found ∧ found ≤ 0) := by
  have present : 0 < left.length := Nat.lt_of_lt_of_le Nat.two_pos long
  obtain ⟨byte, rest, rfl⟩ := List.exists_cons_of_ne_nil (List.ne_nil_of_length_pos present)
  have started : rest ≠ [] := List.ne_nil_of_length_pos (Nat.le_of_succ_le_succ long)
  rw [List.cons_append, read_cons] at result
  rw [read_cons]
  by_cases plus : byte = 0x2b
  · rw [if_pos plus] at result ⊢
    obtain ⟨whole, read, rfl⟩ := exists_of_map_eq_ok result
    obtain ⟨found, front, below⟩ := readMagnitude_front _ _ whole rest right started read
    exact ⟨found, by rw [front]; rfl, by simp only [Int.ofNat_eq_natCast]; omega⟩
  · rw [if_neg plus] at result ⊢
    by_cases minus : byte = 0x2d
    · rw [if_pos minus] at result ⊢
      cases allowed : range.below with
      | none => simp [allowed] at result
      | some limit =>
        rw [allowed] at result
        obtain ⟨whole, read, rfl⟩ := exists_of_map_eq_ok result
        obtain ⟨found, front, below⟩ := readMagnitude_front _ _ whole rest right started read
        exact ⟨-(found : Int), by simp only [front]; rfl, by omega⟩
    · rw [if_neg minus] at result ⊢
      obtain ⟨whole, read, rfl⟩ := exists_of_map_eq_ok result
      obtain ⟨found, front, below⟩ :=
        readMagnitude_front _ _ whole (byte :: rest) right (by simp) read
      exact ⟨found, by rw [front]; rfl, by simp only [Int.ofNat_eq_natCast]; omega⟩

end KeyValueServer.Decimal
