import KeyValueServer.Proofs.Text.Literals

/-!
# Which texts are literals

A literal is an optional sign and at least one decimal digit, with a value in the range of its
type. The reader gives up at the first digit that leads out of the range. Magnitudes do not shrink,
so no digit behind it could lead back: the reader accepts exactly the literals. That is
`read_eq_ok_iff`; the value of the digits is defined here without the reader.
-/

namespace KeyValueServer.Decimal

/-- The number that decimal digits make of the number written in front of them. -/
def numeralFrom (number : Nat) (digits : List UInt8) : Nat :=
  digits.foldl (fun number digit => number * 10 + (digit.toNat - 0x30)) number

/-- The number that decimal digits write. -/
def numeral (digits : List UInt8) : Nat := numeralFrom 0 digits

/-- Whether a byte is a decimal digit. -/
def IsDigit (byte : UInt8) : Prop := 0x30 ≤ byte ∧ byte ≤ 0x39

/-- Whether bytes are decimal digits, at least one. -/
def IsNumeral (digits : List UInt8) : Prop := digits ≠ [] ∧ ∀ digit ∈ digits, IsDigit digit

/-- The literals of a type with their values. -/
inductive IsLiteral (range : Range) : List UInt8 → Int → Prop
  /-- Digits without a sign. -/
  | unsigned (digits : List UInt8) (shape : IsNumeral digits)
      (within : numeral digits ≤ range.above) : IsLiteral range digits (numeral digits)
  /-- Digits behind a plus sign. -/
  | plus (digits : List UInt8) (shape : IsNumeral digits)
      (within : numeral digits ≤ range.above) : IsLiteral range (0x2b :: digits) (numeral digits)
  /-- Digits behind a minus sign. -/
  | minus (digits : List UInt8) (lowest : Nat) (shape : IsNumeral digits)
      (signed : range.below = some lowest) (within : numeral digits ≤ lowest) :
      IsLiteral range (0x2d :: digits) (-(numeral digits : Int))

/-- The value of a digit is asked of the digits alone. -/
theorem digit?_eq_some_iff (byte : UInt8) (digit : Nat) :
    digit? byte = some digit ↔ IsDigit byte ∧ digit = byte.toNat - 0x30 := by
  unfold digit? IsDigit
  split
  · next isDigit => simp [isDigit, eq_comm]
  · next isNone => simp [isNone]

/-- Digits do not make a number smaller. -/
theorem le_numeralFrom (number : Nat) (digits : List UInt8) :
    number ≤ numeralFrom number digits := by
  induction digits generalizing number with
  | nil => exact Nat.le_refl number
  | cons digit digits inductionHypothesis =>
    have grown := inductionHypothesis (number * 10 + (digit.toNat - 0x30))
    rw [numeralFrom, List.foldl_cons]
    exact Nat.le_trans (by omega) grown

/-- Behind a number within the limit exactly the digits are read that keep it there. -/
theorem readDigits_eq_ok_iff (limit : Nat) (beyond : Fault) (number found : Nat)
    (digits : List UInt8) (inside : number ≤ limit) :
    readDigits limit beyond number digits = .ok found ↔
      (∀ digit ∈ digits, IsDigit digit) ∧ found = numeralFrom number digits ∧ found ≤ limit := by
  induction digits generalizing number with
  | nil =>
    simp only [readDigits, Except.ok.injEq, List.not_mem_nil, false_implies, implies_true,
      true_and, numeralFrom, List.foldl_nil]
    constructor
    · rintro rfl
      exact ⟨rfl, inside⟩
    · exact fun same => same.1.symm
  | cons byte digits inductionHypothesis =>
    rw [List.forall_mem_cons, numeralFrom, List.foldl_cons, ← numeralFrom]
    simp only [readDigits]
    cases shown : digit? byte with
    | none =>
      have noDigit : ¬ IsDigit byte := by
        intro isDigit
        have value := (digit?_eq_some_iff byte _).mpr ⟨isDigit, rfl⟩
        rw [shown] at value
        cases value
      simp [noDigit]
    | some digit =>
      obtain ⟨isDigit, rfl⟩ := (digit?_eq_some_iff byte digit).mp shown
      by_cases stays : number * 10 + (byte.toNat - 0x30) ≤ limit
      · simp only [stays, ↓reduceIte, isDigit, true_and]
        exact inductionHypothesis _ stays
      · simp only [stays, ↓reduceIte, reduceCtorEq, false_iff]
        rintro ⟨_, rfl, bounded⟩
        exact stays (Nat.le_trans (le_numeralFrom _ digits) bounded)

/-- A magnitude is read from digits whose number is within the limit. -/
theorem readMagnitude_eq_ok_iff (limit : Nat) (beyond : Fault) (digits : List UInt8)
    (found : Nat) :
    readMagnitude limit beyond digits = .ok found ↔
      IsNumeral digits ∧ found = numeral digits ∧ found ≤ limit := by
  cases digits with
  | nil => simp [readMagnitude, IsNumeral]
  | cons byte rest =>
    have read := readDigits_eq_ok_iff limit beyond 0 found (byte :: rest) (Nat.zero_le limit)
    rw [IsNumeral, and_assoc]
    exact read.trans ⟨fun parts => ⟨List.cons_ne_nil _ _, parts⟩, fun parts => parts.2⟩

/-- A digit is no sign. -/
theorem IsDigit.ne_sign {byte : UInt8} (isDigit : IsDigit byte) :
    byte ≠ 0x2b ∧ byte ≠ 0x2d := by
  constructor
  · rintro rfl
    exact absurd isDigit.1 (by decide)
  · rintro rfl
    exact absurd isDigit.1 (by decide)

/-- The reader accepts exactly the literals of its type, and gives their values. -/
theorem read_eq_ok_iff (range : Range) (text : List UInt8) (value : Int) :
    read range text = .ok value ↔ IsLiteral range text value := by
  constructor
  · intro result
    cases text with
    | nil => cases result
    | cons byte rest =>
      rw [read_cons] at result
      by_cases plus : byte = 0x2b
      · subst plus
        rw [if_pos rfl] at result
        obtain ⟨number, magnitude, rfl⟩ := exists_of_map_eq_ok result
        obtain ⟨shape, rfl, within⟩ := (readMagnitude_eq_ok_iff _ _ rest number).mp magnitude
        exact .plus rest shape within
      rw [if_neg plus] at result
      by_cases minus : byte = 0x2d
      · subst minus
        rw [if_pos rfl] at result
        cases signed : range.below with
        | none => simp [signed] at result
        | some lowest =>
          rw [signed] at result
          obtain ⟨number, magnitude, rfl⟩ := exists_of_map_eq_ok result
          obtain ⟨shape, rfl, within⟩ := (readMagnitude_eq_ok_iff _ _ rest number).mp magnitude
          exact .minus rest lowest shape signed within
      · rw [if_neg minus] at result
        obtain ⟨number, magnitude, rfl⟩ := exists_of_map_eq_ok result
        obtain ⟨shape, rfl, within⟩ :=
          (readMagnitude_eq_ok_iff _ _ (byte :: rest) number).mp magnitude
        exact .unsigned (byte :: rest) shape within
  · intro literal
    have magnitude (limit : Nat) (beyond : Fault) {digits : List UInt8} (shape : IsNumeral digits)
        (within : numeral digits ≤ limit) :
        readMagnitude limit beyond digits = .ok (numeral digits) :=
      (readMagnitude_eq_ok_iff limit beyond digits _).mpr ⟨shape, rfl, within⟩
    cases literal with
    | unsigned digits shape within =>
      obtain ⟨byte, rest, rfl⟩ := List.exists_cons_of_ne_nil shape.1
      obtain ⟨notPlus, notMinus⟩ := (shape.2 byte List.mem_cons_self).ne_sign
      rw [read_cons, if_neg notPlus, if_neg notMinus, magnitude _ _ shape within]
      rfl
    | plus digits shape within =>
      rw [read_cons, if_pos rfl, magnitude _ _ shape within]
      rfl
    | minus digits lowest shape signed within =>
      rw [read_cons, if_neg (by decide), if_pos rfl, signed]
      dsimp only
      rw [magnitude _ _ shape within]
      rfl

/-- The digits of a number are a numeral, and it is the numeral of this number. -/
theorem isNumeral_digits (number : Nat) :
    IsNumeral (digits number) ∧ numeral (digits number) = number := by
  have back := readDigits_digits number .tooLarge number (Nat.le_refl number)
  obtain ⟨shape, value, _⟩ := (readDigits_eq_ok_iff _ _ 0 _ _ (Nat.zero_le number)).mp back
  exact ⟨⟨digits_ne_nil number, shape⟩, value.symm⟩

/-- An integer in a range with negative numbers is read back from its written form. -/
theorem read_write (range : Range) (lowest : Nat) (signed : range.below = some lowest)
    (number : Int) (notBelow : -(lowest : Int) ≤ number) (notAbove : number ≤ range.above) :
    read range (write number) = .ok number := by
  rw [read_eq_ok_iff, write]
  obtain ⟨shape, value⟩ := isNumeral_digits number.natAbs
  by_cases negative : number < 0
  · rw [if_pos negative]
    have literal := IsLiteral.minus _ lowest shape signed (by omega)
    rwa [value, ← Int.eq_neg_natAbs_of_nonpos (Int.le_of_lt negative)] at literal
  · rw [if_neg negative]
    have literal : IsLiteral range (digits number.natAbs) (numeral (digits number.natAbs)) :=
      .unsigned _ shape (by omega)
    rwa [value, Int.natAbs_of_nonneg (Int.not_lt.mp negative)] at literal

/-- A literal holds no line end. -/
theorem IsLiteral.no_return {range : Range} {text : List UInt8} {value : Int}
    (literal : IsLiteral range text value) : 0x0d ∉ text := by
  have noneInside {digits : List UInt8} (shape : IsNumeral digits) : 0x0d ∉ digits :=
    fun member => absurd (shape.2 _ member).1 (by decide)
  have behind {sign : UInt8} {digits : List UInt8} (apart : 0x0d ≠ sign)
      (shape : IsNumeral digits) : 0x0d ∉ sign :: digits := by
    rw [List.mem_cons, not_or]
    exact ⟨apart, noneInside shape⟩
  cases literal with
  | unsigned _ shape _ => exact noneInside shape
  | plus _ shape _ => exact behind (by decide) shape
  | minus _ _ shape _ _ => exact behind (by decide) shape

end KeyValueServer.Decimal
