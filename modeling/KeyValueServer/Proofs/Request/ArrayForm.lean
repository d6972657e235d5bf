import KeyValueServer.Proofs.Request.Grammar
import KeyValueServer.Proofs.Text.LiteralForm

/-!
# The grammar of requests in array form

`ArrayForm` says which bytes are a request in array form, and which value they write. It speaks
about bytes and literals only: there is no position in it, no search for a line end and no order in
which anything is checked. A literal may have a plus sign and leading zeros, so a value has many
forms; and as elements are told apart by their lengths alone, a byte string may hold anything.

The decoder accepts exactly this grammar. It looks for the first line end of everything that lies
ahead; literals hold none, so it finds the one that belongs to the length line. Each level of the
grammar is met by one level of the decoder, in both directions at once. The main statement is
`arrays_accepted_iff`.
-/

namespace KeyValueServer.Request

/-- The forms of an element with at most `limit` bytes. -/
inductive ElementForm (limit : Nat) : Value → List UInt8 → Prop
  /-- A length of minus one stands for the absent value. -/
  | absent (line : List UInt8) (declared : Decimal.IsLiteral Decimal.int64 line (-1)) :
      ElementForm limit .null (Value.bulkMarker :: (line ++ Value.crlf))
  /-- A byte string stands behind its length. -/
  | bulk (line bytes : List UInt8)
      (declared : Decimal.IsLiteral Decimal.int64 line (bytes.length : Int))
      (short : bytes.length ≤ limit) :
      ElementForm limit (.bulk bytes)
        (Value.bulkMarker :: (line ++ Value.crlf ++ (bytes ++ Value.crlf)))

/-- The forms of elements that stand one behind the other. -/
inductive ElementsForm (limit : Nat) : List Value → List UInt8 → Prop
  | nil : ElementsForm limit [] []
  | cons (value : Value) (values : List Value) (written others : List UInt8)
      (first : ElementForm limit value written) (rest : ElementsForm limit values others) :
      ElementsForm limit (value :: values) (written ++ others)

/-- The forms of a request in array form whose elements have at most `limit` bytes. -/
inductive ArrayForm (limit : Nat) : Value → List UInt8 → Prop
  /-- A length of minus one stands for the absent value. -/
  | absent (line : List UInt8) (declared : Decimal.IsLiteral Decimal.int64 line (-1)) :
      ArrayForm limit .null (Value.arrayMarker :: (line ++ Value.crlf))
  /-- The elements stand behind their number. -/
  | array (line written : List UInt8) (values : List Value)
      (declared : Decimal.IsLiteral Decimal.int64 line (values.length : Int))
      (few : values.length ≤ maxElements) (elements : ElementsForm limit values written) :
      ArrayForm limit (.array values) (Value.arrayMarker :: (line ++ Value.crlf ++ written))

/-- A literal can stand in a length line. -/
theorem isLine_of_isLiteral {range : Decimal.Range} {line : List UInt8} {value : Int}
    (literal : Decimal.IsLiteral range line value) : IsLine line :=
  unended_of_no_return line literal.no_return

namespace Cursor

variable {limit position : Nat} {ahead : List UInt8} {value : Value} {next : Cursor}

/-- An element is read where one of its forms lies ahead, and reading ends behind it. -/
theorem element_eq_complete_iff :
    element limit ⟨position, ahead⟩ = .complete value next ↔
      ∃ written rest, ElementForm limit value written ∧ ahead = written ++ rest ∧
        next = ⟨position + written.length, rest⟩ := by
  constructor
  · intro read
    rcases element_cases limit ⟨position, ahead⟩ with
      ⟨line, rest, _, declared, split, reached⟩ |
      ⟨line, bytes, rest, _, declared, short, split, reached⟩ |
      ⟨error, _, reached⟩ | ⟨line, _, _, reached⟩ | reached
    · rw [reached] at read
      obtain ⟨rfl, rfl⟩ := Progress.complete.inj read
      refine ⟨_, rest, .absent line ((Decimal.read_eq_ok_iff _ _ _).mp declared), ?_, ?_⟩
      · rw [show ahead = _ from split]
        simp [Value.crlf]
      · simp [Value.crlf]
        omega
    · rw [reached] at read
      obtain ⟨rfl, rfl⟩ := Progress.complete.inj read
      refine ⟨_, rest, .bulk line bytes ((Decimal.read_eq_ok_iff _ _ _).mp declared) short,
        ?_, ?_⟩
      · rw [show ahead = _ from split]
        simp [Value.crlf]
      · simp [Value.crlf]
        omega
    · rw [reached] at read
      cases read
    · rw [reached] at read
      split at read <;> cases read
    · rw [reached] at read
      cases read
  · rintro ⟨written, rest, form, rfl, rfl⟩
    cases form with
    | absent line declared =>
      have read := (Decimal.read_eq_ok_iff _ _ _).mpr declared
      have split : Value.bulkMarker :: (line ++ Value.crlf) ++ rest =
          Value.bulkMarker :: (line ++ 0x0d :: 0x0a :: rest) := by simp [Value.crlf]
      rw [split, element_absent limit position line rest (isLine_of_isLiteral declared) read]
      congr 2
      simp [Value.crlf]
      omega
    | bulk line bytes declared short =>
      have read := (Decimal.read_eq_ok_iff _ _ _).mpr declared
      have split : Value.bulkMarker :: (line ++ Value.crlf ++ (bytes ++ Value.crlf)) ++ rest =
          Value.bulkMarker :: (line ++ 0x0d :: 0x0a :: (bytes ++ 0x0d :: 0x0a :: rest)) := by
        simp [Value.crlf]
      rw [split,
        element_bulk limit position line bytes rest (isLine_of_isLiteral declared) read short]
      congr 2
      simp [Value.crlf]
      omega

/-- Elements are read where forms of them lie ahead, as many as are asked for. -/
theorem elements_eq_complete_iff (found : List Value) (remaining : Nat) :
    elements limit found remaining ⟨position, ahead⟩ = .complete value next ↔
      ∃ values written rest, ElementsForm limit values written ∧ values.length = remaining ∧
        value = .array (found.reverse ++ values) ∧ ahead = written ++ rest ∧
        next = ⟨position + written.length, rest⟩ := by
  induction remaining generalizing found position ahead with
  | zero =>
    simp only [elements, Progress.complete.injEq]
    constructor
    · rintro ⟨rfl, rfl⟩
      exact ⟨[], [], ahead, .nil, rfl, by rw [List.append_nil], rfl, rfl⟩
    · rintro ⟨values, written, rest, form, none_, rfl, rfl, rfl⟩
      obtain rfl := List.length_eq_zero_iff.mp none_
      cases form
      exact ⟨by rw [List.append_nil], rfl⟩
  | succ remaining inductionHypothesis =>
    rw [elements_succ]
    constructor
    · intro read
      obtain ⟨element, middle, first, following⟩ := Progress.exists_of_andThen read
      obtain ⟨written, behind, form, rfl, rfl⟩ := element_eq_complete_iff.mp first
      obtain ⟨values, others, rest, forms, rfl, rfl, rfl, rfl⟩ :=
        (inductionHypothesis (element :: found)).mp following
      refine ⟨element :: values, written ++ others, rest, .cons _ _ _ _ form forms, rfl, ?_, ?_,
        ?_⟩
      · rw [List.reverse_cons, List.append_assoc, List.singleton_append]
      · rw [List.append_assoc]
      · rw [List.length_append, Nat.add_assoc]
    · rintro ⟨values, written, rest, forms, count, rfl, rfl, rfl⟩
      cases forms with
      | nil => cases count
      | cons first values written others form forms =>
        have read : element limit ⟨position, written ++ others ++ rest⟩ =
            .complete first ⟨position + written.length, others ++ rest⟩ :=
          element_eq_complete_iff.mpr ⟨written, others ++ rest, form, List.append_assoc _ _ _, rfl⟩
        rw [read]
        refine (inductionHypothesis (first :: found)).mpr ⟨values, others, rest, forms,
          Nat.succ.inj count, ?_, rfl, ?_⟩
        · rw [List.reverse_cons, List.append_assoc, List.singleton_append]
        · rw [List.length_append, Nat.add_assoc]

end Cursor

/-- A buffer that begins with the marker of arrays holds a complete request exactly when one of
the forms of its value lies in front, and the decoder takes this form and nothing else. -/
theorem decode_eq_complete_iff (limit : Nat) (tail : List UInt8) (value : Value) (next : Cursor) :
    decode limit (Value.arrayMarker :: tail) = .complete value next ↔
      ∃ written rest, ArrayForm limit value written ∧ Value.arrayMarker :: tail = written ++ rest ∧
        next = ⟨written.length, rest⟩ := by
  rw [decode_array]
  constructor
  · intro read
    rcases Cursor.length_cases ⟨1, tail⟩ with
      ⟨line, behind, declared, _, split, literal, reached⟩ | ⟨text, reached⟩ | ⟨_, reached⟩
    · have literal := (Decimal.read_eq_ok_iff _ _ _).mp literal
      dsimp only at split
      subst split
      rw [reached] at read
      simp only [Progress.andThen, counted] at read
      by_cases absent : declared = -1
      · subst absent
        obtain ⟨rfl, rfl⟩ := Progress.complete.inj read
        refine ⟨_, behind, .absent line literal, by simp [Value.crlf], ?_⟩
        simp [Value.crlf]
        omega
      rw [if_neg absent] at read
      by_cases outside : declared < 0 ∨ declared > maxElements
      · rw [if_pos outside] at read
        cases read
      rw [if_neg outside] at read
      obtain ⟨values, written, rest, forms, count, rfl, rfl, rfl⟩ :=
        (Cursor.elements_eq_complete_iff [] declared.toNat).mp read
      have natural : declared = (values.length : Int) := by omega
      rw [natural] at literal
      refine ⟨_, rest, .array line written values literal (by omega) forms, ?_, ?_⟩
      · simp [Value.crlf]
      · simp [Value.crlf]
        omega
    · rw [reached] at read
      cases read
    · rw [reached] at read
      split at read <;> cases read
  · rintro ⟨written, rest, form, split, rfl⟩
    cases form with
    | absent line declared =>
      have literal := (Decimal.read_eq_ok_iff _ _ _).mpr declared
      obtain rfl : tail = line ++ 0x0d :: 0x0a :: rest := by
        simpa [Value.crlf] using split
      rw [Cursor.length_line 1 line rest (-1) (isLine_of_isLiteral declared) literal]
      simp only [Progress.andThen, counted, ↓reduceIte]
      congr 2
      simp [Value.crlf]
      omega
    | array line written values declared few forms =>
      have literal := (Decimal.read_eq_ok_iff _ _ _).mpr declared
      obtain rfl : tail = line ++ 0x0d :: 0x0a :: (written ++ rest) := by
        simpa [Value.crlf] using split
      have notAbsent : ¬ (values.length : Int) = -1 := by omega
      have inRange : ¬ ((values.length : Int) < 0 ∨ (values.length : Int) > maxElements) := by
        omega
      rw [Cursor.length_line 1 line _ _ (isLine_of_isLiteral declared) literal]
      simp only [Progress.andThen, counted, notAbsent, inRange, ↓reduceIte, Int.toNat_natCast]
      refine (Cursor.elements_eq_complete_iff [] values.length).mpr
        ⟨values, written, rest, forms, rfl, rfl, rfl, ?_⟩
      congr 1
      simp [Value.crlf]
      omega

/-- A buffer that begins with the marker of arrays holds a complete request of `size` bytes exactly
when its first `size` bytes are a form of the value that is read. Value and size are unique, so the
grammar is unambiguous also without regard to the decoder. -/
theorem arrays_accepted_iff (limit : Nat) (tail : List UInt8) :
    (∀ value size,
      (∃ next, decode limit (Value.arrayMarker :: tail) = .complete value next ∧
          next.position = size) ↔
        size ≤ (Value.arrayMarker :: tail).length ∧
          ArrayForm limit value ((Value.arrayMarker :: tail).take size)) ∧
      ∀ value size other otherSize, size ≤ (Value.arrayMarker :: tail).length →
        ArrayForm limit value ((Value.arrayMarker :: tail).take size) →
        otherSize ≤ (Value.arrayMarker :: tail).length →
        ArrayForm limit other ((Value.arrayMarker :: tail).take otherSize) →
        value = other ∧ size = otherSize := by
  have accepted (value : Value) (size : Nat) (inside : size ≤ (Value.arrayMarker :: tail).length)
      (form : ArrayForm limit value ((Value.arrayMarker :: tail).take size)) :
      decode limit (Value.arrayMarker :: tail) =
        .complete value ⟨size, (Value.arrayMarker :: tail).drop size⟩ := by
    refine (decode_eq_complete_iff limit tail value _).mpr
      ⟨_, _, form, (List.take_append_drop size _).symm, ?_⟩
    rw [List.length_take, Nat.min_eq_left inside]
  refine ⟨fun value size => ⟨?_, ?_⟩, ?_⟩
  · rintro ⟨next, read, rfl⟩
    obtain ⟨written, rest, form, split, rfl⟩ :=
      (decode_eq_complete_iff limit tail value next).mp read
    rw [split, List.take_left, List.length_append]
    exact ⟨Nat.le_add_right _ _, form⟩
  · rintro ⟨inside, form⟩
    exact ⟨_, accepted value size inside form, rfl⟩
  · intro value size other otherSize inside form otherInside otherForm
    have same := (accepted value size inside form).symm.trans
      (accepted other otherSize otherInside otherForm)
    obtain ⟨sameValue, sameNext⟩ := Progress.complete.inj same
    exact ⟨sameValue, congrArg Cursor.position sameNext⟩

/-- A byte string may hold a line end and the markers of the format, and its length a sign. -/
example : decode 9 (Value.arrayMarker :: [0x31, 0x0d, 0x0a, 0x24, 0x2b, 0x33, 0x0d, 0x0a, 0x0d,
      0x0a, 0x24, 0x0d, 0x0a, 0x3a]) =
    .complete (.array [.bulk [0x0d, 0x0a, 0x24]]) ⟨14, [0x3a]⟩ := by
  decide

end KeyValueServer.Request
