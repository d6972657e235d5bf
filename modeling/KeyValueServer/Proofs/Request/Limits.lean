import KeyValueServer.Proofs.Request.Extent
import KeyValueServer.Proofs.Request.Framing

/-!
# The limits of requests

A decoder has two limits for requests, one for the number of elements and one for the bytes of an
element. In array form both hold for every request that is read. The inline form lacks them, against
what the limits are for: a line is read as its words, under every limit, however many there are and
however long.

The limits matter again when a request that was read is written and read a second time, because it
is written in array form. Then the requests within the limits come back as they were, and no other
request does: the decoder refuses what it has accepted before, for the limit that is exceeded.
-/

namespace KeyValueServer

namespace Request

variable {limit : Nat} {buffer : List UInt8} {value : Value} {next : Cursor}

/-- Whatever words there are, the line of them is read as these words under every limit. -/
theorem decode_spread (limit : Nat) (words : List (List Char)) (some : words ≠ [])
    (areWords : ∀ word ∈ words, Blank.IsWord word) (more : List UInt8) :
    decode limit (Utf8.encode (String.ofList (Blank.spread words)) ++ 0x0a :: more) =
      .complete (Value.typed words)
        ⟨(Utf8.encode (String.ofList (Blank.spread words))).length + 1, more⟩ :=
  decode_typed limit (isTyped_spread some areWords) more

/-- A literal of a 64-bit number is not above the largest of them. -/
theorem le_largestBlock_of_isLiteral {line : List UInt8} {value : Int}
    (literal : Decimal.IsLiteral Decimal.int64 line value) : value ≤ Fault.largestBlock := by
  cases literal with
  | unsigned digits shape within => exact Int.ofNat_le.mpr within
  | plus digits shape within => exact Int.ofNat_le.mpr within
  | minus digits lowest shape signed within => omega

/-- An element in array form is within the limit for its bytes. -/
theorem ElementForm.isElement {written : List UInt8} (form : ElementForm limit value written) :
    value.IsElement limit := by
  cases form with
  | absent line declared => exact trivial
  | bulk line bytes declared short =>
    exact ⟨short, Int.ofNat_le.mp (le_largestBlock_of_isLiteral declared)⟩

/-- Elements in array form are within the limit for their bytes. -/
theorem ElementsForm.areElements {values : List Value} {written : List UInt8}
    (forms : ElementsForm limit values written) : ∀ element ∈ values, element.IsElement limit := by
  induction forms with
  | nil => nofun
  | cons value values written others first rest inductionHypothesis =>
    exact List.forall_mem_cons.mpr ⟨first.isElement, inductionHypothesis⟩

/-- A request that is read in array form is absent or within both limits. -/
theorem isRequest_of_array {tail : List UInt8}
    (read : decode limit (Value.arrayMarker :: tail) = .complete value next) :
    value = .null ∨ value.IsRequest limit := by
  obtain ⟨written, rest, form, _, _⟩ := (decode_eq_complete_iff limit tail value next).mp read
  cases form with
  | absent line declared => exact .inl rfl
  | array line written values declared few elements =>
    exact .inr ⟨few, elements.areElements⟩

/-- Why a request that was read is refused when it is read as it is written. -/
inductive Excess (limit : Nat) : Value → Error → Prop
  /-- The absent value is written as a reply. -/
  | absent : Excess limit .null (.replyMarker Value.bulkMarker)
  /-- There are too many elements. -/
  | count (elements : List Value) (many : maxElements < elements.length) :
      Excess limit (.array elements) (.arrayLength elements.length)
  /-- An element has too many bytes. -/
  | size (elements : List Value) (bytes : List UInt8) (member : .bulk bytes ∈ elements)
      (large : limit < bytes.length) : Excess limit (.array elements) (.tooLarge bytes.length limit)

/-- A byte string above the limit is refused where it is written. -/
theorem element_excess (position : Nat) (bytes more : List UInt8)
    (small : bytes.length ≤ Fault.largestBlock) (large : limit < bytes.length) :
    Cursor.element limit ⟨position, (Value.bulk bytes).encode ++ more⟩ =
      .refused (.tooLarge bytes.length limit) := by
  obtain ⟨isLine, _⟩ := Cursor.isLine_digits bytes.length small
  have declared := Decimal.read_digits Decimal.int64 bytes.length small
  have notAbsent : ¬ (bytes.length : Int) = -1 := by omega
  have notNegative : ¬ (bytes.length : Int) < 0 := by omega
  have split : (Value.bulk bytes).encode ++ more = Value.bulkMarker ::
      (Decimal.digits bytes.length ++ 0x0d :: 0x0a :: (bytes ++ Value.crlf ++ more)) := by
    simp [Value.encode, Value.appendTo, Value.line, Value.crlf]
  rw [split, Cursor.element_cons, if_pos rfl, Cursor.length_line _ _ _ _ isLine declared]
  simp only [Progress.andThen, Cursor.sized, notAbsent, notNegative, Int.toNat_natCast, large,
    ↓reduceIte]

/-- The first element above the limit is refused where the elements are written. -/
theorem elements_excess {larger : Nat} (found values : List Value) (position : Nat)
    (more : List UInt8) (areElements : ∀ element ∈ values, element.IsElement larger)
    (excess : ¬ ∀ element ∈ values, element.IsElement limit) :
    ∃ bytes, .bulk bytes ∈ values ∧ limit < bytes.length ∧
      Cursor.elements limit found values.length ⟨position, values.flatMap Value.encode ++ more⟩ =
        .refused (.tooLarge bytes.length limit) := by
  induction values generalizing found position with
  | nil => exact absurd nofun excess
  | cons value values inductionHypothesis =>
    obtain ⟨isElement, others⟩ := List.forall_mem_cons.mp areElements
    rw [List.length_cons, Cursor.elements_succ, List.flatMap_cons, List.append_assoc]
    by_cases first : value.IsElement limit
    · have rest : ¬ ∀ element ∈ values, element.IsElement limit :=
        fun all => excess (List.forall_mem_cons.mpr ⟨first, all⟩)
      obtain ⟨bytes, member, large, refused⟩ := inductionHypothesis (value :: found)
        (position + value.encode.length) others rest
      refine ⟨bytes, List.mem_cons_of_mem _ member, large, ?_⟩
      rw [(Cursor.element_frames limit value first).reads]
      exact refused
    · cases value with
      | bulk bytes =>
        have large : limit < bytes.length :=
          Nat.lt_of_not_le fun short => first ⟨short, isElement.2⟩
        refine ⟨bytes, List.mem_cons_self, large, ?_⟩
        rw [element_excess position bytes _ isElement.2 large]
        rfl
      | null => exact absurd trivial first
      | simple text => exact isElement.elim
      | error text => exact isElement.elim
      | integer number => exact isElement.elim
      | array elements => exact isElement.elim

/-- Where a request is written, its number of elements decides first. -/
theorem decode_written (limit : Nat) (elements : List Value) (more : List UInt8)
    (few : elements.length ≤ Fault.largestBlock) :
    ∃ position, decode limit ((Value.array elements).encode ++ more) =
      counted limit elements.length ⟨position, elements.flatMap Value.encode ++ more⟩ := by
  obtain ⟨isLine, _⟩ := Cursor.isLine_digits elements.length few
  have declared := Decimal.read_digits Decimal.int64 elements.length few
  have split : (Value.array elements).encode ++ more = Value.arrayMarker ::
      (Decimal.digits elements.length ++ 0x0d :: 0x0a ::
        (elements.flatMap Value.encode ++ more)) := by
    rw [encode_array_cons]
    simp [Value.crlf]
  refine ⟨1 + (Decimal.digits elements.length).length + 2, ?_⟩
  rw [split, decode_array, Cursor.length_line _ _ _ _ isLine declared]
  rfl

/-- A request with too many elements is refused as it is written, whatever they are. -/
theorem array_too_long (limit : Nat) (elements : List Value) (more : List UInt8)
    (small : elements.length ≤ Fault.largestBlock) (many : maxElements < elements.length) :
    decode limit ((Value.array elements).encode ++ more) =
      .refused (.arrayLength elements.length) := by
  obtain ⟨position, read⟩ := decode_written limit elements more small
  have notAbsent : ¬ (elements.length : Int) = -1 := by omega
  have outside : (elements.length : Int) < 0 ∨ (elements.length : Int) > maxElements := by omega
  rw [read, counted, if_neg notAbsent, if_pos outside]

/-- A request above a limit is refused as it is written, for the limit that it exceeds. -/
theorem array_excess {larger : Nat} (elements : List Value) (more : List UInt8)
    (few : elements.length ≤ Fault.largestBlock)
    (areElements : ∀ element ∈ elements, element.IsElement larger)
    (excess : ¬ (Value.array elements).IsRequest limit) :
    ∃ error, decode limit ((Value.array elements).encode ++ more) = .refused error ∧
      Excess limit (.array elements) error := by
  by_cases many : maxElements < elements.length
  · exact ⟨_, array_too_long limit elements more few many, .count elements many⟩
  · have notAbsent : ¬ (elements.length : Int) = -1 := by omega
    have inside : ¬ ((elements.length : Int) < 0 ∨ (elements.length : Int) > maxElements) := by
      omega
    have large : ¬ ∀ element ∈ elements, element.IsElement limit :=
      fun all => excess ⟨Nat.le_of_not_lt many, all⟩
    obtain ⟨position, read⟩ := decode_written limit elements more few
    obtain ⟨bytes, member, above, refused⟩ :=
      elements_excess [] elements position more areElements large
    refine ⟨_, ?_, .size elements bytes member above⟩
    rw [read, counted, if_neg notAbsent, if_neg inside, Int.toNat_natCast]
    exact refused

/-- What a request that was read has to do with the limits. -/
structure Admitted (limit : Nat) (buffer : List UInt8) (value : Value) (next : Cursor) : Prop where
  /-- In array form it is absent or within both limits. -/
  array : buffer.head? = some Value.arrayMarker → value = .null ∨ value.IsRequest limit
  /-- In inline form it has words, and only the length of the line bounds their number and size. -/
  line : buffer.head? ≠ some Value.arrayMarker →
    ∃ words, words ≠ [] ∧ (∀ word ∈ words, Blank.IsWord word) ∧ value = Value.typed words ∧
      Blank.widths words ≤ next.position
  /-- It is read again as it is written exactly when it is within both limits. -/
  again : ∀ more, decode limit (value.encode ++ more) =
    .complete value ⟨value.encode.length, more⟩ ↔ value.IsRequest limit
  /-- Otherwise it is refused for what exceeds a limit. A buffer has room for no more bytes than a
  block of memory. -/
  refused : buffer.length ≤ Fault.largestBlock → ¬ value.IsRequest limit →
    ∀ more, ∃ error, decode limit (value.encode ++ more) = .refused error ∧
      Excess limit value error

/-- The absent value is no request as it is written. -/
theorem decode_absent (limit : Nat) (more : List UInt8) :
    decode limit (Value.null.encode ++ more) = .refused (.replyMarker Value.bulkMarker) := rfl

/-- The words of a line have room in it. -/
theorem fits_of_widths {words : List (List Char)} {room : Nat}
    (within : Blank.widths words ≤ room) :
    words.length ≤ room ∧ ∀ word ∈ words, Blank.width word ≤ room := by
  induction words generalizing room with
  | nil => exact ⟨Nat.zero_le room, nofun⟩
  | cons word words inductionHypothesis =>
    rw [Blank.widths_cons] at within
    have left : Blank.widths words ≤ room - (Blank.width word + 1) := by omega
    obtain ⟨count, sizes⟩ := inductionHypothesis left
    constructor
    · rw [List.length_cons]
      omega
    · refine List.forall_mem_cons.mpr ⟨by omega, fun other member => ?_⟩
      have size := sizes other member
      omega

/-- The words of a line are elements when they are short enough. -/
theorem isElement_of_width {words : List (List Char)}
    (short : ∀ word ∈ words, Blank.width word ≤ limit ∧ Blank.width word ≤ Fault.largestBlock) :
    ∀ element ∈ words.map fun word => Value.bulk (Utf8.encode (String.ofList word)),
      element.IsElement limit := by
  intro element member
  obtain ⟨word, isIn, rfl⟩ := List.mem_map.mp member
  exact short word isIn

/-- A request that is written is read again only within both limits. -/
theorem isRequest_of_again {more : List UInt8} {rest : Cursor}
    (again : decode limit (value.encode ++ more) = .complete value rest)
    (shape : value = .null ∨ ∃ elements, value = .array elements) : value.IsRequest limit := by
  obtain rfl | ⟨elements, rfl⟩ := shape
  · rw [decode_absent] at again
    cases again
  · rw [encode_array_cons, List.cons_append] at again
    obtain absent | isRequest := isRequest_of_array again
    · cases absent
    · exact isRequest

/-- Whatever is read is as the limits admit it. -/
theorem admitted_of_decode (read : decode limit buffer = .complete value next) :
    Admitted limit buffer value next := by
  obtain ⟨written, _, split, position, _⟩ := decode_extent read
  have inside : next.position ≤ buffer.length := by
    rw [position, split, List.length_append]
    exact Nat.le_add_right _ _
  cases buffer with
  | nil => cases read
  | cons first tail =>
    by_cases isArray : first = Value.arrayMarker
    · subst isArray
      have limited := isRequest_of_array read
      have shape : value = .null ∨ ∃ elements, value = .array elements := by
        obtain absent | isRequest := limited
        · exact .inl absent
        · cases value with
          | array elements => exact .inr ⟨elements, rfl⟩
          | null | simple | error | integer | bulk => exact isRequest.elim
      refine ⟨fun _ => limited, fun other => absurd rfl other, fun more => ⟨?_, ?_⟩, ?_⟩
      · exact fun again => isRequest_of_again again shape
      · exact fun isRequest => decode_encode limit value isRequest more
      · intro _ excess more
        obtain rfl | isRequest := limited
        · exact ⟨_, decode_absent limit more, .absent⟩
        · exact absurd isRequest excess
    · have noArray : (first :: tail).head? ≠ some Value.arrayMarker :=
        fun same => isArray (Option.some.inj same)
      obtain ⟨words, line, typed, rfl, _, ends⟩ := typed_of_decode noArray read
      obtain ⟨some, areWords⟩ := typed.areWords
      have room : Blank.widths words ≤ next.position := by
        rw [ends]
        exact Blank.widths_le_of_isLine typed.isLine
      refine ⟨fun same => ?_, fun _ => ⟨words, some, areWords, rfl, room⟩, fun more => ⟨?_, ?_⟩, ?_⟩
      · exact absurd same noArray
      · exact fun again => isRequest_of_again again (.inr ⟨_, rfl⟩)
      · exact fun isRequest => decode_encode limit _ isRequest more
      · intro small excess more
        obtain ⟨count, sizes⟩ := fits_of_widths (Nat.le_trans room (Nat.le_trans inside small))
        have areElements := isElement_of_width fun word isIn => ⟨sizes word isIn, sizes word isIn⟩
        refine array_excess _ more ?_ areElements excess
        rw [List.length_map]
        exact count

/-- Both limits hold for requests in array form, and none for requests in inline form: any words at
all are read under every limit. -/
theorem limits_hold_for_arrays_only (limit : Nat) :
    (∀ buffer value next, decode limit buffer = .complete value next →
        Admitted limit buffer value next) ∧
      ∀ words, words ≠ [] → (∀ word ∈ words, Blank.IsWord word) → ∀ more,
        decode limit (Utf8.encode (String.ofList (Blank.spread words)) ++ 0x0a :: more) =
          .complete (Value.typed words)
            ⟨(Utf8.encode (String.ofList (Blank.spread words))).length + 1, more⟩ := by
  constructor
  · intro buffer value next read
    exact admitted_of_decode read
  · intro words some areWords more
    exact decode_spread limit words some areWords more

/-- A line with the words GET and foo. -/
def typedLine : List UInt8 := [0x47, 0x45, 0x54, 0x20, 0x66, 0x6f, 0x6f, 0x0d, 0x0a]

/-- The request with these words. -/
def typedRequest : Value := .array [.bulk [0x47, 0x45, 0x54], .bulk [0x66, 0x6f, 0x6f]]

/-- The line is read under a limit of two bytes, and refused when it is written as an array. -/
theorem typedLine_read_once :
    decode 2 typedLine = .complete typedRequest ⟨9, []⟩ ∧
      Admitted 2 typedLine typedRequest ⟨9, []⟩ ∧
      decode 2 typedRequest.encode = .refused (.tooLarge 3 2) := by
  have read : decode 2 typedLine = .complete typedRequest ⟨9, []⟩ := rfl
  exact ⟨read, (limits_hold_for_arrays_only 2).1 _ _ _ read, rfl⟩

/-- A request that is read can have more bytes in an element than the limit says, and need not be
read again as it is written. -/
theorem limit_exceeded_by_line :
    ¬ ∀ limit buffer elements next, decode limit buffer = .complete (.array elements) next →
        elements.length ≤ maxElements ∧
          (∀ bytes, .bulk bytes ∈ elements → bytes.length ≤ limit) ∧
          decode limit (Value.array elements).encode =
            .complete (.array elements) ⟨(Value.array elements).encode.length, []⟩ := by
  intro holds
  have read : decode 2 typedLine =
      .complete (.array [.bulk [0x47, 0x45, 0x54], .bulk [0x66, 0x6f, 0x6f]]) ⟨9, []⟩ := rfl
  obtain ⟨_, sizes, _⟩ := holds 2 typedLine _ _ read
  have size := sizes [0x66, 0x6f, 0x6f] (List.mem_cons_of_mem _ List.mem_cons_self)
  exact absurd size (by decide)

end Request

end KeyValueServer
