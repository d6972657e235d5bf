import KeyValueServer.Fault
import KeyValueServer.Proofs.Request.Grammar
import KeyValueServer.Proofs.Text.Literals

/-!
# Written requests are read back

A decoder frames some bytes when it reads them to their last byte, whatever follows, and asks for
more as long as they are not all there. What is framed piece by piece is framed as a whole, so the
decoder of the array form frames every request as it is written. The main statements are
`decode_encode` and `decode_front`.
-/

namespace KeyValueServer

/-- An element of a request: the absent value, or a byte string of at most `limit` bytes. No byte
string is larger than a block of memory can be. -/
def Value.IsElement (limit : Nat) : Value → Prop
  | .null => True
  | .bulk bytes => bytes.length ≤ limit ∧ bytes.length ≤ Fault.largestBlock
  | _ => False

/-- A request in array form whose elements have at most `limit` bytes. -/
def Value.IsRequest (limit : Nat) : Value → Prop
  | .array elements =>
    elements.length ≤ Request.maxElements ∧ ∀ element ∈ elements, element.IsElement limit
  | _ => False

namespace Request

open Cursor

variable {α β : Type}

/-- Whether a decoder reads exactly `bytes` to find `value`, and waits until they are there. -/
structure Frames (decoder : Cursor → Progress α) (bytes : List UInt8) (value : α) : Prop where
  reads : ∀ position rest,
    decoder ⟨position, bytes ++ rest⟩ = .complete value ⟨position + bytes.length, rest⟩
  waits : ∀ position front rest, rest ≠ [] → front ++ rest = bytes →
    decoder ⟨position, front⟩ = .incomplete

/-- No byte is needed for a value that is known. -/
theorem frames_complete (value : α) : Frames (fun cursor => .complete value cursor) [] value where
  reads _ _ := rfl
  waits _ _ _ missing split := absurd (List.append_eq_nil_iff.mp split).2 missing

/-- Two pieces that are framed are framed one behind the other. -/
theorem Frames.andThen {decoder : Cursor → Progress α} {followUp : α → Cursor → Progress β}
    {bytes more : List UInt8} {value : α} {result : β} (first : Frames decoder bytes value)
    (second : Frames (followUp value) more result) :
    Frames (fun cursor => (decoder cursor).andThen followUp) (bytes ++ more) result where
  reads position rest := by
    rw [List.append_assoc, first.reads, Progress.andThen, second.reads, List.length_append,
      Nat.add_assoc]
  waits position front rest missing split := by
    rcases List.append_eq_append_iff.mp split with ⟨left, whole, later⟩ | ⟨begun, whole, later⟩
    · by_cases ended : left = []
      · -- The first piece is all there, and nothing of the second.
        rw [ended, List.append_nil] at whole
        rw [ended, List.nil_append] at later
        have there := first.reads position []
        rw [List.append_nil, whole] at there
        rw [there]
        exact second.waits _ [] rest missing later
      · rw [first.waits position front left ended whole.symm]
        rfl
    · rw [whole, first.reads]
      exact second.waits _ begun rest missing later.symm

/-- A piece behind a marker is framed together with the marker. -/
theorem Frames.marked {decoder inner : Cursor → Progress α} {bytes : List UInt8} {value : α}
    (marker : UInt8) (framed : Frames inner bytes value)
    (behind : ∀ position rest, decoder ⟨position, marker :: rest⟩ = inner ⟨position + 1, rest⟩)
    (nothing : ∀ position, decoder ⟨position, []⟩ = .incomplete) :
    Frames decoder (marker :: bytes) value where
  reads position rest := by
    rw [List.cons_append, behind, framed.reads, List.length_cons]
    congr 2
    omega
  waits position front rest missing split := by
    cases front with
    | nil => exact nothing position
    | cons first front =>
      obtain ⟨rfl, later⟩ := List.cons.inj split
      rw [behind]
      exact framed.waits _ front rest missing later

namespace Cursor

/-- A short line is framed with its terminator. -/
theorem header_frames (line : List UInt8) (isLine : IsLine line)
    (short : line.length < headerLimit) : Frames header (line ++ Value.crlf) line where
  reads position rest := by
    have split : line ++ Value.crlf ++ rest = line ++ 0x0d :: 0x0a :: rest := by
      simp [Value.crlf]
    rw [split, header_line position line rest isLine, List.length_append]
    rfl
  waits position front rest missing split := by
    obtain ⟨shorter, last, rfl⟩ : ∃ shorter last, rest = shorter ++ [last] :=
      ⟨_, _, (List.dropLast_append_getLast missing).symm⟩
    have begun : line ++ [0x0d] = front ++ shorter := by
      have split : (front ++ shorter) ++ [last] = (line ++ [0x0d]) ++ [0x0a] := by
        rw [List.append_assoc, split]
        simp [Value.crlf]
      exact (List.append_inj_left' split rfl).symm
    have unended : lineLength? 0 front = none := by
      apply unended_front front shorter
      rw [← begun]
      exact isLine
    have lengths := congrArg List.length begun
    simp only [List.length_append, List.length_singleton] at lengths
    have small : ¬ front.length > headerLimit := by omega
    simp only [header, unended, small, ↓reduceIte]

/-- A short line that reads as a length is framed with its terminator. -/
theorem length_frames (line : List UInt8) (value : Int) (isLine : IsLine line)
    (short : line.length < headerLimit) (declared : Decimal.read Decimal.int64 line = .ok value) :
    Frames length (line ++ Value.crlf) value := by
  rw [← List.append_nil (line ++ Value.crlf)]
  apply (header_frames line isLine short).andThen
  simp only [declared]
  exact frames_complete value

/-- The bytes of a bulk string are framed with the terminator behind them. -/
theorem payload_frames (bytes : List UInt8) :
    Frames (fun cursor => cursor.payload bytes.length) (bytes ++ Value.crlf) (.bulk bytes) where
  reads position rest := by
    have split : bytes ++ Value.crlf ++ rest = bytes ++ 0x0d :: 0x0a :: rest := by
      simp [Value.crlf]
    rw [split, payload_line position bytes rest, List.length_append]
    rfl
  waits position front rest missing split := by
    have few : (front.drop bytes.length).length < 2 := by
      have lengths := congrArg List.length split
      have more := List.length_pos_of_ne_nil missing
      simp only [List.length_append, Value.crlf, List.length_cons, List.length_nil] at lengths
      rw [List.length_drop]
      omega
    simp only [payload]
    cases left : front.drop bytes.length with
    | nil => rfl
    | cons first tail =>
      cases tail with
      | nil => rfl
      | cons second tail =>
        rw [left] at few
        simp only [List.length_cons] at few
        omega

/-- What follows the length of an element is framed when the length is its own. -/
theorem sized_frames (limit : Nat) (bytes : List UInt8) (short : bytes.length ≤ limit) :
    Frames (sized limit bytes.length) (bytes ++ Value.crlf) (.bulk bytes) := by
  have notAbsent : ¬ (bytes.length : Int) = -1 := by omega
  have notNegative : ¬ (bytes.length : Int) < 0 := by omega
  have notLarge : ¬ bytes.length > limit := by omega
  have same : sized limit bytes.length = fun cursor => cursor.payload bytes.length := by
    funext cursor
    simp only [sized, notAbsent, notNegative, ↓reduceIte, Int.toNat_natCast, notLarge]
  rw [same]
  exact payload_frames bytes

/-- A written number is a short line. -/
theorem isLine_digits (number : Nat) (small : number ≤ Fault.largestBlock) :
    IsLine (Decimal.digits number) ∧ (Decimal.digits number).length < headerLimit := by
  constructor
  · exact unended_of_no_return _ (Decimal.no_return_of_digits number)
  · have places : number < 10 ^ 19 := Nat.lt_of_le_of_lt small (by decide)
    exact Nat.lt_of_le_of_lt (Decimal.length_digits_le number 19 (by decide) places) (by decide)

/-- An element is framed as it is written. -/
theorem element_frames (limit : Nat) (element : Value) (isElement : element.IsElement limit) :
    Frames (Cursor.element limit) element.encode element := by
  have behind (position : Nat) (rest : List UInt8) :
      Cursor.element limit ⟨position, Value.bulkMarker :: rest⟩ =
        (Cursor.length ⟨position + 1, rest⟩).andThen (sized limit) := by
    rw [element_cons, if_pos rfl]
  cases element with
  | null =>
    have declared : Decimal.read Decimal.int64 (Decimal.write (-1)) = .ok (-1) := rfl
    have line := length_frames (Decimal.write (-1)) (-1) rfl (by decide) declared
    have absent : Frames (sized limit (-1)) [] .null := frames_complete Value.null
    have framed := (line.andThen absent).marked Value.bulkMarker behind fun _ => rfl
    rw [List.append_nil] at framed
    exact framed
  | bulk bytes =>
    obtain ⟨short, small⟩ := isElement
    obtain ⟨isLine, places⟩ := isLine_digits bytes.length small
    have declared := Decimal.read_digits Decimal.int64 bytes.length small
    have line := length_frames _ _ isLine places declared
    have framed := (line.andThen (sized_frames limit bytes short)).marked Value.bulkMarker behind
      fun _ => rfl
    have written : (Value.bulk bytes).encode = Value.bulkMarker ::
        (Decimal.digits bytes.length ++ Value.crlf ++ (bytes ++ Value.crlf)) := by
      simp [Value.encode, Value.appendTo, Value.line]
    rw [written]
    exact framed
  | simple text => exact isElement.elim
  | error text => exact isElement.elim
  | integer number => exact isElement.elim
  | array elements => exact isElement.elim

/-- The elements of a request are framed one behind the other. -/
theorem elements_frames (limit : Nat) (found values : List Value)
    (areElements : ∀ element ∈ values, element.IsElement limit) :
    Frames (elements limit found values.length) (values.flatMap Value.encode)
      (.array (found.reverse ++ values)) := by
  induction values generalizing found with
  | nil =>
    rw [List.append_nil]
    exact frames_complete _
  | cons value values inductionHypothesis =>
    obtain ⟨isElement, others⟩ := List.forall_mem_cons.mp areElements
    have rest := inductionHypothesis (value :: found) others
    have same : elements limit found (value :: values).length = fun cursor =>
        (cursor.element limit).andThen fun value => elements limit (value :: found) values.length :=
      funext fun cursor => elements_succ limit found values.length cursor
    rw [List.reverse_cons, List.append_assoc, List.singleton_append] at rest
    rw [same, List.flatMap_cons]
    exact (element_frames limit value isElement).andThen rest

end Cursor

/-- What follows the marker of a request is framed as it is written. -/
theorem array_frames (limit : Nat) (elements : List Value)
    (isRequest : (Value.array elements).IsRequest limit) :
    Frames (Cursor.array limit)
      (Decimal.digits elements.length ++ Value.crlf ++ elements.flatMap Value.encode)
      (.array elements) := by
  obtain ⟨few, areElements⟩ := isRequest
  have small : elements.length ≤ Fault.largestBlock := Nat.le_trans few (by decide)
  obtain ⟨isLine, places⟩ := isLine_digits elements.length small
  have declared := Decimal.read_digits Decimal.int64 elements.length small
  have notAbsent : ¬ (elements.length : Int) = -1 := by omega
  have inRange : ¬ ((elements.length : Int) < 0 ∨ (elements.length : Int) > maxElements) := by
    omega
  have body : Frames (counted limit elements.length) (elements.flatMap Value.encode)
      (.array elements) := by
    have same : counted limit elements.length = Cursor.elements limit [] elements.length := by
      funext cursor
      simp only [counted, notAbsent, inRange, ↓reduceIte, Int.toNat_natCast]
    rw [same]
    exact elements_frames limit [] elements areElements
  exact (length_frames _ _ isLine places declared).andThen body

/-- The array form of a request begins with its marker. -/
theorem encode_array_cons (elements : List Value) :
    (Value.array elements).encode = Value.arrayMarker ::
      (Decimal.digits elements.length ++ Value.crlf ++ elements.flatMap Value.encode) := by
  rw [Value.encode_array]
  rfl

/-- A request is read back from the front of a buffer that begins with it as it is written. -/
theorem decode_encode (limit : Nat) (request : Value) (isRequest : request.IsRequest limit)
    (rest : List UInt8) :
    decode limit (request.encode ++ rest) = .complete request ⟨request.encode.length, rest⟩ := by
  cases request with
  | array elements =>
    rw [encode_array_cons, List.cons_append, decode_array]
    refine ((array_frames limit elements isRequest).reads 1 rest).trans ?_
    rw [List.length_cons, Nat.add_comm]
  | simple text => exact isRequest.elim
  | error text => exact isRequest.elim
  | integer number => exact isRequest.elim
  | bulk bytes => exact isRequest.elim
  | null => exact isRequest.elim

/-- As long as the last byte of a request is not there, the decoder asks for more. -/
theorem decode_front (limit : Nat) (request : Value) (isRequest : request.IsRequest limit)
    (front rest : List UInt8) (missing : rest ≠ []) (split : front ++ rest = request.encode) :
    decode limit front = .incomplete := by
  cases request with
  | array elements =>
    cases front with
    | nil => rfl
    | cons first front =>
      rw [encode_array_cons] at split
      obtain ⟨rfl, later⟩ := List.cons.inj split
      exact (array_frames limit elements isRequest).waits 1 front rest missing later
  | simple text => exact isRequest.elim
  | error text => exact isRequest.elim
  | integer number => exact isRequest.elim
  | bulk bytes => exact isRequest.elim
  | null => exact isRequest.elim

/-- An element is at most as long as it is written. -/
theorem length_le_encode (element : Value) (limit : Nat) (isElement : element.IsElement limit) :
    element.IsElement element.encode.length := by
  cases element with
  | bulk bytes =>
    refine ⟨?_, isElement.2⟩
    have written : (Value.bulk bytes).encode =
        Value.line Value.bulkMarker (Decimal.digits bytes.length) ++ (bytes ++ Value.crlf) := by
      simp [Value.encode, Value.appendTo]
    rw [written, List.length_append, List.length_append]
    omega
  | null => exact trivial
  | simple text => exact isElement.elim
  | error text => exact isElement.elim
  | integer number => exact isElement.elim
  | array elements => exact isElement.elim

/-- A request that is written within a limit has elements within this limit. -/
theorem isRequest_of_length (request : Value) (limit larger : Nat)
    (isRequest : request.IsRequest larger) (within : request.encode.length ≤ limit) :
    request.IsRequest limit := by
  cases request with
  | array elements =>
    refine ⟨isRequest.1, fun element member => ?_⟩
    have isElement := length_le_encode element larger (isRequest.2 element member)
    have inside : element.encode.length ≤ limit := by
      have written : element.encode ∈ elements.map Value.encode := List.mem_map_of_mem member
      have parts := (List.sublist_flatten_of_mem written).length_le
      rw [encode_array_cons, List.length_cons, List.length_append, List.flatMap] at within
      omega
    cases element with
    | bulk bytes => exact ⟨Nat.le_trans isElement.1 inside, isElement.2⟩
    | null => exact trivial
    | simple text => exact isElement.elim
    | error text => exact isElement.elim
    | integer number => exact isElement.elim
    | array elements => exact isElement.elim
  | simple text => exact isRequest.elim
  | error text => exact isRequest.elim
  | integer number => exact isRequest.elim
  | bulk bytes => exact isRequest.elim
  | null => exact isRequest.elim

/-- What has arrived of a stream of requests holds the first of them, or the decoder asks for
more. It is then shorter than the first request. -/
theorem decode_stream (limit : Nat) (requests : List Value)
    (areRequests : ∀ request ∈ requests, request.IsRequest limit) (input rest : List UInt8)
    (split : input ++ rest = requests.flatMap Value.encode) :
    (decode limit input = .incomplete ∧
        (requests = [] ∧ input = [] ∨
          ∃ first others, requests = first :: others ∧ input.length < first.encode.length)) ∨
      ∃ first others more, requests = first :: others ∧ input = first.encode ++ more ∧
        decode limit input = .complete first ⟨first.encode.length, more⟩ := by
  cases requests with
  | nil =>
    obtain ⟨rfl, _⟩ := List.append_eq_nil_iff.mp split
    exact .inl ⟨rfl, .inl ⟨rfl, rfl⟩⟩
  | cons first others =>
    have isRequest := areRequests first List.mem_cons_self
    rw [List.flatMap_cons] at split
    rcases List.append_eq_append_iff.mp split with ⟨missing, whole, _⟩ | ⟨more, whole, _⟩
    · by_cases ended : missing = []
      · subst ended
        rw [List.append_nil] at whole
        refine .inr ⟨first, others, [], rfl, by rw [List.append_nil, whole], ?_⟩
        have complete := decode_encode limit first isRequest []
        rw [List.append_nil] at complete
        rw [← whole]
        exact complete
      · refine .inl ⟨decode_front limit first isRequest input missing ended whole.symm,
          .inr ⟨first, others, rfl, ?_⟩⟩
        have positive := List.length_pos_of_ne_nil ended
        rw [whole, List.length_append]
        omega
    · refine .inr ⟨first, others, more, rfl, whole, ?_⟩
      rw [whole]
      exact decode_encode limit first isRequest more

end Request

end KeyValueServer
