import KeyValueServer.Proofs.Request.Lines
import KeyValueServer.Proofs.Text.LineBreaks
import KeyValueServer.Proofs.Text.LiteralForm
import KeyValueServer.Session

/-!
# Reading replies

What a client can learn from the bytes of replies. `read` is the client's side of the wire form: it
takes one value from the front of its input and leaves the rest. It gives back every value that was
written, up to the line breaks in status and failure texts, which the writer replaced, and it does
so whatever follows.

Nothing but the bytes went into the reading. So no text and no byte string, at any depth, can pass
for the end of its value or for the beginning of another one.
-/

namespace KeyValueServer

namespace Value

mutual

/-- A value as a client sees it: the line breaks in its texts are spaces. -/
def flat : Value → Value
  | .simple text => .simple (flatText text)
  | .error text => .error (flatText text)
  | .integer number => .integer number
  | .bulk bytes => .bulk bytes
  | .null => .null
  | .array elements => .array (flatAll elements)

/-- Several values as a client sees them. -/
def flatAll : List Value → List Value
  | [] => []
  | value :: values => value.flat :: flatAll values

end

/-- The line at the front of bytes, without its terminator, and the bytes behind it. -/
def cutLine (bytes : List UInt8) : Option (List UInt8 × List UInt8) :=
  (Request.lineLength? 0 bytes).map fun length => (bytes.take length, bytes.drop (length + 2))

/-- Reads `count` values, one behind the other. -/
def readEach (reader : List UInt8 → Option (Value × List UInt8)) :
    Nat → List UInt8 → Option (List Value × List UInt8)
  | 0, bytes => some ([], bytes)
  | count + 1, bytes => do
    let (value, behind) ← reader bytes
    let (values, rest) ← readEach reader count behind
    return (value :: values, rest)

/-- Reads what a line announces, given its marker, its content and the bytes behind it. Elements
are read by `elements`, which is told their number. -/
def readLine (elements : Nat → List UInt8 → Option (List Value × List UInt8)) (marker : UInt8)
    (content behind : List UInt8) : Option (Value × List UInt8) :=
  if marker = simpleMarker then
    (Utf8.decode content).toOption.map fun text => (.simple text, behind)
  else if marker = errorMarker then
    (Utf8.decode content).toOption.map fun text => (.error text, behind)
  else if marker = integerMarker then
    (Decimal.read Decimal.int64 content).toOption.map fun number =>
      (.integer (Int64.ofInt number), behind)
  else if marker = bulkMarker then
    if content = Decimal.write (-1) then some (.null, behind)
    else
      let length := Decimal.numeral content
      some (.bulk (behind.take length), behind.drop (length + 2))
  else if marker = arrayMarker then
    (elements (Decimal.numeral content) behind).map fun (values, rest) => (.array values, rest)
  else none

/-- Reads one value with arrays in it up to a depth. -/
def readWithin : Nat → List UInt8 → Option (Value × List UInt8)
  | 0, _ => none
  | _ + 1, [] => none
  | depth + 1, marker :: bytes => do
    let (content, behind) ← cutLine bytes
    readLine (readEach (readWithin depth)) marker content behind

/-- Reads one value from the front of bytes and leaves the bytes behind it. No value is deeper than
its bytes are many. -/
def read (bytes : List UInt8) : Option (Value × List UInt8) := readWithin bytes.length bytes

/-- Reads values until no byte is left. The fuel bounds their number. -/
def readAllWithin : Nat → List UInt8 → Option (List Value)
  | _, [] => some []
  | 0, _ :: _ => none
  | fuel + 1, byte :: bytes => do
    let (value, behind) ← read (byte :: bytes)
    let values ← readAllWithin fuel behind
    return value :: values

/-- Reads bytes as values, one behind the other, with nothing left behind the last. -/
def readAll (bytes : List UInt8) : Option (List Value) := readAllWithin bytes.length bytes

/-- Several values are seen one by one. -/
theorem flatAll_eq_map (values : List Value) : flatAll values = values.map flat := by
  induction values with
  | nil => rfl
  | cons value values inductionHypothesis => rw [flatAll, inductionHypothesis, List.map_cons]

/-- A line without a CR in it is cut from the bytes that it begins. -/
theorem cutLine_line (content behind : List UInt8) (unbroken : 0x0d ∉ content) :
    cutLine (content ++ crlf ++ behind) = some (content, behind) := by
  have ends := Request.lineLength?_line content behind
    (Request.unended_of_no_return content unbroken)
  have same : content ++ crlf ++ behind = content ++ 0x0d :: 0x0a :: behind := by simp [crlf]
  rw [same, cutLine, ends, Option.map_some, List.take_left, ← List.drop_drop, List.drop_left]
  rfl

/-- What follows a written line is read by its marker and its content. -/
theorem readWithin_line (depth : Nat) (marker : UInt8) (content behind : List UInt8)
    (unbroken : 0x0d ∉ content) :
    readWithin (depth + 1) (line marker content ++ behind) =
      readLine (readEach (readWithin depth)) marker content behind := by
  rw [line, List.cons_append, readWithin, cutLine_line content behind unbroken]
  rfl

/-- A value is written with at least one byte. -/
theorem encode_length_pos (value : Value) : 0 < value.encode.length := by
  cases value with
  | array elements => simp [encode_array, line]
  | _ => simp [encode, appendTo, line]

/-- An element of an array has no more bytes than all of them. -/
theorem length_encode_le_of_mem {element : Value} {elements : List Value}
    (member : element ∈ elements) :
    element.encode.length ≤ (elements.flatMap encode).length := by
  obtain ⟨front, back, rfl⟩ := List.append_of_mem member
  simp only [List.flatMap_append, List.flatMap_cons, List.length_append]
  omega

/-- A text is read from its line as it was flattened. -/
theorem decode_flatten (text : String) :
    (Utf8.decode (flatten (Utf8.encode text))).toOption = some (flatText text) := by
  rw [← encode_flatText, Utf8.decode_encode]
  rfl

/-- A 64-bit integer is read back from its literal. -/
theorem read_write_toInt (number : Int64) :
    (Decimal.read Decimal.int64 (Decimal.write number.toInt)).toOption = some number.toInt := by
  rw [Decimal.read_write Decimal.int64 _ rfl number.toInt number.le_toInt]
  · rfl
  · have below := number.toInt_lt
    show number.toInt ≤ ((0x7fffffffffffffff : Nat) : Int)
    omega

section Line

variable (elements : Nat → List UInt8 → Option (List Value × List UInt8)) (behind : List UInt8)

/-- A byte string is read behind its length. -/
theorem readLine_bulk (bytes : List UInt8) :
    readLine elements bulkMarker (Decimal.digits bytes.length) (bytes ++ (crlf ++ behind)) =
      some (.bulk bytes, behind) := by
  rw [readLine, if_neg (by decide), if_neg (by decide), if_neg (by decide), if_pos rfl,
    if_neg (Decimal.digits_ne_write _ _ (by decide))]
  simp only [(Decimal.isNumeral_digits _).2]
  rw [List.take_left, ← List.drop_drop, List.drop_left]
  rfl

/-- The elements of an array are read behind their number. -/
theorem readLine_array (count : Nat) :
    readLine elements arrayMarker (Decimal.digits count) behind =
      (elements count behind).map fun (values, rest) => (.array values, rest) := by
  rw [readLine, if_neg (by decide), if_neg (by decide), if_neg (by decide), if_neg (by decide),
    if_pos rfl, (Decimal.isNumeral_digits _).2]

end Line

/-- Written values are read as a client sees them, as many as are asked for, if each of them is. -/
theorem readEach_flatMap (depth : Nat) (values : List Value)
    (each : ∀ value ∈ values, ∀ rest,
      readWithin depth (value.encode ++ rest) = some (value.flat, rest))
    (rest : List UInt8) :
    readEach (readWithin depth) values.length (values.flatMap encode ++ rest) =
      some (flatAll values, rest) := by
  induction values with
  | nil => rfl
  | cons value values inductionHypothesis =>
    obtain ⟨first, others⟩ := List.forall_mem_cons.mp each
    rw [List.flatMap_cons, List.append_assoc, List.length_cons, readEach, first]
    simp only [Option.bind_eq_bind, Option.bind_some, inductionHypothesis others, flatAll]
    rfl

/-- A written value is read as a client sees it, whatever follows it. -/
theorem readWithin_encode (value : Value) (depth : Nat) (rest : List UInt8)
    (enough : value.encode.length ≤ depth) :
    readWithin depth (value.encode ++ rest) = some (value.flat, rest) := by
  -- Elements have fewer bytes than the array around them, so a level takes one step of the depth.
  induction depth generalizing value rest with
  | zero => exact absurd value.encode_length_pos (Nat.not_lt.mpr enough)
  | succ depth inductionHypothesis =>
    cases value with
    | simple text =>
      have form : (Value.simple text).encode =
          line simpleMarker (flatten (Utf8.encode text)) := by simp [encode, appendTo]
      rw [form, readWithin_line _ _ _ _ (no_break_of_flatten _).1, readLine, if_pos rfl,
        decode_flatten]
      rfl
    | error text =>
      have form : (Value.error text).encode =
          line errorMarker (flatten (Utf8.encode text)) := by simp [encode, appendTo]
      rw [form, readWithin_line _ _ _ _ (no_break_of_flatten _).1, readLine, if_neg (by decide),
        if_pos rfl, decode_flatten]
      rfl
    | integer number =>
      have form : (Value.integer number).encode =
          line integerMarker (Decimal.write number.toInt) := by simp [encode, appendTo]
      rw [form, readWithin_line _ _ _ _ (Decimal.no_return_of_write _), readLine,
        if_neg (by decide), if_neg (by decide), if_pos rfl, read_write_toInt, Option.map_some,
        Int64.ofInt_toInt, flat]
    | bulk bytes =>
      have form : (Value.bulk bytes).encode =
          line bulkMarker (Decimal.digits bytes.length) ++ (bytes ++ crlf) := by
        simp [encode, appendTo]
      rw [form, List.append_assoc, readWithin_line _ _ _ _ (Decimal.no_return_of_digits _),
        List.append_assoc, readLine_bulk, flat]
    | null =>
      have form : Value.null.encode = line bulkMarker (Decimal.write (-1)) := by
        simp [encode, appendTo]
      rw [form, readWithin_line _ _ _ _ (Decimal.no_return_of_write _), readLine,
        if_neg (by decide), if_neg (by decide), if_neg (by decide), if_pos rfl, if_pos rfl, flat]
    | array elements =>
      rw [encode_array, line, List.length_append, List.length_cons] at enough
      have each : ∀ element ∈ elements, ∀ rest,
          readWithin depth (element.encode ++ rest) = some (element.flat, rest) := by
        intro element member rest
        have shorter := length_encode_le_of_mem member
        exact inductionHypothesis element rest (by omega)
      rw [encode_array, List.append_assoc, readWithin_line _ _ _ _ (Decimal.no_return_of_digits _),
        readLine_array, readEach_flatMap depth elements each, Option.map_some, flat]

/-- A value is read from the front of every input that begins with it. -/
theorem read_encode (value : Value) (rest : List UInt8) :
    read (value.encode ++ rest) = some (value.flat, rest) := by
  refine readWithin_encode value _ rest ?_
  rw [List.length_append]
  exact Nat.le_add_right _ _

/-- Values that were written one behind the other are read one behind the other, with nothing left
behind them. -/
theorem readAllWithin_flatMap (values : List Value) (fuel : Nat)
    (enough : (values.flatMap encode).length ≤ fuel) :
    readAllWithin fuel (values.flatMap encode) = some (values.map flat) := by
  induction values generalizing fuel with
  | nil =>
    unfold readAllWithin
    rfl
  | cons value values inductionHypothesis =>
    rw [List.flatMap_cons, List.length_append] at enough
    have present := value.encode_length_pos
    have first := value.read_encode (values.flatMap encode)
    obtain ⟨fuel, rfl⟩ := Nat.exists_eq_succ_of_ne_zero (n := fuel) (by omega)
    have others := inductionHypothesis fuel (by omega)
    obtain ⟨byte, bytes, split⟩ := List.exists_cons_of_length_pos present
    rw [List.flatMap_cons, List.map_cons]
    rw [split, List.cons_append] at first ⊢
    rw [readAllWithin, first]
    simp only [Option.bind_eq_bind, Option.bind_some, others]
    rfl

/-- What a client sees is written as the value itself: the writer has replaced the line breaks
already. -/
theorem encode_flat (value : Value) : value.flat.encode = value.encode := by
  cases value with
  | simple text | error text =>
    simp [flat, encode, appendTo, encode_flatText, flatten_flatten]
  | integer _ | bulk _ | null => rw [flat]
  | array elements =>
    have each : (elements.map flat).flatMap encode = elements.flatMap encode := by
      rw [List.flatMap_map]
      exact List.flatMap_congr fun element _ => encode_flat element
    rw [flat, encode_array, encode_array, flatAll_eq_map, each, List.length_map]

/-- Queued replies stand in the output one behind the other. -/
theorem output_of_queued (session : Session) (replies : List Value) :
    (replies.foldl Session.queueReply session).output =
      session.output ++ replies.flatMap encode := by
  induction replies generalizing session with
  | nil => rw [List.foldl_nil, List.flatMap_nil, List.append_nil]
  | cons reply replies inductionHypothesis =>
    rw [List.foldl_cons, inductionHypothesis, Session.queueReply, List.flatMap_cons,
      List.append_assoc]

/-- Wire forms with anything behind them are the same where a client sees the same value and the
same bytes follow, and only there. A value is appended to what an output holds. And the replies
that were queued in a session are read from the bytes that they added to its output, whatever they
hold. -/
theorem replies_are_recovered :
    (∀ (value other : Value) (rest others : List UInt8),
        value.encode ++ rest = other.encode ++ others ↔
          value.flat = other.flat ∧ rest = others) ∧
      (∀ (output : Array UInt8) (value : Value),
        (value.appendTo output).toList = output.toList ++ value.encode) ∧
      ∀ (session : Session) (replies : List Value),
        ∃ written,
          (replies.foldl Session.queueReply session).output = session.output ++ written ∧
            readAll written = some (replies.map flat) := by
  refine ⟨fun value other rest others => ⟨fun same => ?_, ?_⟩, toList_appendTo,
    fun session replies => ⟨_, output_of_queued session replies, ?_⟩⟩
  · have reads := value.read_encode rest
    rw [same, other.read_encode others, Option.some.injEq, Prod.mk.injEq] at reads
    exact ⟨reads.1.symm, reads.2.symm⟩
  · rintro ⟨same, rfl⟩
    rw [← value.encode_flat, same, other.encode_flat]
  · exact readAllWithin_flatMap replies _ (Nat.le_refl _)

/-- A failure report that quotes a line break and a byte string that holds a whole reply are read
as what they are. -/
example :
    readAll ((Value.array [.error "a\r\n:1", .bulk [0x2b, 0x0d, 0x0a], .null]).encode ++
        (Value.integer (-7)).encode) =
      some [.array [.error "a  :1", .bulk [0x2b, 0x0d, 0x0a], .null], .integer (-7)] := by
  decide

end Value

end KeyValueServer
