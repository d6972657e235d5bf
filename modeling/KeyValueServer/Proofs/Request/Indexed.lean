import KeyValueServer.Proofs.Request.Limits

/-!
# Decoding with positions of 64 bits

A decoder that keeps one buffer and walks it by positions has to calculate with them: a line ends so
many bytes behind its start, the data of a bulk string so many bytes behind its length line. Lengths
are declared by whoever sends the request, up to the largest signed number of 64 bits, and they are
added to a position before anybody knows whether there are as many bytes. `Indexed.decode` is such a
decoder with positions of 64 bits. It stops with a breach where a sum has no such position, where a
slice is not one of the buffer, and where a number that becomes a position is none.

On buffers of less than 2⁶³ - 1 bytes it never stops, whatever they declare, and reads what the
decoder on cursors reads. There the sums come up to 2⁶⁴ - 1, so a single byte more is too much.
-/

namespace KeyValueServer.Request

namespace Indexed

/-- What can go wrong with positions of 64 bits. -/
inductive Breach where
  /-- A sum is too large for a position. -/
  | overflow (left right : UInt64)
  /-- A slice does not lie in the bytes. -/
  | outside (first stop : UInt64)
  /-- A number is not kept by a position. -/
  | lossy (number : Int)
  deriving DecidableEq, Repr

/-- Adds two positions. -/
def add (left right : UInt64) : Except Breach UInt64 :=
  if left.toNat + right.toNat < 2 ^ 64 then .ok (left + right) else .error (.overflow left right)

/-- The bytes from one position up to another. -/
def slice (bytes : List UInt8) (first stop : UInt64) : Except Breach (List UInt8) :=
  if first ≤ stop ∧ stop.toNat ≤ bytes.length then .ok ((bytes.take stop.toNat).drop first.toNat)
  else .error (.outside first stop)

/-- A number as a position. -/
def position (number : Int) : Except Breach UInt64 :=
  if 0 ≤ number ∧ number < 2 ^ 64 then .ok (UInt64.ofNat number.toNat) else .error (.lossy number)

/-- How far a decoder came, with the position behind what was read. -/
inductive Reading (α : Type) where
  | incomplete
  | refused (error : Error)
  | complete (value : α) (next : UInt64)
  deriving DecidableEq, Repr

/-- How far a decoder on cursors came, in positions of 64 bits. -/
def Reading.of {α : Type} (progress : Progress α) : Reading α :=
  match progress with
  | .incomplete => .incomplete
  | .refused error => .refused error
  | .complete value next => .complete value (UInt64.ofNat next.position)

/-- Continues behind a value that was read. -/
def Reading.andThen {α β : Type} (reading : Reading α)
    (followUp : α → UInt64 → Except Breach (Reading β)) : Except Breach (Reading β) :=
  match reading with
  | .incomplete => .ok .incomplete
  | .refused error => .ok (.refused error)
  | .complete value next => followUp value next

/-- Reads the line at a position, without its terminator. -/
def header (buffer : List UInt8) (start : UInt64) : Except Breach (Reading (List UInt8)) :=
  let rest := buffer.drop start.toNat
  match lineLength? 0 rest with
  | some length => do
    let stop ← position length
    let line ← slice rest 0 stop
    let passed ← add start stop
    let next ← add passed 2
    return .complete line next
  | none =>
    if rest.length > headerLimit then .ok (.refused (.malformed "length header too long"))
    else .ok .incomplete

/-- Reads the line at a position as a length. -/
def length (buffer : List UInt8) (start : UInt64) : Except Breach (Reading Int) := do
  (← header buffer start).andThen fun line next =>
    match Decimal.read Decimal.int64 line with
    | .ok length => .ok (.complete length next)
    | .error _ => .ok (.refused (.badLength (Utf8.decodeLossy line)))

/-- Reads `size` bytes and the line terminator behind them. -/
def payload (buffer : List UInt8) (start size : UInt64) : Except Breach (Reading Value) := do
  let stop ← add start size
  let next ← add stop 2
  if buffer.length < next.toNat then return .incomplete
  let ending ← slice buffer stop next
  if ending ≠ [0x0d, 0x0a] then
    return .refused (.malformed "bulk string missing trailing CRLF")
  let bytes ← slice buffer start stop
  return .complete (.bulk bytes) next

/-- Reads one element of a request: a bulk string of at most `limit` bytes, or the absent value. -/
def element (limit : UInt64) (buffer : List UInt8) (start : UInt64) :
    Except Breach (Reading Value) :=
  match buffer[start.toNat]? with
  | none => .ok .incomplete
  | some marker =>
    if marker = Value.bulkMarker then do
      let line ← add start 1
      (← length buffer line).andThen fun length body =>
        if length = -1 then .ok (.complete .null body)
        else if length < 0 then .ok (.refused (.bulkLength length))
        else do
          let size ← position length
          if size > limit then return .refused (.tooLarge size.toNat limit.toNat)
          payload buffer body size
    else .ok (.refused (.notBulk marker))

/-- Reads the remaining elements of a request, given those found so far (last one first). -/
def elements (limit : UInt64) (buffer : List UInt8) (found : List Value) :
    Nat → UInt64 → Except Breach (Reading Value)
  | 0, start => .ok (.complete (.array found.reverse) start)
  | remaining + 1, start => do
    (← element limit buffer start).andThen fun value next =>
      elements limit buffer (value :: found) remaining next

/-- Reads a request in array form, from behind its marker. -/
def array (limit : UInt64) (buffer : List UInt8) : Except Breach (Reading Value) := do
  (← length buffer 1).andThen fun count body =>
    if count = -1 then .ok (.complete .null body)
    else if count < 0 ∨ count > maxElements then .ok (.refused (.arrayLength count))
    else do
      -- Room is made for the elements, or for some of them.
      let _room ← position count
      elements limit buffer [] count.toNat body

/-- Reads a request in inline form. -/
def inline (buffer : List UInt8) : Except Breach (Reading Value) :=
  match buffer.findIdx? (· == 0x0a) with
  | none => .ok .incomplete
  | some length => do
    let stop ← position length
    let line ← slice buffer 0 stop
    match Utf8.decode (Cursor.withoutReturn line) with
    | .error fault => return .refused (.notText fault.message)
    | .ok line =>
      match Cursor.wordValues line with
      | [] => return .refused (.malformed "empty inline command")
      | values =>
        let next ← add stop 1
        return .complete (.array values) next

/-- Takes one request from the front of a buffer, with bulk strings of at most `limit` bytes in
the array form. -/
def decode (limit : UInt64) (buffer : List UInt8) : Except Breach (Reading Value) :=
  match buffer with
  | [] => .ok .incomplete
  | first :: _ =>
    if first = Value.arrayMarker then array limit buffer
    else if isReplyMarker first then .ok (.refused (.replyMarker first))
    else inline buffer

/-! ### Where no breach can happen -/

/-- Without a breach the calculation goes on. -/
theorem ok_bind {First Second : Type} (value : First)
    (further : First → Except Breach Second) : (Except.ok value >>= further) = further value :=
  rfl

/-- A sum that is small enough is a position. -/
theorem add_of_lt {left right : UInt64} {count : Nat} (value : right.toNat = count)
    (small : left.toNat + count < 2 ^ 64) :
    ∃ sum, add left right = .ok sum ∧ sum.toNat = left.toNat + count := by
  subst value
  refine ⟨left + right, if_pos small, ?_⟩
  rw [UInt64.toNat_add, Nat.mod_eq_of_lt small]

/-- A slice that ends so many bytes behind its start, and not behind the bytes, has as many. -/
theorem slice_of_le {bytes : List UInt8} {first stop : UInt64} {count : Nat}
    (value : stop.toNat = first.toNat + count) (inside : stop.toNat ≤ bytes.length) :
    slice bytes first stop = .ok ((bytes.drop first.toNat).take count) := by
  have ordered : first ≤ stop := UInt64.le_iff_toNat_le.mpr (value ▸ Nat.le_add_right _ _)
  rw [slice, if_pos ⟨ordered, inside⟩, value, List.drop_take, Nat.add_sub_cancel_left]

/-- A slice from the front has as many bytes as its end says. -/
theorem slice_front {bytes : List UInt8} {stop : UInt64} {count : Nat}
    (value : stop.toNat = count) (inside : count ≤ bytes.length) :
    slice bytes 0 stop = .ok (bytes.take count) := by
  have behind : stop.toNat = (0 : UInt64).toNat + count := by
    rw [value, UInt64.toNat_zero, Nat.zero_add]
  rw [slice_of_le behind (value ▸ inside), UInt64.toNat_zero, List.drop_zero]

/-- A natural number that is small enough is kept by a position. -/
theorem position_of_lt {number : Nat} (small : number < 2 ^ 64) :
    ∃ place, position number = .ok place ∧ place.toNat = number := by
  have within : 0 ≤ (number : Int) ∧ (number : Int) < 2 ^ 64 := by omega
  refine ⟨UInt64.ofNat number, if_pos within, ?_⟩
  exact UInt64.toNat_ofNat_of_lt' small

/-! ### The two decoders agree -/

variable {α β : Type} {buffer : List UInt8} {start : UInt64}

/-- The cursor at a position. -/
def cursorAt (buffer : List UInt8) (start : UInt64) : Cursor :=
  ⟨start.toNat, buffer.drop start.toNat⟩

/-- A cursor that moves on stands at the position that is as much further on. -/
theorem skip_cursorAt {next : UInt64} {count : Nat} (moved : next.toNat = start.toNat + count) :
    (cursorAt buffer start).skip count = cursorAt buffer next := by
  simp only [cursorAt, Cursor.skip, List.drop_drop, moved]

/-- There was no breach, and a decoder on cursors came equally far in the buffer. -/
inductive Agrees (buffer : List UInt8) : Except Breach (Reading α) → Progress α → Prop
  | incomplete : Agrees buffer (.ok .incomplete) .incomplete
  | refused (error : Error) : Agrees buffer (.ok (.refused error)) (.refused error)
  | complete (value : α) (next : UInt64) (inside : next.toNat ≤ buffer.length) :
    Agrees buffer (.ok (.complete value next)) (.complete value (cursorAt buffer next))

/-- A decoder that agrees with one on cursors answers what that one answers. -/
theorem Agrees.eq_of {indexed : Except Breach (Reading α)} {progress : Progress α}
    (agrees : Agrees buffer indexed progress) : indexed = .ok (.of progress) := by
  cases agrees with
  | incomplete => rfl
  | refused error => rfl
  | complete value next inside => simp only [Reading.of, cursorAt, UInt64.ofNat_toNat]

/-- What was read by decoders that agree lies in the buffer. -/
theorem Agrees.inside {indexed : Except Breach (Reading α)} {progress : Progress α}
    (agrees : Agrees buffer indexed progress) {value : α} {next : Cursor}
    (read : progress = .complete value next) :
    next.position ≤ buffer.length ∧ next.ahead = buffer.drop next.position := by
  cases agrees with
  | incomplete => cases read
  | refused error => cases read
  | complete value next inside =>
    obtain ⟨_, rfl⟩ := Progress.complete.inj read
    exact ⟨inside, rfl⟩

/-- Decoders that agree still do when both continue with decoders that agree. -/
theorem Agrees.andThen {indexed : Except Breach (Reading α)} {progress : Progress α}
    {followUp : α → UInt64 → Except Breach (Reading β)} {followUpToo : α → Cursor → Progress β}
    (agrees : Agrees buffer indexed progress)
    (further : ∀ value next, next.toNat ≤ buffer.length →
      progress = .complete value (cursorAt buffer next) →
      Agrees buffer (followUp value next) (followUpToo value (cursorAt buffer next))) :
    Agrees buffer (do (← indexed).andThen followUp) (progress.andThen followUpToo) := by
  cases agrees with
  | incomplete => exact .incomplete
  | refused error => exact .refused error
  | complete value next inside => exact further value next inside rfl

/-- The line at a position is the line at the cursor. -/
theorem header_agrees (short : buffer.length < 2 ^ 64) (inside : start.toNat ≤ buffer.length) :
    Agrees buffer (header buffer start) (cursorAt buffer start).header := by
  have ahead : (cursorAt buffer start).ahead = buffer.drop start.toNat := rfl
  unfold header Cursor.header
  dsimp only
  rw [ahead]
  cases ended : lineLength? 0 (buffer.drop start.toNat) with
  | none =>
    by_cases long : (buffer.drop start.toNat).length > headerLimit
    · simp only [if_pos long]
      exact .refused _
    · simp only [if_neg long]
      exact .incomplete
  | some length =>
    have bound := lineLength?_bound _ _ ended
    rw [List.length_drop] at bound
    obtain ⟨stop, isStop, stopValue⟩ := position_of_lt (show length < 2 ^ 64 by omega)
    have line : slice (buffer.drop start.toNat) 0 stop =
        .ok ((buffer.drop start.toNat).take length) :=
      slice_front stopValue (by rw [List.length_drop]; omega)
    obtain ⟨passed, isPassed, passedValue⟩ :=
      add_of_lt stopValue (show start.toNat + length < 2 ^ 64 by omega)
    obtain ⟨next, isNext, nextValue⟩ :=
      add_of_lt (show (2 : UInt64).toNat = 2 from rfl) (show passed.toNat + 2 < 2 ^ 64 by omega)
    have moved : next.toNat = start.toNat + (length + 2) := by omega
    simp only [isStop, line, isPassed, isNext, ok_bind]
    rw [skip_cursorAt moved]
    exact .complete _ next (by omega)

/-- The length at a position is the length at the cursor. -/
theorem length_agrees (short : buffer.length < 2 ^ 64) (inside : start.toNat ≤ buffer.length) :
    Agrees buffer (length buffer start) (cursorAt buffer start).length := by
  refine (header_agrees short inside).andThen fun line next further _ => ?_
  cases Decimal.read Decimal.int64 line with
  | ok length => exact .complete length next further
  | error fault => exact .refused _

/-- A length that was read is not above the largest signed number of 64 bits. -/
theorem length_lt {cursor next : Cursor} {length : Int}
    (read : cursor.length = .complete length next) : length < 2 ^ 63 := by
  obtain ⟨line, behind, _, judged⟩ := Progress.exists_of_andThen read
  cases declared : Decimal.read Decimal.int64 line with
  | error fault =>
    rw [declared] at judged
    cases judged
  | ok number =>
    rw [declared] at judged
    obtain ⟨rfl, _⟩ := Progress.complete.inj judged
    exact Int.lt_add_one_of_le
      (le_largestBlock_of_isLiteral ((Decimal.read_eq_ok_iff _ _ _).mp declared))

/-- The data at a position is the data at the cursor, where the sums are positions. -/
theorem payload_agrees {size : UInt64} (fits : start.toNat + size.toNat + 2 < 2 ^ 64) :
    Agrees buffer (payload buffer start size) ((cursorAt buffer start).payload size.toNat) := by
  have ahead : (cursorAt buffer start).ahead = buffer.drop start.toNat := rfl
  obtain ⟨stop, isStop, stopValue⟩ :=
    add_of_lt (rfl : size.toNat = size.toNat) (show start.toNat + size.toNat < 2 ^ 64 by omega)
  obtain ⟨next, isNext, nextValue⟩ :=
    add_of_lt (show (2 : UInt64).toNat = 2 from rfl) (show stop.toNat + 2 < 2 ^ 64 by omega)
  have moved : next.toNat = start.toNat + (size.toNat + 2) := by omega
  unfold payload Cursor.payload
  simp only [isStop, isNext, ok_bind, ahead, List.drop_drop, ← stopValue]
  by_cases short : buffer.length < next.toNat
  · -- Fewer than two bytes lie behind the data, if it is there at all.
    rw [if_pos short]
    have few : (buffer.drop stop.toNat).length < 2 := by rw [List.length_drop]; omega
    match buffer.drop stop.toNat, few with
    | [], _ => exact .incomplete
    | [_], _ => exact .incomplete
  · rw [if_neg short]
    have ending : slice buffer stop next = .ok ((buffer.drop stop.toNat).take 2) :=
      slice_of_le nextValue (by omega)
    have bytes : slice buffer start stop = .ok ((buffer.drop start.toNat).take size.toNat) :=
      slice_of_le stopValue (by omega)
    have enough : 2 ≤ (buffer.drop stop.toNat).length := by rw [List.length_drop]; omega
    rw [ending, bytes]
    match buffer.drop stop.toNat, enough with
    | first :: second :: _, _ =>
      simp only [ok_bind, List.take_succ_cons, List.take_zero]
      by_cases ended : first = 0x0d ∧ second = 0x0a
      · rw [if_pos ended, if_neg (by simp [ended]), skip_cursorAt moved]
        exact .complete _ next (by omega)
      · rw [if_neg ended, if_pos (by simpa using ended)]
        exact .refused _

/-- The element at a position is the element at the cursor. -/
theorem element_agrees (limit : UInt64) (short : buffer.length < 2 ^ 63 - 1) :
    Agrees buffer (element limit buffer start)
      ((cursorAt buffer start).element limit.toNat) := by
  have ahead : (cursorAt buffer start).ahead = buffer.drop start.toNat := rfl
  unfold element Cursor.element
  rw [ahead]
  cases present : buffer[start.toNat]? with
  | none =>
    rw [List.drop_of_length_le (List.getElem?_eq_none_iff.mp present)]
    exact .incomplete
  | some marker =>
    obtain ⟨within, found⟩ := List.getElem?_eq_some_iff.mp present
    rw [List.drop_eq_getElem_cons within, found]
    dsimp only
    by_cases isMarker : marker = Value.bulkMarker
    · rw [if_pos isMarker, if_pos isMarker]
      obtain ⟨line, isLine, moved⟩ :=
        add_of_lt (show (1 : UInt64).toNat = 1 from rfl) (show start.toNat + 1 < 2 ^ 64 by omega)
      rw [isLine, skip_cursorAt moved, ok_bind]
      refine (length_agrees (by omega) (by omega)).andThen fun length body further declared => ?_
      have notAbove := length_lt declared
      by_cases absent : length = -1
      · rw [if_pos absent, if_pos absent]
        exact .complete Value.null body further
      · rw [if_neg absent, if_neg absent]
        by_cases negative : length < 0
        · rw [if_pos negative, if_pos negative]
          exact .refused _
        · obtain ⟨bytes, rfl⟩ := Int.eq_ofNat_of_zero_le (Int.not_lt.mp negative)
          obtain ⟨size, isSize, sizeValue⟩ := position_of_lt (show bytes < 2 ^ 64 by omega)
          rw [if_neg negative, if_neg negative, isSize, ok_bind, Int.toNat_natCast, ← sizeValue]
          by_cases large : size > limit
          · rw [if_pos large, if_pos (UInt64.lt_iff_toNat_lt.mp large)]
            exact .refused _
          · have notLarge : ¬ size.toNat > limit.toNat :=
              fun larger => large (UInt64.lt_iff_toNat_lt.mpr larger)
            rw [if_neg large, if_neg notLarge]
            -- The largest sum is that of the end of the buffer, the largest length and two.
            exact payload_agrees (by omega)
    · rw [if_neg isMarker, if_neg isMarker]
      exact .refused _

/-- The elements from a position on are those from the cursor on. -/
theorem elements_agrees (limit : UInt64) (short : buffer.length < 2 ^ 63 - 1)
    (found : List Value) (remaining : Nat) (inside : start.toNat ≤ buffer.length) :
    Agrees buffer (elements limit buffer found remaining start)
      ((cursorAt buffer start).elements limit.toNat found remaining) := by
  induction remaining generalizing start found with
  | zero => exact .complete _ start inside
  | succ remaining inductionHypothesis =>
    rw [Cursor.elements_succ]
    exact (element_agrees limit short).andThen fun value next further _ =>
      inductionHypothesis (value :: found) further

/-- The array behind its marker is that at the cursor behind the marker. -/
theorem array_agrees (limit : UInt64) (short : buffer.length < 2 ^ 63 - 1)
    (present : 0 < buffer.length) :
    Agrees buffer (array limit buffer) ((cursorAt buffer 1).array limit.toNat) := by
  have inside : (1 : UInt64).toNat ≤ buffer.length := present
  refine (length_agrees (by omega) inside).andThen fun count body further declared => ?_
  have notAbove := length_lt declared
  by_cases absent : count = -1
  · rw [if_pos absent, if_pos absent]
    exact .complete Value.null body further
  · rw [if_neg absent, if_neg absent]
    by_cases outOfRange : count < 0 ∨ count > maxElements
    · rw [if_pos outOfRange, if_pos outOfRange]
      exact .refused _
    · obtain ⟨number, rfl⟩ := Int.eq_ofNat_of_zero_le (Int.not_lt.mp fun negative =>
        outOfRange (.inl negative))
      obtain ⟨room, isRoom, _⟩ := position_of_lt (show number < 2 ^ 64 by omega)
      rw [if_neg outOfRange, if_neg outOfRange, isRoom, ok_bind]
      exact elements_agrees limit short [] _ further

/-- The line at the front is the line at the first cursor. -/
theorem inline_agrees (short : buffer.length < 2 ^ 63 - 1) :
    Agrees buffer (inline buffer) (Cursor.start buffer).inline := by
  have ahead : (Cursor.start buffer).ahead = buffer := rfl
  unfold inline Cursor.inline
  rw [ahead]
  cases ended : buffer.findIdx? (· == 0x0a) with
  | none => exact .incomplete
  | some length =>
    have bound : length < buffer.length := (List.findIdx?_eq_some_iff_getElem.mp ended).1
    obtain ⟨stop, isStop, stopValue⟩ := position_of_lt (show length < 2 ^ 64 by omega)
    have line : slice buffer 0 stop = .ok (buffer.take length) := slice_front stopValue bound.le
    obtain ⟨next, isNext, nextValue⟩ :=
      add_of_lt (show (1 : UInt64).toNat = 1 from rfl) (show stop.toNat + 1 < 2 ^ 64 by omega)
    dsimp only
    rw [isStop, ok_bind, line, ok_bind]
    cases Utf8.decode (Cursor.withoutReturn (buffer.take length)) with
    | error fault => exact .refused _
    | ok text =>
      dsimp only
      cases Cursor.wordValues text with
      | nil => exact .refused _
      | cons word words =>
        have moved : next.toNat = (0 : UInt64).toNat + (length + 1) := by
          rw [UInt64.toNat_zero]
          omega
        dsimp only
        have start : Cursor.start buffer = cursorAt buffer 0 := by
          simp only [Cursor.start, cursorAt, UInt64.toNat_zero, List.drop_zero]
        rw [isNext, ok_bind, start, skip_cursorAt moved]
        exact .complete _ next (by omega)

/-- The decoders agree about every buffer that is short enough. -/
theorem decode_agrees (limit : UInt64) (short : buffer.length < 2 ^ 63 - 1) :
    Agrees buffer (decode limit buffer) (Request.decode limit.toNat buffer) := by
  cases buffer with
  | nil => exact .incomplete
  | cons first rest =>
    have behind : (Cursor.start (first :: rest)).skip 1 = cursorAt (first :: rest) 1 := rfl
    unfold decode Request.decode
    dsimp only
    rw [behind]
    by_cases isArray : first = Value.arrayMarker
    · rw [if_pos isArray, if_pos isArray]
      exact array_agrees limit short (Nat.zero_lt_succ _)
    · rw [if_neg isArray, if_neg isArray]
      by_cases isReply : isReplyMarker first = true
      · rw [if_pos isReply, if_pos isReply]
        exact .refused _
      · rw [if_neg isReply, if_neg isReply]
        exact inline_agrees short

end Indexed

/-- Whatever lengths are declared in a buffer of less than 2⁶³ - 1 bytes, and under every limit of
64 bits, all sums of positions are positions, all slices lie in the buffer, and no declared length
is changed where it becomes a position: the decoder with positions answers what the decoder on
cursors answers. What it has read lies in the buffer. -/
theorem positions_never_break (limit : UInt64) (buffer : List UInt8)
    (short : buffer.length < 2 ^ 63 - 1) :
    Indexed.decode limit buffer = .ok (.of (decode limit.toNat buffer)) ∧
      ∀ value next, decode limit.toNat buffer = .complete value next →
        next.position ≤ buffer.length ∧ next.ahead = buffer.drop next.position := by
  have agrees := Indexed.decode_agrees limit short
  exact ⟨agrees.eq_of, fun value next read => agrees.inside read⟩

/-- A bulk string of the largest length that can be declared is waited for. -/
theorem largest_length_is_awaited :
    ([0x2a, 0x31, 0x0d, 0x0a, 0x24, 0x39, 0x32, 0x32, 0x33, 0x33, 0x37, 0x32, 0x30, 0x33, 0x36,
        0x38, 0x35, 0x34, 0x37, 0x37, 0x35, 0x38, 0x30, 0x37, 0x0d, 0x0a] : List UInt8).length <
      2 ^ 63 - 1 ∧
    Indexed.decode 0xffffffffffffffff [0x2a, 0x31, 0x0d, 0x0a, 0x24, 0x39, 0x32, 0x32, 0x33, 0x33,
        0x37, 0x32, 0x30, 0x33, 0x36, 0x38, 0x35, 0x34, 0x37, 0x37, 0x35, 0x38, 0x30, 0x37, 0x0d,
        0x0a] = .ok .incomplete :=
  ⟨by decide, (positions_never_break 0xffffffffffffffff _ (by decide)).1.trans (by decide)⟩

/-! ### A buffer that is one byte longer -/

namespace Indexed

variable {zeros : Nat}

/-- The largest signed number of 64 bits, with zeros in front. -/
def longLine (zeros : Nat) : List UInt8 :=
  List.replicate zeros 0x30 ++ Decimal.digits (2 ^ 63 - 1)

/-- The head of a request for one bulk string, and a length line for the largest length. -/
def longBuffer (zeros : Nat) : List UInt8 :=
  Value.arrayMarker :: 0x31 :: 0x0d :: 0x0a :: Value.bulkMarker :: (longLine zeros ++ [0x0d, 0x0a])

/-- Zeros in front of a number can be of any length. -/
theorem longLine_declares : Decimal.read Decimal.int64 (longLine zeros) = .ok (2 ^ 63 - 1) := by
  have fromZero : Decimal.numeralFrom 0 (List.replicate zeros 0x30) = 0 := by
    induction zeros with
    | zero => rfl
    | succ zeros inductionHypothesis => exact inductionHypothesis
  have value : Decimal.numeral (longLine zeros) = 2 ^ 63 - 1 := by
    rw [Decimal.numeral, Decimal.numeralFrom, longLine, List.foldl_append]
    exact (congrArg (Decimal.numeralFrom · _) fromZero).trans (Decimal.isNumeral_digits _).2
  have shape : Decimal.IsNumeral (longLine zeros) := by
    refine ⟨?_, fun digit isDigit => ?_⟩
    · exact List.append_ne_nil_of_right_ne_nil _ (Decimal.digits_ne_nil _)
    · obtain isZero | isDigit := List.mem_append.mp isDigit
      · rw [List.eq_of_mem_replicate isZero]
        exact ⟨by decide, by decide⟩
      · exact (Decimal.isNumeral_digits _).1.2 digit isDigit
  have literal := Decimal.IsLiteral.unsigned (longLine zeros) shape
    (show _ ≤ Decimal.int64.above by rw [value]; decide)
  rw [value] at literal
  exact (Decimal.read_eq_ok_iff _ _ _).mpr literal

/-- A length line at a position is read as the length that it declares. -/
theorem length_of_line {buffer line rest : List UInt8} {start : UInt64} {declared : Int}
    (short : buffer.length < 2 ^ 64)
    (split : buffer.drop start.toNat = line ++ 0x0d :: 0x0a :: rest)
    (reads : Decimal.read Decimal.int64 line = .ok declared) :
    length buffer start =
      .ok (.complete declared (UInt64.ofNat (start.toNat + (line.length + 2)))) := by
  have isLine := unended_of_no_return line
    ((Decimal.read_eq_ok_iff _ _ _).mp reads).no_return
  have atCursor : (cursorAt buffer start).length =
      .complete declared ⟨start.toNat + (line.length + 2), rest⟩ := by
    rw [cursorAt, split]
    exact Cursor.length_line _ line rest declared isLine reads
  have inside : start.toNat ≤ buffer.length := by
    by_contra beyond
    rw [List.drop_of_length_le (by omega)] at split
    simp at split
  rw [(length_agrees short inside).eq_of, atCursor]
  rfl

/-- The end of the buffer, the largest length and two make one more than there are positions. -/
theorem decode_longBuffer (size : (longBuffer zeros).length = 2 ^ 63 - 1) :
    decode 0xffffffffffffffff (longBuffer zeros) = .error (.overflow 0xfffffffffffffffe 2) := by
  have short : (longBuffer zeros).length < 2 ^ 64 := by omega
  have head := length_of_line short
    (show (longBuffer zeros).drop (1 : UInt64).toNat = [0x31] ++ 0x0d :: 0x0a :: _ from rfl)
    (show Decimal.read Decimal.int64 [0x31] = .ok 1 by decide)
  have body := length_of_line short
    (show (longBuffer zeros).drop (5 : UInt64).toNat = longLine zeros ++ 0x0d :: 0x0a :: []
      from rfl)
    longLine_declares
  have behind : (5 : UInt64).toNat + ((longLine zeros).length + 2) = 2 ^ 63 - 1 := by
    rw [← size, longBuffer]
    simp only [List.length_cons, List.length_append, List.length_nil]
    change 5 + _ = _
    omega
  rw [behind] at body
  have element : element 0xffffffffffffffff (longBuffer zeros) 4 =
      .error (.overflow 0xfffffffffffffffe 2) := by
    have marker : (longBuffer zeros)[(4 : UInt64).toNat]? = some Value.bulkMarker := rfl
    have line : add 4 1 = .ok 5 := rfl
    unfold Indexed.element
    rw [marker]
    dsimp only
    rw [if_pos rfl, line, ok_bind, body]
    rfl
  have array : decode 0xffffffffffffffff (longBuffer zeros) =
      array 0xffffffffffffffff (longBuffer zeros) := rfl
  rw [array, Indexed.array, head, ok_bind]
  change (do (← Indexed.element 0xffffffffffffffff (longBuffer zeros) 4).andThen _) = _
  rw [element]
  rfl

/-- The number has nineteen digits, and there are seven other bytes. -/
theorem length_longBuffer (zeros : Nat) : (longBuffer zeros).length = zeros + 26 := by
  have digits : (Decimal.digits (2 ^ 63 - 1)).length = 19 := by decide
  simp only [longBuffer, longLine, List.length_cons, List.length_append, List.length_replicate,
    List.length_nil, digits]

end Indexed

/-- In a buffer of 2⁶³ - 1 bytes a sum can be too large for a position. -/
theorem positions_break_behind_bound :
    ∃ buffer : List UInt8, buffer.length = 2 ^ 63 - 1 ∧
      Indexed.decode 0xffffffffffffffff buffer = .error (.overflow 0xfffffffffffffffe 2) :=
  have size := Indexed.length_longBuffer (2 ^ 63 - 27)
  ⟨_, size, Indexed.decode_longBuffer size⟩

end KeyValueServer.Request
