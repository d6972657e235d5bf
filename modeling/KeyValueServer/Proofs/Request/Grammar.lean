import KeyValueServer.Proofs.Request.Locality

/-!
# The shape of requests in array form

A request in array form begins with a length line; each of its elements begins with one too. The
relation `Opening` describes the bytes of a head and of some elements behind it, and how many
elements are still to come; `OpenLine` describes the places where a length line begins, with the
lengths that may stand there. Both speak about bytes only.

The decoder follows this shape: behind an opening it reads the next element, and at an open line it
reads a length and judges it. Conversely every length line at which the decoder can stop is an open
line in this sense.
-/

namespace KeyValueServer.Request

/-- Bytes that a CR LF behind them ends as one line. -/
def IsLine (line : List UInt8) : Prop := lineLength? 0 (line ++ [0x0d]) = none

/-- The lengths that the head of an array may declare. -/
def IsArrayLength (length : Int) : Prop := length = -1 ∨ 0 ≤ length ∧ length ≤ maxElements

/-- The lengths that a bulk string may declare. -/
def IsBulkLength (limit : Nat) (length : Int) : Prop := length = -1 ∨ 0 ≤ length ∧ length ≤ limit

/-- The bytes of a head and of some elements, with the number of elements to come. -/
inductive Opening (limit : Nat) : List UInt8 → Nat → Prop
  /-- The head alone, which declares every element. -/
  | head (line : List UInt8) (count : Nat) (isLine : IsLine line)
      (declared : Decimal.read Decimal.int64 line = .ok (count : Int))
      (few : count ≤ maxElements) :
      Opening limit (Value.arrayMarker :: (line ++ Value.crlf)) count
  /-- An absent value behind what was there. -/
  | absent (front line : List UInt8) (remaining : Nat)
      (opening : Opening limit front (remaining + 1)) (isLine : IsLine line)
      (declared : Decimal.read Decimal.int64 line = .ok (-1)) :
      Opening limit (front ++ Value.bulkMarker :: (line ++ Value.crlf)) remaining
  /-- A bulk string behind what was there. -/
  | bulk (front line bytes : List UInt8) (remaining : Nat)
      (opening : Opening limit front (remaining + 1)) (isLine : IsLine line)
      (declared : Decimal.read Decimal.int64 line = .ok (bytes.length : Int))
      (short : bytes.length ≤ limit) :
      Opening limit
        (front ++ Value.bulkMarker :: (line ++ Value.crlf ++ (bytes ++ Value.crlf))) remaining

/-- The bytes up to the beginning of a length line, with the lengths that may stand in it. -/
inductive OpenLine (limit : Nat) : List UInt8 → (Int → Prop) → Prop
  /-- The line of the head. -/
  | array : OpenLine limit [Value.arrayMarker] IsArrayLength
  /-- The line of an element. -/
  | element (front : List UInt8) (remaining : Nat) (opening : Opening limit front (remaining + 1)) :
      OpenLine limit (front ++ [Value.bulkMarker]) (IsBulkLength limit)

/-- What was read behind another value was read where that value was. -/
theorem Progress.exists_of_andThen {α β : Type} {progress : Progress α}
    {followUp : α → Cursor → Progress β} {value : β} {next : Cursor}
    (read : progress.andThen followUp = .complete value next) :
    ∃ first middle, progress = .complete first middle ∧
      followUp first middle = .complete value next := by
  cases progress with
  | incomplete => cases read
  | refused error => cases read
  | complete first middle => exact ⟨first, middle, rfl, read⟩

/-- Continuing twice is continuing once with both steps. -/
theorem Progress.andThen_assoc {α β γ : Type} (progress : Progress α)
    (first : α → Cursor → Progress β) (second : β → Cursor → Progress γ) :
    (progress.andThen first).andThen second =
      progress.andThen fun value next => (first value next).andThen second := by
  cases progress <;> rfl

namespace Cursor

/-- A line is read as far as its CR LF. -/
theorem header_line (position : Nat) (line rest : List UInt8) (isLine : IsLine line) :
    header ⟨position, line ++ 0x0d :: 0x0a :: rest⟩ =
      .complete line ⟨position + (line.length + 2), rest⟩ := by
  have skipped : (line ++ 0x0d :: 0x0a :: rest).drop (line.length + 2) = rest := by
    rw [← List.drop_drop, List.drop_left]
    rfl
  simp only [header, lineLength?_line line rest isLine, List.take_left, skip, skipped]

/-- Reading a line either finds its end, or the bytes ahead hold none. -/
theorem header_cases (cursor : Cursor) :
    (∃ line rest, IsLine line ∧ cursor.ahead = line ++ 0x0d :: 0x0a :: rest) ∨
      lineLength? 0 cursor.ahead = none := by
  cases found : lineLength? 0 cursor.ahead with
  | none => exact .inr rfl
  | some length =>
    left
    obtain ⟨rest, split⟩ := ended_of_lineLength? cursor.ahead length found
    refine ⟨cursor.ahead.take length, rest, ?_, split⟩
    have bound := lineLength?_bound cursor.ahead length found
    cases earlier : lineLength? 0 (cursor.ahead.take length ++ [0x0d]) with
    | none => exact earlier
    | some shorter =>
      have inside := lineLength?_bound _ shorter earlier
      have same := lineLength?_append _ (0x0a :: rest) shorter earlier
      rw [List.append_assoc, List.singleton_append, ← split, found] at same
      simp only [List.length_append, List.length_take, List.length_singleton] at inside
      have equal : length = shorter := by simpa using same
      omega

/-- Reading a length takes a line that reads as an integer. -/
theorem length_line (position : Nat) (line rest : List UInt8) (value : Int) (isLine : IsLine line)
    (declared : Decimal.read Decimal.int64 line = .ok value) :
    length ⟨position, line ++ 0x0d :: 0x0a :: rest⟩ =
      .complete value ⟨position + (line.length + 2), rest⟩ := by
  simp only [length, header_line position line rest isLine, Progress.andThen, declared]

/-- A length line without an end waits for it, until it is too long. -/
theorem length_unended (position : Nat) (ahead : List UInt8)
    (unended : lineLength? 0 ahead = none) :
    length ⟨position, ahead⟩ =
      if ahead.length > headerLimit then .refused overlong else .incomplete := by
  simp only [length, header, unended]
  split <;> rfl

/-- Reading a length has four outcomes: a length, a line that is none, a line that has not ended
and may still, and one that is too long already. -/
theorem length_cases (cursor : Cursor) :
    (∃ line rest value, IsLine line ∧ cursor.ahead = line ++ 0x0d :: 0x0a :: rest ∧
        Decimal.read Decimal.int64 line = .ok value ∧
        cursor.length = .complete value ⟨cursor.position + (line.length + 2), rest⟩) ∨
      (∃ text, cursor.length = .refused (.badLength text)) ∨
      (lineLength? 0 cursor.ahead = none ∧
        cursor.length =
          if cursor.ahead.length > headerLimit then .refused overlong else .incomplete) := by
  rcases header_cases cursor with ⟨line, rest, isLine, split⟩ | unended
  · have same : cursor = ⟨cursor.position, line ++ 0x0d :: 0x0a :: rest⟩ := by rw [← split]
    cases declared : Decimal.read Decimal.int64 line with
    | ok value =>
      refine .inl ⟨line, rest, value, isLine, split, declared, ?_⟩
      rw [same]
      exact length_line cursor.position line rest value isLine declared
    | error fault =>
      refine .inr (.inl ⟨Utf8.decodeLossy line, ?_⟩)
      rw [same]
      simp only [length, header_line cursor.position line rest isLine, Progress.andThen, declared]
  · exact .inr (.inr ⟨unended, length_unended cursor.position cursor.ahead unended⟩)

/-- What is done with the length of an element. -/
def sized (limit : Nat) (length : Int) (body : Cursor) : Progress Value :=
  if length = -1 then .complete .null body
  else if length < 0 then .refused (.bulkLength length)
  else if length.toNat > limit then .refused (.tooLarge length.toNat limit)
  else body.payload length.toNat

/-- An element begins with its marker, and its length decides on the rest. -/
theorem element_cons (limit position : Nat) (marker : UInt8) (rest : List UInt8) :
    element limit ⟨position, marker :: rest⟩ =
      if marker = Value.bulkMarker then (length ⟨position + 1, rest⟩).andThen (sized limit)
      else .refused (.notBulk marker) := rfl

/-- Bytes with their terminator are read as they are. -/
theorem payload_line (position : Nat) (bytes rest : List UInt8) :
    payload ⟨position, bytes ++ 0x0d :: 0x0a :: rest⟩ bytes.length =
      .complete (.bulk bytes) ⟨position + (bytes.length + 2), rest⟩ := by
  have skipped : (bytes ++ 0x0d :: 0x0a :: rest).drop (bytes.length + 2) = rest := by
    rw [← List.drop_drop, List.drop_left]
    rfl
  simp [payload, skip, skipped]

/-- Bytes that are read stand ahead with their terminator; otherwise they are refused or have not
arrived. -/
theorem payload_cases (cursor : Cursor) (length : Nat) :
    (∃ bytes rest, bytes.length = length ∧ cursor.ahead = bytes ++ 0x0d :: 0x0a :: rest ∧
        cursor.payload length =
          .complete (.bulk bytes) ⟨cursor.position + (length + 2), rest⟩) ∨
      cursor.payload length = .refused (.malformed "bulk string missing trailing CRLF") ∨
      cursor.payload length = .incomplete := by
  unfold payload
  split
  · next first second rest behind =>
    by_cases ended : first = 0x0d ∧ second = 0x0a
    · obtain ⟨rfl, rfl⟩ := ended
      have lengths := congrArg List.length behind
      simp only [List.length_drop, List.length_cons] at lengths
      have split : cursor.ahead = cursor.ahead.take length ++ 0x0d :: 0x0a :: rest := by
        rw [← behind, List.take_append_drop]
      have skipped : cursor.ahead.drop (length + 2) = rest := by
        rw [← List.drop_drop, behind]
        rfl
      refine .inl ⟨cursor.ahead.take length, rest, ?_, split, ?_⟩
      · rw [List.length_take]
        omega
      · simp [skip, skipped]
    · exact .inr (.inl (if_neg ended))
  · exact .inr (.inr rfl)

/-- A length leads to the absent value, to a bulk string of that length, to a refusal for a reason
other than an open line, or to waiting. -/
theorem sized_cases (limit : Nat) (length : Int) (body : Cursor) :
    (length = -1 ∧ sized limit length body = .complete .null body) ∨
      (∃ bytes rest, length = (bytes.length : Int) ∧ bytes.length ≤ limit ∧
        body.ahead = bytes ++ 0x0d :: 0x0a :: rest ∧
        sized limit length body =
          .complete (.bulk bytes) ⟨body.position + (bytes.length + 2), rest⟩) ∨
      (∃ error, error ≠ overlong ∧ sized limit length body = .refused error) ∨
      sized limit length body = .incomplete := by
  unfold sized
  by_cases absent : length = -1
  · exact .inl ⟨absent, if_pos absent⟩
  right
  rw [if_neg absent]
  by_cases negative : length < 0
  · exact .inr (.inl ⟨.bulkLength length, nofun, if_pos negative⟩)
  rw [if_neg negative]
  by_cases large : length.toNat > limit
  · exact .inr (.inl ⟨.tooLarge length.toNat limit, nofun, if_pos large⟩)
  rw [if_neg large]
  rcases payload_cases body length.toNat with ⟨bytes, rest, size, held, taken⟩ | taken | taken
  · refine .inl ⟨bytes, rest, by omega, by omega, held, ?_⟩
    rw [taken, size]
  · exact .inr (.inl ⟨_, by decide, taken⟩)
  · exact .inr (.inr taken)

/-- The elements are read one behind the other. -/
theorem elements_succ (limit : Nat) (found : List Value) (remaining : Nat) (cursor : Cursor) :
    elements limit found (remaining + 1) cursor =
      (cursor.element limit).andThen fun value => elements limit (value :: found) remaining := by
  simp only [elements]
  cases cursor.element limit <;> rfl

/-- An absent value is read from its line. -/
theorem element_absent (limit position : Nat) (line rest : List UInt8) (isLine : IsLine line)
    (declared : Decimal.read Decimal.int64 line = .ok (-1)) :
    element limit ⟨position, Value.bulkMarker :: (line ++ 0x0d :: 0x0a :: rest)⟩ =
      .complete .null ⟨position + 1 + (line.length + 2), rest⟩ := by
  rw [element_cons, if_pos rfl, length_line _ line rest _ isLine declared]
  rfl

/-- A bulk string is read from its line and its bytes. -/
theorem element_bulk (limit position : Nat) (line bytes rest : List UInt8) (isLine : IsLine line)
    (declared : Decimal.read Decimal.int64 line = .ok (bytes.length : Int))
    (short : bytes.length ≤ limit) :
    element limit
        ⟨position, Value.bulkMarker ::
          (line ++ 0x0d :: 0x0a :: (bytes ++ 0x0d :: 0x0a :: rest))⟩ =
      .complete (.bulk bytes)
        ⟨position + 1 + (line.length + 2) + (bytes.length + 2), rest⟩ := by
  rw [element_cons, if_pos rfl, length_line _ line _ _ isLine declared]
  have notAbsent : ¬ (bytes.length : Int) = -1 := by omega
  have notNegative : ¬ (bytes.length : Int) < 0 := by omega
  have notLarge : ¬ (bytes.length : Int).toNat > limit := by omega
  simp only [Progress.andThen, sized, notAbsent, notNegative, notLarge, ↓reduceIte]
  exact payload_line _ bytes rest

/-- An element that is read is the marker with a line for the absent value, or the marker with a
length and that many bytes. Otherwise it is refused for a reason that no later byte takes away, or
its line is open, or it has not arrived. -/
theorem element_cases (limit : Nat) (cursor : Cursor) :
    (∃ line rest, IsLine line ∧ Decimal.read Decimal.int64 line = .ok (-1) ∧
        cursor.ahead = Value.bulkMarker :: (line ++ 0x0d :: 0x0a :: rest) ∧
        cursor.element limit =
          .complete .null ⟨cursor.position + 1 + (line.length + 2), rest⟩) ∨
      (∃ line bytes rest, IsLine line ∧
        Decimal.read Decimal.int64 line = .ok (bytes.length : Int) ∧ bytes.length ≤ limit ∧
        cursor.ahead = Value.bulkMarker ::
          (line ++ 0x0d :: 0x0a :: (bytes ++ 0x0d :: 0x0a :: rest)) ∧
        cursor.element limit = .complete (.bulk bytes)
          ⟨cursor.position + 1 + (line.length + 2) + (bytes.length + 2), rest⟩) ∨
      (∃ error, error ≠ overlong ∧ cursor.element limit = .refused error) ∨
      (∃ line, lineLength? 0 line = none ∧ cursor.ahead = Value.bulkMarker :: line ∧
        cursor.element limit =
          if line.length > headerLimit then .refused overlong else .incomplete) ∨
      cursor.element limit = .incomplete := by
  obtain ⟨position, _ | ⟨marker, tail⟩⟩ := cursor
  · exact .inr (.inr (.inr (.inr rfl)))
  rw [element_cons]
  by_cases isBulk : marker = Value.bulkMarker
  · subst isBulk
    rw [if_pos rfl]
    rcases length_cases ⟨position + 1, tail⟩ with
      ⟨line, rest, declared, isLine, split, read, reached⟩ | ⟨text, reached⟩ | ⟨unended, reached⟩
    · dsimp only at split reached
      rw [reached, split]
      rcases sized_cases limit declared ⟨position + 1 + (line.length + 2), rest⟩ with
        ⟨rfl, taken⟩ | ⟨bytes, behind, rfl, short, held, taken⟩ | ⟨error, other, taken⟩ | taken
      · exact .inl ⟨line, rest, isLine, read, rfl, taken⟩
      · dsimp only at held
        rw [held]
        exact .inr (.inl ⟨line, bytes, behind, isLine, read, short, rfl, held ▸ taken⟩)
      · exact .inr (.inr (.inl ⟨error, other, taken⟩))
      · exact .inr (.inr (.inr (.inr taken)))
    · rw [reached]
      exact .inr (.inr (.inl ⟨.badLength text, nofun, rfl⟩))
    · rw [reached]
      refine .inr (.inr (.inr (.inl ⟨tail, unended, rfl, ?_⟩)))
      dsimp only
      split <;> rfl
  · rw [if_neg isBulk]
    exact .inr (.inr (.inl ⟨.notBulk marker, nofun, rfl⟩))

end Cursor

/-- What is done with the length in the head of an array. -/
def counted (limit : Nat) (length : Int) (body : Cursor) : Progress Value :=
  if length = -1 then .complete .null body
  else if length < 0 ∨ length > maxElements then .refused (.arrayLength length)
  else body.elements limit [] length.toNat

/-- An array begins with its marker, and its length decides on the rest. -/
theorem decode_array (limit : Nat) (rest : List UInt8) :
    decode limit (Value.arrayMarker :: rest) =
      (Cursor.length ⟨1, rest⟩).andThen (counted limit) := rfl

/-- Behind an opening the decoder reads the elements to come. -/
theorem Opening.decode_append (limit : Nat) (front : List UInt8) (remaining : Nat)
    (opening : Opening limit front remaining) :
    ∃ found, ∀ rest, decode limit (front ++ rest) =
      Cursor.elements limit found remaining ⟨front.length, rest⟩ := by
  induction opening with
  | head line count isLine declared few =>
    refine ⟨[], fun rest => ?_⟩
    have split : Value.arrayMarker :: (line ++ Value.crlf) ++ rest =
        Value.arrayMarker :: (line ++ 0x0d :: 0x0a :: rest) := by simp [Value.crlf]
    have notAbsent : ¬ (count : Int) = -1 := by omega
    have inRange : ¬ ((count : Int) < 0 ∨ (count : Int) > maxElements) := by omega
    rw [split, decode_array, Cursor.length_line 1 line rest _ isLine declared]
    simp only [Progress.andThen, counted, notAbsent, inRange, ↓reduceIte, Int.toNat_natCast]
    congr 2
    simp [Value.crlf]
    omega
  | absent front line remaining _ isLine declared inductionHypothesis =>
    obtain ⟨found, follows⟩ := inductionHypothesis
    refine ⟨.null :: found, fun rest => ?_⟩
    have split : front ++ Value.bulkMarker :: (line ++ Value.crlf) ++ rest =
        front ++ Value.bulkMarker :: (line ++ 0x0d :: 0x0a :: rest) := by simp [Value.crlf]
    rw [split, follows, Cursor.elements_succ,
      Cursor.element_absent limit _ line rest isLine declared]
    simp only [Progress.andThen]
    congr 2
    simp [Value.crlf]
    omega
  | bulk front line bytes remaining _ isLine declared short inductionHypothesis =>
    obtain ⟨found, follows⟩ := inductionHypothesis
    refine ⟨.bulk bytes :: found, fun rest => ?_⟩
    have split :
        front ++ Value.bulkMarker :: (line ++ Value.crlf ++ (bytes ++ Value.crlf)) ++ rest =
          front ++ Value.bulkMarker ::
            (line ++ 0x0d :: 0x0a :: (bytes ++ 0x0d :: 0x0a :: rest)) := by simp [Value.crlf]
    rw [split, follows, Cursor.elements_succ,
      Cursor.element_bulk limit _ line bytes rest isLine declared short]
    simp only [Progress.andThen]
    congr 2
    simp [Value.crlf]
    omega

/-- Where elements are refused as overlong behind an opening, the buffer ends within the length
line of an element. -/
theorem Opening.of_overlong (limit : Nat) (found : List Value) (remaining : Nat)
    (front rest : List UInt8) (opening : Opening limit front remaining)
    (refused : Cursor.elements limit found remaining ⟨front.length, rest⟩ = .refused overlong) :
    ∃ begun accepted line, OpenLine limit begun accepted ∧ front ++ rest = begun ++ line ∧
      lineLength? 0 line = none ∧ headerLimit < line.length := by
  induction remaining generalizing found front rest with
  | zero => cases refused
  | succ remaining inductionHypothesis =>
    rw [Cursor.elements_succ] at refused
    rcases Cursor.element_cases limit ⟨front.length, rest⟩ with
      ⟨line, behind, isLine, declared, split, reached⟩ |
      ⟨line, bytes, behind, isLine, declared, short, split, reached⟩ |
      ⟨error, other, reached⟩ | ⟨line, unended, split, reached⟩ | reached
    · dsimp only at split
      subst split
      rw [reached] at refused
      have next := Opening.absent front line remaining opening isLine declared
      have position : front.length + 1 + (line.length + 2) =
          (front ++ Value.bulkMarker :: (line ++ Value.crlf)).length := by
        simp [Value.crlf]
        omega
      simp only [Progress.andThen, position] at refused
      obtain ⟨begun, accepted, last, openLine, whole, open_⟩ :=
        inductionHypothesis _ _ _ next refused
      refine ⟨begun, accepted, last, openLine, ?_, open_⟩
      rw [← whole]
      simp [Value.crlf]
    · dsimp only at split
      subst split
      rw [reached] at refused
      have next := Opening.bulk front line bytes remaining opening isLine declared short
      have position : front.length + 1 + (line.length + 2) + (bytes.length + 2) =
          (front ++ Value.bulkMarker ::
            (line ++ Value.crlf ++ (bytes ++ Value.crlf))).length := by
        simp [Value.crlf]
        omega
      simp only [Progress.andThen, position] at refused
      obtain ⟨begun, accepted, last, openLine, whole, open_⟩ :=
        inductionHypothesis _ _ _ next refused
      refine ⟨begun, accepted, last, openLine, ?_, open_⟩
      rw [← whole]
      simp [Value.crlf]
    · rw [reached] at refused
      simp only [Progress.andThen, Progress.refused.injEq] at refused
      exact absurd refused other
    · rw [reached] at refused
      dsimp only at split
      by_cases long : line.length > headerLimit
      · refine ⟨_, _, line, OpenLine.element front remaining opening, ?_, unended, long⟩
        rw [split]
        simp
      · rw [if_neg long] at refused
        cases refused
    · rw [reached] at refused
      cases refused

/-- A request in inline form is not refused in the way an overlong length line is. -/
theorem inline_ne_overlong (cursor : Cursor) : cursor.inline ≠ .refused overlong := by
  unfold Cursor.inline
  split
  · exact nofun
  · split
    · exact nofun
    · split
      · decide
      · exact nofun

/-- Where a buffer is refused as overlong, it ends within a length line. -/
theorem openLine_of_overlong (limit : Nat) (buffer : List UInt8)
    (refused : decode limit buffer = .refused overlong) :
    ∃ begun accepted line, OpenLine limit begun accepted ∧ buffer = begun ++ line ∧
      lineLength? 0 line = none ∧ headerLimit < line.length := by
  rcases buffer with _ | ⟨first, rest⟩
  · cases refused
  by_cases isArray : first = Value.arrayMarker
  · subst isArray
    rw [decode_array] at refused
    rcases Cursor.length_cases ⟨1, rest⟩ with
      ⟨line, behind, declared, isLine, split, read, reached⟩ | ⟨text, reached⟩ | ⟨unended, reached⟩
    · dsimp only at split
      rw [reached] at refused
      simp only [Progress.andThen, counted] at refused
      by_cases absent : declared = -1
      · rw [if_pos absent] at refused
        cases refused
      rw [if_neg absent] at refused
      by_cases outside : declared < 0 ∨ declared > maxElements
      · rw [if_pos outside] at refused
        cases refused
      rw [if_neg outside] at refused
      have natural : declared = (declared.toNat : Int) := by omega
      have head : Opening limit (Value.arrayMarker :: (line ++ Value.crlf)) declared.toNat :=
        .head line declared.toNat isLine (by rw [← natural]; exact read) (by omega)
      have position : 1 + (line.length + 2) =
          (Value.arrayMarker :: (line ++ Value.crlf)).length := by
        simp [Value.crlf]
        omega
      rw [position] at refused
      obtain ⟨begun, accepted, last, openLine, whole, open_⟩ :=
        Opening.of_overlong limit [] _ _ behind head refused
      refine ⟨begun, accepted, last, openLine, ?_, open_⟩
      rw [← whole, split]
      simp [Value.crlf]
    · rw [reached] at refused
      cases refused
    · rw [reached] at refused
      by_cases long : rest.length > headerLimit
      · exact ⟨_, _, rest, OpenLine.array, rfl, unended, long⟩
      · rw [if_neg long] at refused
        cases refused
  · simp only [decode, if_neg isArray] at refused
    split at refused
    · cases refused
    · exact absurd refused (inline_ne_overlong _)

/-- At an open line the decoder reads a length. It refuses every length that is not accepted
there, and no accepted one as long as nothing follows it. -/
theorem OpenLine.decode_append (limit : Nat) (begun : List UInt8) (accepted : Int → Prop)
    (openLine : OpenLine limit begun accepted) :
    ∃ followUp : Int → Cursor → Progress Value,
      (∀ tail, decode limit (begun ++ tail) =
        (Cursor.length ⟨begun.length, tail⟩).andThen followUp) ∧
      (∀ length body, ¬ accepted length → ∃ error, followUp length body = .refused error) ∧
      ∀ length position error, accepted length →
        followUp length ⟨position, []⟩ ≠ .refused error := by
  have waits : ∀ found remaining position error,
      Cursor.elements limit found remaining ⟨position, []⟩ ≠ .refused error := by
    intro found remaining position error
    cases remaining <;> exact nofun
  cases openLine with
  | array =>
    refine ⟨counted limit, fun tail => decode_array limit tail, ?_, ?_⟩
    · intro length body outside
      have notAbsent : ¬ length = -1 := fun absent => outside (.inl absent)
      have beyond : length < 0 ∨ length > maxElements := by
        by_contra inRange
        exact outside (.inr ⟨by omega, by omega⟩)
      exact ⟨.arrayLength length, by simp only [counted, notAbsent, beyond, ↓reduceIte]⟩
    · intro length position error inside
      rcases inside with rfl | ⟨natural, few⟩
      · exact nofun
      · have notAbsent : ¬ length = -1 := by omega
        have inRange : ¬ (length < 0 ∨ length > maxElements) := by omega
        simp only [counted, notAbsent, inRange, ↓reduceIte]
        exact waits [] length.toNat position error
  | element front remaining opening =>
    obtain ⟨found, follows⟩ := Opening.decode_append limit front (remaining + 1) opening
    refine ⟨fun length body => (Cursor.sized limit length body).andThen fun value =>
      Cursor.elements limit (value :: found) remaining, ?_, ?_, ?_⟩
    · intro tail
      rw [List.append_assoc, follows, Cursor.elements_succ, List.singleton_append,
        Cursor.element_cons, if_pos rfl, Progress.andThen_assoc]
      simp only [List.length_append, List.length_singleton]
    · intro length body outside
      have notAbsent : ¬ length = -1 := fun absent => outside (.inl absent)
      by_cases negative : length < 0
      · exact ⟨.bulkLength length, by
          simp only [Cursor.sized, notAbsent, negative, ↓reduceIte, Progress.andThen]⟩
      · have large : length.toNat > limit := by
          by_contra short
          exact outside (.inr ⟨by omega, by omega⟩)
        exact ⟨.tooLarge length.toNat limit, by
          simp only [Cursor.sized, notAbsent, negative, large, ↓reduceIte, Progress.andThen]⟩
    · intro length position error inside
      rcases inside with rfl | ⟨natural, short⟩
      · exact waits _ remaining position error
      · have notAbsent : ¬ length = -1 := by omega
        have notNegative : ¬ length < 0 := by omega
        have notLarge : ¬ length.toNat > limit := by omega
        simp only [Cursor.sized, notAbsent, notNegative, notLarge, ↓reduceIte, Cursor.payload,
          List.drop_nil]
        exact nofun

end KeyValueServer.Request
