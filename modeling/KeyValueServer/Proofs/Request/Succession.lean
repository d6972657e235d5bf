import KeyValueServer.Proofs.Request.Extent

/-!
# Requests one behind the other

A request that was read is delimited: its bytes alone say what it is and where it ends. Nothing
behind them has a say in it, and no front of them is read as a request.

A sequence of requests inherits this. `Takes` says which requests lie one behind the other at the
front of a buffer; their number has no bound but the length of the buffer. `decodeAll` takes every
one of them, and a buffer may be cut behind any of them: both halves, one after the other, give the
requests of the whole.
-/

namespace KeyValueServer.Request

variable {limit : Nat} {buffer rest : List UInt8} {value : Value} {next : Cursor}
  {requests : List (Value × Nat)} {outcome : Progress Value}

/-- A request of `size` bytes at the front of a buffer, read from these bytes and no others. -/
structure Delimited (limit : Nat) (buffer : List UInt8) (value : Value) (size : Nat) : Prop where
  positive : 0 < size
  inside : size ≤ buffer.length
  /-- Bytes behind the buffer change neither the value nor its size. -/
  followed : ∀ more, decode limit (buffer ++ more) =
    .complete value ⟨size, (buffer ++ more).drop size⟩
  /-- The bytes of the request are enough. -/
  alone : decode limit (buffer.take size) = .complete value ⟨size, []⟩
  /-- Fewer bytes hold no request, neither this one nor another. -/
  earliest : ∀ shorter < size, ∀ other behind,
    decode limit (buffer.take shorter) ≠ .complete other behind

/-- Every request that is read is delimited, and it leaves the bytes behind it. -/
theorem delimited_of_complete (read : decode limit buffer = .complete value next) :
    Delimited limit buffer value next.position ∧ next.ahead = buffer.drop next.position := by
  obtain ⟨written, long, split, size, same⟩ := decode_extent read
  have inside : written.length ≤ buffer.length := by
    rw [split, List.length_append]
    exact Nat.le_add_right _ _
  have front : buffer.take written.length = written := by
    rw [split, List.take_left]
  have behind : next.ahead = buffer.drop written.length := by
    rw [split, List.drop_left]
  rw [size]
  refine ⟨⟨by omega, inside, fun more => ?_, ?_, ?_⟩, behind⟩
  · rw [List.drop_append_of_le_length inside, ← behind, split, List.append_assoc]
    exact same (next.ahead ++ more)
  · rw [front]
    have alone := same []
    rw [List.append_nil] at alone
    exact alone
  · intro shorter before other early found
    obtain ⟨begun, _, cut, _, again⟩ := decode_extent found
    -- A request in fewer bytes would be the request of the whole buffer, and as short there.
    have whole := again (early.ahead ++ buffer.drop shorter)
    rw [← List.append_assoc, ← cut, List.take_append_drop, read] at whole
    obtain ⟨_, position⟩ := Progress.complete.inj whole
    have ends : written.length = begun.length := size.symm.trans (congrArg Cursor.position position)
    have lengths := congrArg List.length cut
    rw [List.length_take, List.length_append] at lengths
    omega

/-- Requests with their sizes that lie one behind the other at the front of a buffer, and the bytes
that they leave. -/
inductive Takes (limit : Nat) : List UInt8 → List (Value × Nat) → List UInt8 → Prop
  | nothing (buffer : List UInt8) : Takes limit buffer [] buffer
  | another (buffer : List UInt8) (value : Value) (next : Cursor) (requests : List (Value × Nat))
      (rest : List UInt8) (first : decode limit buffer = .complete value next)
      (others : Takes limit next.ahead requests rest) :
      Takes limit buffer ((value, next.position) :: requests) rest

/-- The number of bytes of several requests. -/
def totalSize (requests : List (Value × Nat)) : Nat := (requests.map Prod.snd).sum

namespace Takes

/-- Requests make up the front of the buffer, and they lie in these bytes also when nothing follows
them. Each has at least two bytes. -/
theorem extent (takes : Takes limit buffer requests rest) :
    ∃ written, buffer = written ++ rest ∧ written.length = totalSize requests ∧
      2 * requests.length ≤ written.length ∧ Takes limit written requests [] := by
  induction takes with
  | nothing buffer => exact ⟨[], rfl, rfl, Nat.le_refl _, .nothing []⟩
  | another buffer value next requests rest first _ inductionHypothesis =>
    obtain ⟨others, split, size, several, takes⟩ := inductionHypothesis
    obtain ⟨written, long, whole, position, same⟩ := decode_extent first
    refine ⟨written ++ others, ?_, ?_, ?_, ?_⟩
    · rw [List.append_assoc, ← split, ← whole]
    · rw [List.length_append, size, totalSize, totalSize, List.map_cons, List.sum_cons, position]
    · rw [List.length_append, List.length_cons]
      omega
    · have again : decode limit (written ++ others) =
          .complete value ⟨next.position, others⟩ := by
        rw [position]
        exact same others
      exact .another _ value ⟨next.position, others⟩ requests [] again takes

/-- The number of requests is bounded by the number of bytes. -/
theorem length_le (takes : Takes limit buffer requests rest) :
    requests.length ≤ buffer.length := by
  obtain ⟨written, split, _, several, _⟩ := takes.extent
  rw [split, List.length_append]
  omega

/-- A sequence of requests is taken in two parts, wherever it is split. -/
theorem split {earlier later : List (Value × Nat)}
    (takes : Takes limit buffer (earlier ++ later) rest) :
    ∃ middle, Takes limit buffer earlier middle ∧ Takes limit middle later rest := by
  induction earlier generalizing buffer with
  | nil => exact ⟨buffer, .nothing buffer, takes⟩
  | cons request earlier inductionHypothesis =>
    cases takes with
    | another _ value next _ _ first others =>
      obtain ⟨middle, front, back⟩ := inductionHypothesis others
      exact ⟨middle, .another buffer value next earlier middle first front, back⟩

/-- Two sequences of requests from one buffer, each with nothing to take behind it, are the same. -/
theorem unique {other : List (Value × Nat)} {left : List UInt8}
    (takes : Takes limit buffer requests rest)
    (last : ∀ value next, decode limit rest ≠ .complete value next)
    (takesToo : Takes limit buffer other left)
    (lastToo : ∀ value next, decode limit left ≠ .complete value next) :
    requests = other ∧ rest = left := by
  induction takes generalizing other with
  | nothing buffer =>
    cases takesToo with
    | nothing => exact ⟨rfl, rfl⟩
    | another _ value next _ _ first _ => exact absurd first (last value next)
  | another buffer value next requests rest first _ inductionHypothesis =>
    cases takesToo with
    | nothing => exact absurd first (lastToo value next)
    | another _ _ _ _ _ again others =>
      obtain ⟨rfl, rfl⟩ := Progress.complete.inj (first.symm.trans again)
      obtain ⟨rfl, rfl⟩ := inductionHypothesis last others
      exact ⟨rfl, rfl⟩

end Takes

/-- With a step for every byte, requests are taken until none is left in front. -/
theorem decodeAllFrom_takes (limit : Nat) (found : List (Value × Nat)) (fuel : Nat)
    (buffer : List UInt8) (enough : buffer.length ≤ fuel) :
    ∃ requests rest, Takes limit buffer requests rest ∧
      (∀ value next, decode limit rest ≠ .complete value next) ∧
      decodeAllFrom limit found fuel buffer =
        (found.reverse ++ requests, rest, decode limit rest) := by
  induction fuel generalizing found buffer with
  | zero =>
    obtain rfl := List.eq_nil_of_length_eq_zero (Nat.le_zero.mp enough)
    refine ⟨[], [], .nothing [], nofun, ?_⟩
    rw [List.append_nil]
    rfl
  | succ fuel inductionHypothesis =>
    cases front : decode limit buffer with
    | incomplete =>
      refine ⟨[], buffer, .nothing buffer, ?_, ?_⟩
      · rw [front]
        exact nofun
      · rw [List.append_nil, front]
        simp only [decodeAllFrom, front]
    | refused error =>
      refine ⟨[], buffer, .nothing buffer, ?_, ?_⟩
      · rw [front]
        exact nofun
      · rw [List.append_nil, front]
        simp only [decodeAllFrom, front]
    | complete value next =>
      obtain ⟨delimited, behind⟩ := delimited_of_complete front
      have shorter : next.ahead.length ≤ fuel := by
        have positive := delimited.positive
        have inside := delimited.inside
        rw [behind, List.length_drop]
        omega
      obtain ⟨requests, rest, takes, last, reached⟩ :=
        inductionHypothesis ((value, next.position) :: found) next.ahead shorter
      refine ⟨_, rest, .another buffer value next requests rest front takes, last, ?_⟩
      rw [List.reverse_cons, List.append_assoc, List.singleton_append] at reached
      rw [← reached]
      simp only [decodeAllFrom, front]

/-- Decoding a whole buffer finds the requests that can be taken from it one behind the other until
none is left in front, and why none follows. -/
theorem decodeAll_eq_iff :
    decodeAll limit buffer = (requests, rest, outcome) ↔
      Takes limit buffer requests rest ∧ decode limit rest = outcome ∧
        ∀ value next, outcome ≠ .complete value next := by
  obtain ⟨found, left, takes, last, reached⟩ :=
    decodeAllFrom_takes limit [] buffer.length buffer (Nat.le_refl _)
  rw [List.reverse_nil, List.nil_append] at reached
  rw [decodeAll, reached]
  constructor
  · intro same
    obtain ⟨rfl, rest_⟩ := Prod.mk.inj same
    obtain ⟨rfl, rfl⟩ := Prod.mk.inj rest_
    exact ⟨takes, rfl, last⟩
  · rintro ⟨takesToo, rfl, lastToo⟩
    obtain ⟨rfl, rfl⟩ := takes.unique last takesToo lastToo
    rfl

/-- Behind any of its requests a buffer can be cut: the front holds the requests up to there and
nothing else, and the back holds the others with what follows them. -/
theorem decodeAll_cut {earlier later : List (Value × Nat)}
    (whole : decodeAll limit buffer = (earlier ++ later, rest, outcome)) :
    decodeAll limit (buffer.take (totalSize earlier)) = (earlier, [], .incomplete) ∧
      decodeAll limit (buffer.drop (totalSize earlier)) = (later, rest, outcome) := by
  obtain ⟨takes, reached, last⟩ := decodeAll_eq_iff.mp whole
  obtain ⟨middle, front, back⟩ := takes.split
  obtain ⟨written, cut, size, _, alone⟩ := front.extent
  rw [← size, cut, List.take_left, List.drop_left]
  exact ⟨decodeAll_eq_iff.mpr ⟨alone, rfl, nofun⟩, decodeAll_eq_iff.mpr ⟨back, reached, last⟩⟩

/-- A request that is read takes up at least one byte, and only its own bytes decide what it is and
where it ends. So requests are taken from a buffer at most once for each of its bytes until none is
left in front, and a buffer that is cut behind one of them holds the same requests in its two parts
as in one piece. -/
theorem requests_are_local (limit : Nat) (buffer : List UInt8) :
    (∀ value next, decode limit buffer = .complete value next →
        Delimited limit buffer value next.position ∧ next.ahead = buffer.drop next.position) ∧
      (∀ requests rest, Takes limit buffer requests rest → requests.length ≤ buffer.length) ∧
      (∃ requests rest outcome, decodeAll limit buffer = (requests, rest, outcome) ∧
        Takes limit buffer requests rest ∧ outcome = decode limit rest ∧
        ∀ value next, outcome ≠ .complete value next) ∧
      ∀ earlier later rest outcome,
        decodeAll limit buffer = (earlier ++ later, rest, outcome) →
          decodeAll limit (buffer.take (totalSize earlier)) = (earlier, [], .incomplete) ∧
            decodeAll limit (buffer.drop (totalSize earlier)) = (later, rest, outcome) := by
  refine ⟨fun value next read => delimited_of_complete read,
    fun requests rest takes => takes.length_le, ?_,
    fun earlier later rest outcome whole => decodeAll_cut whole⟩
  rcases whole : decodeAll limit buffer with ⟨requests, rest, outcome⟩
  obtain ⟨takes, reached, last⟩ := decodeAll_eq_iff.mp whole
  exact ⟨requests, rest, outcome, rfl, takes, reached.symm, last⟩

/-- A request in array form, one in inline form and the beginning of a third are told apart, and
the buffer can be cut behind the first. -/
theorem two_forms_are_told_apart :
    decodeAll 64 [0x2a, 0x30, 0x0d, 0x0a, 0x78, 0x0a, 0x2a] =
        ([(.array [], 4), (.array [.bulk [0x78]], 2)], [0x2a], .incomplete) ∧
      Delimited 64 [0x2a, 0x30, 0x0d, 0x0a, 0x78, 0x0a, 0x2a] (.array []) 4 ∧
      decodeAll 64 [0x2a, 0x30, 0x0d, 0x0a] = ([(.array [], 4)], [], .incomplete) ∧
      decodeAll 64 [0x78, 0x0a, 0x2a] = ([(.array [.bulk [0x78]], 2)], [0x2a], .incomplete) := by
  have whole : decodeAll 64 [0x2a, 0x30, 0x0d, 0x0a, 0x78, 0x0a, 0x2a] =
      ([(.array [], 4)] ++ [(.array [.bulk [0x78]], 2)], [0x2a], .incomplete) := rfl
  have first : decode 64 [0x2a, 0x30, 0x0d, 0x0a, 0x78, 0x0a, 0x2a] =
      .complete (.array []) ⟨4, [0x78, 0x0a, 0x2a]⟩ := rfl
  obtain ⟨reads, _, _, cuts⟩ :=
    requests_are_local 64 [0x2a, 0x30, 0x0d, 0x0a, 0x78, 0x0a, 0x2a]
  obtain ⟨front, back⟩ := cuts _ _ _ _ whole
  exact ⟨whole, (reads _ _ first).1, front, back⟩

end KeyValueServer.Request
