import KeyValueServer.Proofs.Request.Lines

/-!
# What later bytes can change

A decoder that has decided stays with its decision: more bytes behind the buffer change neither a
value that was read nor the cause of a refusal. Two answers are no decisions in this sense. The
first says that the buffer is incomplete. The second refuses a length line that has not ended
although it is longer than any length needs to be; it speaks about what has arrived, not about the
line, and an end of the line that arrives later can revoke it.

Every decoder is built from smaller ones by continuing where one of them ended. Continuing keeps
the property, so it is proved once for each piece.
-/

namespace KeyValueServer.Request

/-- The refusal of a length line that is too long before it has ended. -/
def overlong : Error := .malformed "length header too long"

/-- The same position in a buffer that holds more bytes at its end. -/
def Cursor.extend (cursor : Cursor) (more : List UInt8) : Cursor :=
  ⟨cursor.position, cursor.ahead ++ more⟩

namespace Progress

variable {α β : Type}

/-- The same outcome in a buffer that holds more bytes at its end. -/
def extend (progress : Progress α) (more : List UInt8) : Progress α :=
  match progress with
  | .incomplete => .incomplete
  | .refused error => .refused error
  | .complete value next => .complete value (next.extend more)

/-- An outcome that does not wait for more bytes, neither openly nor for the end of a line. -/
def Settled (progress : Progress α) : Prop :=
  progress ≠ .incomplete ∧ progress ≠ .refused overlong

/-- A value that was read is settled. -/
theorem settled_complete (value : α) (next : Cursor) : (Progress.complete value next).Settled :=
  ⟨nofun, nofun⟩

/-- Where a decoder goes on behind a value, it settles only what its first part has settled. -/
theorem settled_of_andThen (progress : Progress α) (followUp : α → Cursor → Progress β)
    (settled : (progress.andThen followUp).Settled) : progress.Settled := by
  cases progress with
  | incomplete => exact absurd rfl settled.1
  | refused error =>
    refine ⟨nofun, ?_⟩
    intro same
    have cause : error = overlong := by simpa only [Progress.refused.injEq] using same
    subst cause
    exact settled.2 rfl
  | complete value next => exact settled_complete value next

end Progress

open Progress

/-- A decoder whose decisions do not depend on bytes that arrive later. -/
def Stable {α : Type} (decoder : Cursor → Progress α) : Prop :=
  ∀ (cursor : Cursor) (more : List UInt8), (decoder cursor).Settled →
    decoder (cursor.extend more) = (decoder cursor).extend more

/-- A decoder that goes on behind another one is stable when both parts are. -/
theorem Stable.andThen {α β : Type} {decoder : Cursor → Progress α}
    {followUp : α → Cursor → Progress β} (first : Stable decoder)
    (second : ∀ value, Stable (followUp value)) :
    Stable fun cursor => (decoder cursor).andThen followUp := by
  intro cursor more settled
  have front := first cursor more (settled_of_andThen (decoder cursor) followUp settled)
  dsimp only at settled ⊢
  rw [front]
  cases reached : decoder cursor with
  | incomplete => rfl
  | refused error => rfl
  | complete value next =>
    rw [reached] at settled
    exact second value next more settled

/-- Reading a value without looking at any byte is stable. -/
theorem stable_complete {α : Type} (value : α) : Stable fun cursor => .complete value cursor :=
  fun _ _ _ => rfl

/-- Refusing without looking at any byte is stable. -/
theorem stable_refused {α : Type} (error : Error) :
    Stable fun _ => (.refused error : Progress α) :=
  fun _ _ _ => rfl

/-- A choice that does not depend on the buffer is stable when both its sides are. -/
theorem Stable.choice {α : Type} {left right : Cursor → Progress α} (condition : Prop)
    [Decidable condition] (onTrue : Stable left) (onFalse : Stable right) :
    Stable fun cursor => if condition then left cursor else right cursor := by
  by_cases holds : condition
  · simpa only [holds, ↓reduceIte] using onTrue
  · simpa only [holds, ↓reduceIte] using onFalse

/-- A position further on in a buffer is found by its distance alone. -/
theorem Cursor.skip_extend (cursor : Cursor) (more : List UInt8) (count : Nat)
    (inside : count ≤ cursor.ahead.length) :
    (cursor.extend more).skip count = (cursor.skip count).extend more := by
  simp [Cursor.skip, Cursor.extend, List.drop_append_of_le_length inside]

namespace Cursor

/-- A line that has ended stays the same line. -/
theorem header_stable : Stable header := by
  intro cursor more settled
  unfold header at settled ⊢
  cases found : lineLength? 0 cursor.ahead with
  | some length =>
    have bound := lineLength?_bound cursor.ahead length found
    have longer : lineLength? 0 (cursor.extend more).ahead = some length :=
      lineLength?_append cursor.ahead more length found
    have line : (cursor.extend more).ahead.take length = cursor.ahead.take length :=
      List.take_append_of_le_length (by omega)
    simp only [longer, line, skip_extend cursor more (length + 2) bound]
    rfl
  | none =>
    simp only [found] at settled
    split at settled
    · exact absurd rfl settled.2
    · exact absurd rfl settled.1

/-- A length that was read stays the same length. -/
theorem length_stable : Stable length := by
  apply Stable.andThen header_stable
  intro header cursor more _
  dsimp only
  cases Decimal.read Decimal.int64 header <;> rfl

/-- Bytes whose terminator has arrived, right or wrong, are judged the same way. -/
theorem payload_stable (length : Nat) : Stable fun cursor => cursor.payload length := by
  intro cursor more settled
  dsimp only at settled ⊢
  unfold payload at settled ⊢
  rcases behind : cursor.ahead.drop length with _ | ⟨first, _ | ⟨second, rest⟩⟩
  · simp only [behind] at settled
    exact absurd rfl settled.1
  · simp only [behind] at settled
    exact absurd rfl settled.1
  · have lengths := congrArg List.length behind
    simp only [List.length_drop, List.length_cons] at lengths
    have longer : (cursor.extend more).ahead.drop length = first :: second :: (rest ++ more) := by
      rw [extend, List.drop_append_of_le_length (by omega), behind]
      rfl
    have line : (cursor.extend more).ahead.take length = cursor.ahead.take length :=
      List.take_append_of_le_length (by omega)
    simp only [longer, line, skip_extend cursor more (length + 2) (by omega)]
    split <;> rfl

/-- What follows an element's marker is judged the same way. -/
theorem element_stable (limit : Nat) : Stable (element limit) := by
  intro cursor more settled
  unfold element at settled ⊢
  rcases ahead : cursor.ahead with _ | ⟨marker, rest⟩
  · simp only [ahead] at settled
    exact absurd rfl settled.1
  · have longer : (cursor.extend more).ahead = marker :: (rest ++ more) := by
      rw [extend, ahead]
      rfl
    have behind : (cursor.extend more).skip 1 = (cursor.skip 1).extend more :=
      skip_extend cursor more 1 (by simp [ahead])
    simp only [ahead] at settled
    simp only [longer, behind]
    split
    · next isBulk =>
      rw [if_pos isBulk] at settled
      refine Stable.andThen length_stable ?_ (cursor.skip 1) more settled
      intro length
      exact Stable.choice _ (stable_complete Value.null) <| Stable.choice _ (stable_refused _) <|
        Stable.choice _ (stable_refused _) (payload_stable length.toNat)
    · rfl

/-- The elements of a request are judged one behind the other. -/
theorem elements_stable (limit : Nat) (found : List Value) (remaining : Nat) :
    Stable (elements limit found remaining) := by
  induction remaining generalizing found with
  | zero =>
    intro cursor more _
    rfl
  | succ remaining inductionHypothesis =>
    have steps : elements limit found (remaining + 1) = fun cursor =>
        (cursor.element limit).andThen fun value => elements limit (value :: found) remaining := by
      funext cursor
      simp only [elements]
      cases cursor.element limit <;> rfl
    rw [steps]
    exact Stable.andThen (element_stable limit) fun value => inductionHypothesis (value :: found)

/-- A request in array form is judged the same way. -/
theorem array_stable (limit : Nat) : Stable (array limit) := by
  apply Stable.andThen length_stable
  intro length
  exact Stable.choice _ (stable_complete Value.null) <| Stable.choice _ (stable_refused _) <|
    elements_stable limit [] length.toNat

/-- A line whose LF has arrived is judged the same way. -/
theorem inline_stable : Stable inline := by
  intro cursor more settled
  unfold inline at settled ⊢
  cases found : cursor.ahead.findIdx? (· == 0x0a) with
  | none =>
    simp only [found] at settled
    exact absurd rfl settled.1
  | some length =>
    have inside : length < cursor.ahead.length := (List.findIdx?_eq_some_iff_findIdx_eq.mp found).1
    have longer : (cursor.extend more).ahead.findIdx? (· == 0x0a) = some length := by
      rw [extend, List.findIdx?_append, found]
      rfl
    have line : (cursor.extend more).ahead.take length = cursor.ahead.take length :=
      List.take_append_of_le_length (by omega)
    simp only [longer, line, skip_extend cursor more (length + 1) inside]
    cases Utf8.decode (withoutReturn (cursor.ahead.take length)) with
    | error fault => rfl
    | ok text =>
      dsimp only
      cases wordValues text <;> rfl

end Cursor

/-- A decision about a buffer is the decision about every longer one. -/
theorem decode_append (limit : Nat) (buffer more : List UInt8)
    (settled : (decode limit buffer).Settled) :
    decode limit (buffer ++ more) = (decode limit buffer).extend more := by
  cases buffer with
  | nil => exact absurd rfl settled.1
  | cons first rest =>
    have skipped :=
      Cursor.skip_extend (Cursor.start (first :: rest)) more 1 (by simp [Cursor.start])
    simp only [List.cons_append, decode] at settled ⊢
    split
    · next isArray =>
      rw [if_pos isArray] at settled
      have decided := Cursor.array_stable limit _ more settled
      rw [← skipped] at decided
      exact decided
    · next isNoArray =>
      rw [if_neg isNoArray] at settled
      split
      · rfl
      · next isNoReply =>
        rw [if_neg isNoReply] at settled
        exact Cursor.inline_stable (Cursor.start (first :: rest)) more settled

end KeyValueServer.Request
