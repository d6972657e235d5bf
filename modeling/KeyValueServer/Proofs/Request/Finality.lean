import KeyValueServer.Proofs.Request.Framing

/-!
# Whether a refusal is final

A refused buffer should never become the beginning of a request, whatever arrives behind it. With
one exception this holds, and the cause of the refusal does not change either. The exception is a
length line that is refused because it has not ended within the usual number of bytes: when those
bytes read as a length that may stand there, which leading zeros make possible, then the end of the
line revokes the refusal. The answer thus depends on how the bytes were cut.

Main statement: `refusal_revoked_iff` says exactly which buffers are refused and can still become
requests.
-/

namespace KeyValueServer.Request

open Cursor (withoutReturn)

/-- Every refusal but that of an open length line stands, with its cause, whatever arrives. -/
theorem refusal_stands (limit : Nat) (buffer more : List UInt8) (error : Error)
    (refused : decode limit buffer = .refused error) (other : error ≠ overlong) :
    decode limit (buffer ++ more) = .refused error := by
  have settled : (decode limit buffer).Settled := by
    rw [refused]
    exact ⟨nofun, fun same => other (by simpa only [Progress.refused.injEq] using same)⟩
  rw [decode_append limit buffer more settled, refused]
  rfl

/-- An open line is a line without its terminator: the CR that may come last belongs to that. -/
theorem isLine_withoutReturn (line : List UInt8) (unended : lineLength? 0 line = none) :
    IsLine (withoutReturn line) := by
  obtain ⟨front, rfl, same⟩ | ⟨_, same⟩ := Cursor.withoutReturn_cases line
  · rw [same]
    exact unended
  · rw [same]
    exact unended_return line unended

/-- An open line can be ended right where it is. -/
theorem exists_ending (line : List UInt8) :
    ∃ more, line ++ more = withoutReturn line ++ [0x0d, 0x0a] := by
  obtain ⟨front, rfl, same⟩ | ⟨_, same⟩ := Cursor.withoutReturn_cases line
  · exact ⟨[0x0a], by rw [same, List.append_assoc, List.singleton_append]⟩
  · exact ⟨[0x0d, 0x0a], by rw [same]⟩

/-- A line loses at most one byte with its CR. -/
theorem length_withoutReturn (line : List UInt8) :
    line.length ≤ (withoutReturn line).length + 1 := by
  obtain ⟨front, rfl, same⟩ | ⟨_, same⟩ := Cursor.withoutReturn_cases line
  · rw [same, List.length_append, List.length_singleton]
  · rw [same]
    exact Nat.le_succ _

/-- A line without its CR is a front of it. -/
theorem withoutReturn_front (line : List UInt8) : ∃ rest, line = withoutReturn line ++ rest := by
  obtain ⟨front, rfl, same⟩ | ⟨_, same⟩ := Cursor.withoutReturn_cases line
  · exact ⟨[0x0d], by rw [same]⟩
  · exact ⟨[], by rw [same, List.append_nil]⟩

/-- Wherever an open line comes to end, the line begins with the open one, but for a CR. -/
theorem front_of_ended (line more whole rest : List UInt8) (unended : lineLength? 0 line = none)
    (isLine : IsLine whole) (split : line ++ more = whole ++ 0x0d :: 0x0a :: rest) :
    ∃ added, whole = withoutReturn line ++ added := by
  have found : lineLength? 0 (line ++ more) = some whole.length := by
    rw [split]
    exact lineLength?_line whole rest isLine
  have late : line.length ≤ whole.length + 1 := by
    by_contra inside
    rw [lineLength?_front line more whole.length found (by omega)] at unended
    cases unended
  rcases List.append_eq_append_iff.mp split with ⟨added, rfl, _⟩ | ⟨added, rfl, ending⟩
  · obtain ⟨last, same⟩ := withoutReturn_front line
    exact ⟨last ++ added, by rw [← List.append_assoc, ← same]⟩
  · -- The open line reaches into the terminator, at most as far as the CR.
    rcases added with _ | ⟨first, _ | ⟨second, others⟩⟩
    · obtain ⟨last, same⟩ := withoutReturn_front whole
      exact ⟨last, by rw [List.append_nil, ← same]⟩
    · have return_ : first = 0x0d := by
        simp only [List.cons_append, List.cons.injEq] at ending
        exact ending.1.symm
      subst return_
      exact ⟨[], by simp [withoutReturn]⟩
    · simp only [List.length_append, List.length_cons] at late
      omega

/-- A length between zero and an accepted one is accepted in the same place. -/
theorem OpenLine.accepted_between (limit : Nat) (begun : List UInt8) (accepted : Int → Prop)
    (openLine : OpenLine limit begun accepted) (length shorter : Int) (inside : accepted length)
    (between : 0 ≤ shorter ∧ shorter ≤ length ∨ length ≤ shorter ∧ shorter ≤ 0) :
    accepted shorter := by
  cases openLine with
  | array =>
    unfold IsArrayLength at inside ⊢
    omega
  | element front remaining opening =>
    unfold IsBulkLength at inside ⊢
    omega

/-- The bytes of an open line that is refused, without a CR at their end, read as a length that is
accepted there. -/
def Revocable (limit : Nat) (buffer : List UInt8) : Prop :=
  ∃ begun accepted line length, OpenLine limit begun accepted ∧ buffer = begun ++ line ∧
    lineLength? 0 line = none ∧ headerLimit < line.length ∧
    Decimal.read Decimal.int64 (withoutReturn line) = .ok length ∧ accepted length

/-- An open line that reads as an accepted length is refused, and ending it revokes that. -/
theorem revoked_of_revocable (limit : Nat) (buffer : List UInt8)
    (revocable : Revocable limit buffer) :
    decode limit buffer = .refused overlong ∧
      ∃ more, ∀ error, decode limit (buffer ++ more) ≠ .refused error := by
  obtain ⟨begun, accepted, line, length, openLine, rfl, unended, long, read, inside⟩ := revocable
  obtain ⟨followUp, reads, _, keeps⟩ := OpenLine.decode_append limit begun accepted openLine
  constructor
  · rw [reads, Cursor.length_unended _ line unended, if_pos long]
    rfl
  · obtain ⟨more, ended⟩ := exists_ending line
    refine ⟨more, fun error => ?_⟩
    rw [List.append_assoc, ended, reads,
      Cursor.length_line _ (withoutReturn line) [] length (isLine_withoutReturn line unended) read]
    exact keeps length _ error inside

/-- A refusal that some continuation revokes is that of an open line with an accepted length. -/
theorem revocable_of_revoked (limit : Nat) (buffer more : List UInt8) (error : Error)
    (refused : decode limit buffer = .refused error)
    (revoked : ∀ other, decode limit (buffer ++ more) ≠ .refused other) :
    Revocable limit buffer := by
  have cause : error = overlong := by
    by_contra other
    exact revoked error (refusal_stands limit buffer more error refused other)
  subst cause
  obtain ⟨begun, accepted, line, openLine, rfl, unended, long⟩ :=
    openLine_of_overlong limit buffer refused
  obtain ⟨followUp, reads, refuses, _⟩ := OpenLine.decode_append limit begun accepted openLine
  rw [List.append_assoc, reads] at revoked
  rcases Cursor.length_cases ⟨begun.length, line ++ more⟩ with
    ⟨whole, rest, length, isLine, split, read, reached⟩ | ⟨text, reached⟩ | ⟨_, reached⟩
  · rw [reached] at revoked
    have inside : accepted length := by
      by_contra outside
      obtain ⟨other, again⟩ := refuses length _ outside
      exact revoked other again
    obtain ⟨added, rfl⟩ := front_of_ended line more whole rest unended isLine split
    have enough := length_withoutReturn line
    obtain ⟨shorter, front, between⟩ :=
      Decimal.read_front Decimal.int64 length (withoutReturn line) added
        (by unfold headerLimit at long; omega) read
    exact ⟨begun, accepted, line, shorter, openLine, rfl, unended, long, front,
      openLine.accepted_between limit begun accepted length shorter inside between⟩
  · rw [reached] at revoked
    exact absurd rfl (revoked _)
  · have longer : (line ++ more).length > headerLimit := by
      rw [List.length_append]
      omega
    rw [reached, if_pos longer] at revoked
    exact absurd rfl (revoked _)

/-- Behind an opening, absent values complete the request. -/
theorem Opening.completed (limit : Nat) (front : List UInt8) (remaining : Nat)
    (opening : Opening limit front remaining) :
    ∃ more value next, decode limit (front ++ more) = .complete value next := by
  obtain ⟨found, follows⟩ := Opening.decode_append limit front remaining opening
  let absent : List Value := List.replicate remaining .null
  have areElements : ∀ element ∈ absent, element.IsElement limit := by
    intro element member
    rw [List.eq_of_mem_replicate member]
    exact trivial
  have framed := Cursor.elements_frames limit found absent areElements
  have reached := framed.reads front.length []
  rw [List.length_replicate, List.append_nil] at reached
  exact ⟨absent.flatMap Value.encode, _, _, (follows _).trans reached⟩

/-- An open line that reads as an accepted length can become part of a whole request. -/
theorem completed_of_revocable (limit : Nat) (buffer : List UInt8)
    (revocable : Revocable limit buffer) :
    ∃ more value next, decode limit (buffer ++ more) = .complete value next := by
  obtain ⟨begun, accepted, line, length, openLine, rfl, unended, _, read, inside⟩ := revocable
  have isLine := isLine_withoutReturn line unended
  obtain ⟨ending, ended⟩ := exists_ending line
  have ended : line ++ ending = withoutReturn line ++ Value.crlf := ended
  cases openLine with
  | array =>
    rcases inside with rfl | ⟨positive, few⟩
    · refine ⟨ending, .null, ⟨1 + ((withoutReturn line).length + 2), []⟩, ?_⟩
      rw [List.append_assoc, ended, List.singleton_append, decode_array]
      exact congrArg (·.andThen (counted limit)) (Cursor.length_line 1 _ [] (-1) isLine read)
    · obtain ⟨count, rfl⟩ := Int.eq_ofNat_of_zero_le positive
      have opening :
          Opening limit (Value.arrayMarker :: (withoutReturn line ++ Value.crlf)) count :=
        .head (withoutReturn line) count isLine read (by omega)
      obtain ⟨more, value, next, complete⟩ := Opening.completed limit _ _ opening
      refine ⟨ending ++ more, value, next, ?_⟩
      rw [← complete, ← ended]
      simp only [List.append_assoc, List.cons_append, List.nil_append]
  | element front remaining opening =>
    rcases inside with rfl | ⟨positive, short⟩
    · have opening := Opening.absent front (withoutReturn line) remaining opening isLine read
      obtain ⟨more, value, next, complete⟩ := Opening.completed limit _ _ opening
      refine ⟨ending ++ more, value, next, ?_⟩
      rw [← complete, ← ended]
      simp only [List.append_assoc, List.cons_append, List.nil_append]
    · obtain ⟨size, rfl⟩ := Int.eq_ofNat_of_zero_le positive
      let bytes : List UInt8 := List.replicate size 0
      have sized : size = bytes.length := List.length_replicate.symm
      rw [sized] at read short
      have opening := Opening.bulk front (withoutReturn line) bytes remaining opening isLine read
        (by omega)
      obtain ⟨more, value, next, complete⟩ := Opening.completed limit _ _ opening
      refine ⟨ending ++ (bytes ++ Value.crlf) ++ more, value, next, ?_⟩
      rw [← complete, ← ended]
      simp only [List.append_assoc, List.cons_append, List.nil_append]

/-- Refusals are final, with one exception. Every refusal but that of an overlong open line stands
with its cause, whatever arrives behind the buffer. A refused buffer can become the beginning of a
request exactly when it ends within a length line that has not ended, whose bytes are too many and
yet read as a length that is accepted in this place. It is then the front of a whole request. -/
theorem refusal_revoked_iff (limit : Nat) (buffer : List UInt8) :
    (∀ error more, decode limit buffer = .refused error → error ≠ overlong →
        decode limit (buffer ++ more) = .refused error) ∧
      ((∃ error, decode limit buffer = .refused error ∧
          ∃ more, ∀ other, decode limit (buffer ++ more) ≠ .refused other) ↔
        Revocable limit buffer) ∧
      ((∃ error, decode limit buffer = .refused error ∧
          ∃ more value next, decode limit (buffer ++ more) = .complete value next) ↔
        Revocable limit buffer) := by
  refine ⟨fun error more refused other =>
    refusal_stands limit buffer more error refused other, ⟨?_, ?_⟩, ?_, ?_⟩
  · rintro ⟨error, refused, more, revoked⟩
    exact revocable_of_revoked limit buffer more error refused revoked
  · intro revocable
    obtain ⟨refused, more, revoked⟩ := revoked_of_revocable limit buffer revocable
    exact ⟨overlong, refused, more, revoked⟩
  · rintro ⟨error, refused, more, value, next, complete⟩
    exact revocable_of_revoked limit buffer more error refused fun other => by
      rw [complete]
      exact nofun
  · intro revocable
    exact ⟨overlong, (revoked_of_revocable limit buffer revocable).1,
      completed_of_revocable limit buffer revocable⟩

/-- A refused text in the place of a length stays refused, and a head with 33 zeros is the refused
front of a whole request. -/
theorem refusals_of_two_heads :
    decode 64 [0x2a, 0x78, 0x0d, 0x0a] = .refused (.badLength "x") ∧
      decode 64 ([0x2a, 0x78, 0x0d, 0x0a] ++ [0x2a]) = .refused (.badLength "x") ∧
      Revocable 64 (Value.arrayMarker :: List.replicate 33 0x30) ∧
      ∃ error, decode 64 (Value.arrayMarker :: List.replicate 33 0x30) = .refused error ∧
        ∃ more value next,
          decode 64 (Value.arrayMarker :: List.replicate 33 0x30 ++ more) =
            .complete value next := by
  have refused : decode 64 [0x2a, 0x78, 0x0d, 0x0a] = .refused (.badLength "x") := by decide
  have revocable : Revocable 64 (Value.arrayMarker :: List.replicate 33 0x30) :=
    ⟨[Value.arrayMarker], IsArrayLength, List.replicate 33 0x30, 0, .array, rfl, by decide,
      by decide, rfl, .inr ⟨by decide, by decide⟩⟩
  exact ⟨refused, (refusal_revoked_iff 64 _).1 _ _ refused nofun, revocable,
    (refusal_revoked_iff 64 _).2.2.mpr revocable⟩

/-- A head with 33 zeros is refused before its line ends, and read as an empty array once it has
ended: a refusal is not always final. -/
theorem refusal_not_final :
    ¬ ∀ (limit : Nat) (buffer more : List UInt8) (error : Error),
      decode limit buffer = .refused error →
        ∃ other, decode limit (buffer ++ more) = .refused other := by
  intro final
  have refused : decode 64 (Value.arrayMarker :: List.replicate 33 0x30) = .refused overlong := by
    decide
  have accepted : decode 64 (Value.arrayMarker :: List.replicate 33 0x30 ++ Value.crlf) =
      .complete (.array []) ⟨36, []⟩ := by
    decide
  obtain ⟨other, again⟩ := final 64 _ Value.crlf overlong refused
  rw [accepted] at again
  cases again

end KeyValueServer.Request
