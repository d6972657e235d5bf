import KeyValueServer.Proofs.Request.ArrayForm
import KeyValueServer.Proofs.Request.Inline

/-!
# Where a request ends

A request that is read has an extent: the bytes it was read from, whatever follows them. So the
value and the number of its bytes are known from these bytes alone, and no front of them is read as
a request.

The largest byte string that a decoder accepts decides only whether a request is accepted. It
changes neither its value nor its extent, and what it refuses it refuses as too large.
-/

namespace KeyValueServer.Request

variable {limit : Nat} {buffer : List UInt8} {value : Value} {next : Cursor}

namespace Cursor

/-- A line of text that is read ends with the first LF, and it is not empty. -/
theorem inline_extent {position : Nat} (read : inline ⟨position, buffer⟩ = .complete value next) :
    ∃ written, 2 ≤ written.length ∧ buffer = written ++ next.ahead ∧
      ∀ more, inline ⟨position, written ++ more⟩ =
        .complete value ⟨position + written.length, more⟩ := by
  obtain ⟨line, oneLine, some, rfl, split, _⟩ := line_of_inline read
  refine ⟨Utf8.encode (String.ofList line) ++ [0x0a], ?_, ?_, fun more => ?_⟩
  · have room : Blank.widths (Blank.words line) ≤ (Utf8.encode (String.ofList line)).length + 1 :=
      Blank.widths_words_le line
    obtain ⟨word, others, words⟩ := List.exists_cons_of_ne_nil some
    have wide := Blank.width_pos (Blank.areWords_words line word (words ▸ List.mem_cons_self))
    rw [words, Blank.widths_cons] at room
    rw [List.length_append, List.length_singleton]
    omega
  · rw [split, List.append_assoc, List.singleton_append]
  · rw [List.append_assoc, List.singleton_append, List.length_append, List.length_singleton]
    exact inline_line position line oneLine some more

/-- A bound on byte strings only decides whether an element is accepted. -/
theorem element_bounded (cursor : Cursor) (other : Nat)
    (read : element limit cursor = .complete value next) :
    element other cursor = .complete value next ∨
      ∃ size, other < size ∧ element other cursor = .refused (.tooLarge size other) := by
  obtain ⟨position, _ | ⟨marker, rest⟩⟩ := cursor
  · cases read
  rw [element_cons] at read ⊢
  by_cases isBulk : marker = Value.bulkMarker
  · rw [if_pos isBulk] at read ⊢
    obtain ⟨length, body, declared, read⟩ := Progress.exists_of_andThen read
    rw [declared]
    dsimp only [Progress.andThen, sized] at read ⊢
    by_cases absent : length = -1
    · rw [if_pos absent] at read ⊢
      exact .inl read
    rw [if_neg absent] at read ⊢
    by_cases negative : length < 0
    · rw [if_pos negative] at read
      cases read
    rw [if_neg negative] at read ⊢
    by_cases large : length.toNat > limit
    · rw [if_pos large] at read
      cases read
    rw [if_neg large] at read
    by_cases larger : length.toNat > other
    · rw [if_pos larger]
      exact .inr ⟨_, larger, rfl⟩
    · rw [if_neg larger]
      exact .inl read
  · rw [if_neg isBulk] at read
    cases read

/-- A bound on byte strings only decides whether elements are accepted. -/
theorem elements_bounded (found : List Value) (remaining : Nat) (cursor : Cursor) (other : Nat)
    (read : elements limit found remaining cursor = .complete value next) :
    elements other found remaining cursor = .complete value next ∨
      ∃ size, other < size ∧
        elements other found remaining cursor = .refused (.tooLarge size other) := by
  induction remaining generalizing found cursor with
  | zero => exact .inl read
  | succ remaining inductionHypothesis =>
    rw [elements_succ] at read ⊢
    obtain ⟨element, middle, first, others⟩ := Progress.exists_of_andThen read
    rcases element_bounded cursor other first with same | ⟨size, large, refused⟩
    · rw [same]
      exact inductionHypothesis (element :: found) middle others
    · rw [refused]
      exact .inr ⟨size, large, rfl⟩

end Cursor

/-- A request that was read takes up the front of the buffer, at least two bytes. It is read from
these bytes whatever follows them. -/
theorem decode_extent (read : decode limit buffer = .complete value next) :
    ∃ written, 2 ≤ written.length ∧ buffer = written ++ next.ahead ∧
      next.position = written.length ∧
      ∀ more, decode limit (written ++ more) = .complete value ⟨written.length, more⟩ := by
  cases buffer with
  | nil => cases read
  | cons first rest =>
    by_cases isArray : first = Value.arrayMarker
    · subst isArray
      obtain ⟨written, behind, form, split, rfl⟩ :=
        (decode_eq_complete_iff limit rest value next).mp read
      have begins : ∃ tail, written = Value.arrayMarker :: tail ∧ 1 ≤ tail.length := by
        cases form with
        | absent line _ => exact ⟨_, rfl, by simp [Value.crlf]⟩
        | array line elements values _ _ _ => exact ⟨_, rfl, by simp [Value.crlf]; omega⟩
      obtain ⟨tail, rfl, more⟩ := begins
      have long : 2 ≤ (Value.arrayMarker :: tail).length := Nat.succ_le_succ more
      refine ⟨_, long, split, rfl, fun more => ?_⟩
      exact (decode_eq_complete_iff limit (tail ++ more) value _).mpr ⟨_, more, form, rfl, rfl⟩
    · rw [decode_cons, if_neg isArray] at read
      by_cases isReply : isReplyMarker first = true
      · rw [if_pos isReply] at read
        cases read
      · rw [if_neg isReply] at read
        obtain ⟨written, long, split, same⟩ := Cursor.inline_extent read
        have position : next = ⟨written.length, next.ahead⟩ := by
          have again := same next.ahead
          rw [← split, read, Nat.zero_add] at again
          exact (Progress.complete.inj again).2
        cases written with
        | nil => cases long
        | cons begin_ tail =>
          obtain ⟨rfl, _⟩ := List.cons.inj split
          refine ⟨_, long, split, congrArg Cursor.position position, fun more => ?_⟩
          rw [List.cons_append, decode_cons, if_neg isArray, if_neg isReply]
          have again := same more
          rw [Nat.zero_add] at again
          exact again

/-- A bound on byte strings only decides whether a request is accepted. What it refuses is too
large. -/
theorem decode_bounded (read : decode limit buffer = .complete value next) (other : Nat) :
    decode other buffer = .complete value next ∨
      ∃ size, other < size ∧ decode other buffer = .refused (.tooLarge size other) := by
  cases buffer with
  | nil => cases read
  | cons first rest =>
    by_cases isArray : first = Value.arrayMarker
    · subst isArray
      rw [decode_array] at read ⊢
      obtain ⟨length, body, declared, read⟩ := Progress.exists_of_andThen read
      rw [declared]
      dsimp only [Progress.andThen, counted] at read ⊢
      by_cases absent : length = -1
      · rw [if_pos absent] at read ⊢
        exact .inl read
      rw [if_neg absent] at read ⊢
      by_cases outside : length < 0 ∨ length > maxElements
      · rw [if_pos outside] at read
        cases read
      · rw [if_neg outside] at read ⊢
        exact Cursor.elements_bounded [] length.toNat body other read
    · rw [decode_cons, if_neg isArray] at read ⊢
      exact .inl read

/-- A front of a request is not read as a request: it is incomplete, or its last length line is
longer than any length, or a byte string in it is too large. -/
theorem decode_proper_front {front missing : List UInt8} (more : missing ≠ [])
    (read : decode limit (front ++ missing) = .complete value ⟨(front ++ missing).length, []⟩)
    (other : Nat) :
    decode other front = .incomplete ∨ decode other front = .refused overlong ∨
      ∃ size, other < size ∧ decode other front = .refused (.tooLarge size other) := by
  cases outcome : decode other front with
  | incomplete => exact .inl rfl
  | refused error =>
    right
    by_cases unended : error = overlong
    · subst unended
      exact .inl rfl
    · right
      have settled : (decode other front).Settled := by
        rw [outcome]
        exact ⟨nofun, fun same => unended (Progress.refused.inj same)⟩
      have decided := decode_append other front missing settled
      rw [outcome] at decided
      rcases decode_bounded read other with same | ⟨size, large, refused⟩
      · rw [same] at decided
        cases decided
      · rw [refused] at decided
        obtain rfl := Progress.refused.inj decided
        exact ⟨size, large, rfl⟩
  | complete early rest =>
    obtain ⟨written, _, split, _, same⟩ := decode_extent outcome
    have again := same (rest.ahead ++ missing)
    rw [← List.append_assoc, ← split] at again
    rcases decode_bounded read other with whole | ⟨size, _, refused⟩
    · rw [again] at whole
      obtain ⟨_, ends⟩ := Progress.complete.inj whole
      exact absurd (List.append_eq_nil_iff.mp (congrArg Cursor.ahead ends)).2 more
    · rw [again] at refused
      cases refused

end KeyValueServer.Request
