import KeyValueServer.Proofs.Request.Framing

/-!
# Decoding undoes writing

A request that was written is read back from its bytes, whatever stands in its byte strings and
whatever follows. On the way there the decoder never commits itself: each of the fronts of the
request, wherever it is cut, is incomplete. So the bytes of a request decide where it ends.
-/

namespace KeyValueServer.Request

/-- A written request is read back as it was, with as many bytes as were written, from the front of
every buffer that begins with it. No other front of it is a request, or refused. -/
theorem written_requests_are_read_back (limit : Nat) (elements : List Value)
    (few : elements.length ≤ maxElements)
    (fit : ∀ element ∈ elements, element = .null ∨
      ∃ bytes, element = .bulk bytes ∧ bytes.length ≤ limit ∧ bytes.length < 2 ^ 63)
    (following : List UInt8) :
    decode limit ((Value.array elements).encode ++ following) =
        .complete (.array elements) ⟨(Value.array elements).encode.length, following⟩ ∧
      ∀ front, front <+: (Value.array elements).encode → front ≠ (Value.array elements).encode →
        decode limit front = .incomplete := by
  have isRequest : (Value.array elements).IsRequest limit := by
    refine ⟨few, fun element member => ?_⟩
    rcases fit element member with rfl | ⟨bytes, rfl, short, small⟩
    · exact trivial
    · exact ⟨short, Nat.le_of_lt_succ small⟩
  refine ⟨decode_encode limit _ isRequest following, ?_⟩
  rintro front ⟨missing, split⟩ proper
  have open_ : missing ≠ [] := by
    rintro rfl
    rw [List.append_nil] at split
    exact proper split
  exact decode_front limit _ isRequest front missing open_ split

/-- A request with an absent value and with a byte string that holds a line end, both markers and a
byte that is no text is read back in front of the beginning of another one. -/
theorem binary_request_is_read_back :
    [Value.null, .bulk [0x0d, 0x0a, 0x24, 0x2a, 0xff]].length ≤ maxElements ∧
      (∀ element ∈ [Value.null, .bulk [0x0d, 0x0a, 0x24, 0x2a, 0xff]], element = .null ∨
        ∃ bytes, element = .bulk bytes ∧ bytes.length ≤ 5 ∧ bytes.length < 2 ^ 63) ∧
      decode 5 ((Value.array [.null, .bulk [0x0d, 0x0a, 0x24, 0x2a, 0xff]]).encode ++ [0x2a]) =
        .complete (.array [.null, .bulk [0x0d, 0x0a, 0x24, 0x2a, 0xff]]) ⟨20, [0x2a]⟩ ∧
      ∀ front, front <+: (Value.array [.null, .bulk [0x0d, 0x0a, 0x24, 0x2a, 0xff]]).encode →
        front ≠ (Value.array [.null, .bulk [0x0d, 0x0a, 0x24, 0x2a, 0xff]]).encode →
        decode 5 front = .incomplete := by
  have few : [Value.null, .bulk [0x0d, 0x0a, 0x24, 0x2a, 0xff]].length ≤ maxElements := by decide
  have fit : ∀ element ∈ [Value.null, .bulk [0x0d, 0x0a, 0x24, 0x2a, 0xff]], element = .null ∨
      ∃ bytes, element = .bulk bytes ∧ bytes.length ≤ 5 ∧ bytes.length < 2 ^ 63 := by
    intro element member
    rcases List.mem_pair.mp member with rfl | rfl
    · exact .inl rfl
    · exact .inr ⟨_, rfl, by decide, by decide⟩
  obtain ⟨whole, fronts⟩ := written_requests_are_read_back 5 _ few fit [0x2a]
  exact ⟨few, fit, whole, fronts⟩

end KeyValueServer.Request
