import KeyValueServer.Proofs.Request.Lines
import KeyValueServer.Proofs.Text.Spacing

/-!
# Requests on a line of text

A request in inline form is a line of words. The line ends with the first LF of the buffer, and what
stands in front of it is text: LF is the byte of one character and of no other, and so is the CR
that may stand before it, which is a blank. The decoder therefore reads exactly the lines on which
there is a word, whatever blanks are around the words, and finds the words of the line.
-/

namespace KeyValueServer

namespace Utf8

/-- A text that was read is written as the bytes it was read from. -/
theorem encode_of_decode {bytes : List UInt8} {text : String} (read : decode bytes = .ok text) :
    encode text = bytes := by
  unfold decode String.fromUTF8? at read
  by_cases valid : bytes.toByteArray.IsValidUTF8
  · rw [dif_pos valid] at read
    obtain rfl := Except.ok.inj read
    change bytes.toByteArray.data.toList = bytes
    rw [List.data_toByteArray]
  · rw [dif_neg valid] at read
    cases read

/-- Texts one behind the other are written one behind the other. -/
theorem encode_append (front back : List Char) :
    encode (String.ofList (front ++ back)) =
      encode (String.ofList front) ++ encode (String.ofList back) := by
  simp only [encode_eq_flatMap, String.toList_ofList, List.flatMap_append]

/-- One character is written as its bytes. -/
theorem encode_singleton (char : Char) :
    encode (String.ofList [char]) = String.utf8EncodeChar char := by
  rw [encode_eq_flatMap, String.toList_ofList, List.flatMap_singleton]

/-- A byte below 0x80 is in a text exactly when its character is. -/
theorem mem_encode_iff {char : Char} {byte : UInt8} (alone : String.utf8EncodeChar char = [byte])
    (ascii : byte < 0x80) (text : List Char) :
    byte ∈ encode (String.ofList text) ↔ char ∈ text := by
  rw [encode_eq_flatMap, String.toList_ofList, List.mem_flatMap]
  constructor
  · rintro ⟨found, inside, byteOf⟩
    have same : found = char := by
      apply eq_of_utf8EncodeChar
      rw [alone]
      exact eq_singleton_of_mem found byte byteOf ascii
    exact same ▸ inside
  · intro inside
    refine ⟨char, inside, ?_⟩
    rw [alone]
    exact List.mem_singleton_self byte

/-- A byte LF in a text is the character of this name. -/
theorem feed_mem_encode_iff (text : List Char) : 0x0a ∈ encode (String.ofList text) ↔ '\n' ∈ text :=
  mem_encode_iff (show String.utf8EncodeChar '\n' = [0x0a] by decide) (by decide) text

end Utf8

/-- The request that consists of some words. -/
def Value.typed (words : List (List Char)) : Value :=
  .array (words.map fun word => .bulk (Utf8.encode (String.ofList word)))

namespace Request.Cursor

variable {buffer : List UInt8} {value : Value} {position : Nat} {next : Cursor}

/-- The CR at the end of a line is a blank, so the line has the same words without it. -/
theorem withoutReturn_encode (line : List Char) :
    ∃ shorter, withoutReturn (Utf8.encode (String.ofList line)) =
        Utf8.encode (String.ofList shorter) ∧ Blank.words shorter = Blank.words line := by
  obtain ⟨bytes, split, same⟩ | ⟨_, same⟩ :=
    withoutReturn_cases (Utf8.encode (String.ofList line))
  · obtain rfl | ⟨front, last, rfl⟩ := List.eq_nil_or_concat line
    · exact absurd split (by simp [Utf8.encode_eq_flatMap])
    · rw [List.concat_eq_append, Utf8.encode_append, Utf8.encode_singleton] at split
      have begun : String.utf8EncodeChar last ≠ [] := by
        simp
      have ends := congrArg List.getLast? split
      rw [List.getLast?_append_of_ne_nil _ begun, List.getLast?_concat] at ends
      have alone := Utf8.eq_singleton_of_mem last 0x0d (List.mem_of_getLast? ends) (by decide)
      obtain rfl := Utf8.eq_of_utf8EncodeChar last '\r' alone
      obtain ⟨written, _⟩ := List.append_inj' split rfl
      refine ⟨front, by rw [same, written], ?_⟩
      rw [List.concat_eq_append, Blank.words, Blank.words,
        Blank.wordsFrom_concat [] [] front (by decide)]
  · exact ⟨line, same, rfl⟩

/-- The first LF behind a line of text is the one that ends it. -/
theorem findIdx?_feed (line : List Char) (oneLine : '\n' ∉ line) (more : List UInt8) :
    (Utf8.encode (String.ofList line) ++ 0x0a :: more).findIdx? (· == 0x0a) =
      some (Utf8.encode (String.ofList line)).length := by
  have unended : (Utf8.encode (String.ofList line)).findIdx? (· == 0x0a) = none := by
    refine List.findIdx?_eq_none_iff.mpr fun byte member => beq_false_of_ne ?_
    rintro rfl
    exact oneLine ((Utf8.feed_mem_encode_iff line).mp member)
  rw [List.findIdx?_append, unended, List.findIdx?_cons, beq_self_eq_true, if_pos rfl,
    Option.none_or, Option.map_some, Nat.zero_add]

/-- A line on which there is a word is read as its words. -/
theorem inline_line (position : Nat) (line : List Char) (oneLine : '\n' ∉ line)
    (some : Blank.words line ≠ []) (more : List UInt8) :
    inline ⟨position, Utf8.encode (String.ofList line) ++ 0x0a :: more⟩ =
      .complete (Value.typed (Blank.words line))
        ⟨position + ((Utf8.encode (String.ofList line)).length + 1), more⟩ := by
  obtain ⟨shorter, cut, same⟩ := withoutReturn_encode line
  have found : wordValues (String.ofList shorter) =
      (Blank.words line).map fun word => .bulk (Utf8.encode (String.ofList word)) := by
    rw [wordValues, String.toList_ofList, same]
  have behind : (Utf8.encode (String.ofList line) ++ 0x0a :: more).drop
      ((Utf8.encode (String.ofList line)).length + 1) = more := by
    rw [← List.drop_drop, List.drop_left, List.drop_one, List.tail_cons]
  obtain ⟨first, others, split⟩ := List.exists_cons_of_ne_nil some
  simp only [inline, findIdx?_feed line oneLine more, List.take_left, cut, Utf8.decode_encode,
    found, split, List.map_cons, skip, behind]
  rfl

/-- What is read as a request is a line on which there is a word. -/
theorem line_of_inline (read : inline ⟨position, buffer⟩ = .complete value next) :
    ∃ line, '\n' ∉ line ∧ Blank.words line ≠ [] ∧ value = Value.typed (Blank.words line) ∧
      buffer = Utf8.encode (String.ofList line) ++ 0x0a :: next.ahead ∧
      next.position = position + ((Utf8.encode (String.ofList line)).length + 1) := by
  unfold inline at read
  dsimp only at read
  cases found : buffer.findIdx? (· == 0x0a) with
  | none =>
    rw [found] at read
    cases read
  | some length =>
    rw [found] at read
    dsimp only at read
    cases text : Utf8.decode (withoutReturn (buffer.take length)) with
    | error fault =>
      rw [text] at read
      cases read
    | ok content =>
      rw [text] at read
      dsimp only at read
      obtain ⟨line, written, same⟩ : ∃ line, Utf8.encode (String.ofList line) =
          buffer.take length ∧ Blank.words line = Blank.words content.toList := by
        have written := Utf8.encode_of_decode text
        obtain ⟨front, split, cut⟩ | ⟨_, cut⟩ := withoutReturn_cases (buffer.take length)
        · refine ⟨content.toList ++ ['\r'], ?_, Blank.wordsFrom_concat [] [] _ (by decide)⟩
          rw [Utf8.encode_append, String.ofList_toList, written, cut, split]
          rfl
        · exact ⟨content.toList, by rw [String.ofList_toList, written, cut], rfl⟩
      obtain ⟨inside, ended, earliest⟩ := List.findIdx?_eq_some_iff_getElem.mp found
      have oneLine : '\n' ∉ line := by
        intro member
        rw [← Utf8.feed_mem_encode_iff, written] at member
        obtain ⟨index, before, feed⟩ := List.mem_iff_getElem.mp member
        rw [List.length_take] at before
        rw [List.getElem_take] at feed
        exact earliest index (by omega) (beq_iff_eq.mpr feed)
      have split : buffer = buffer.take length ++ 0x0a :: buffer.drop (length + 1) := by
        rw [← eq_of_beq ended, ← List.drop_eq_getElem_cons inside, List.take_append_drop]
      cases words : wordValues content with
      | nil =>
        rw [words] at read
        cases read
      | cons first others =>
        rw [words] at read
        obtain ⟨rfl, rfl⟩ := Progress.complete.inj read
        refine ⟨line, oneLine, ?_, ?_, ?_, ?_⟩
        · intro none
          rw [wordValues, ← same, none] at words
          cases words
        · rw [← words, same]
          rfl
        · rw [written]
          exact split
        · rw [written, List.length_take, Nat.min_eq_left (Nat.le_of_lt inside)]
          rfl

end Request.Cursor

namespace Request

variable {limit : Nat} {buffer : List UInt8} {value : Value} {next : Cursor}

/-- A buffer is decoded by its first byte. -/
theorem decode_cons (limit : Nat) (first : UInt8) (rest : List UInt8) :
    decode limit (first :: rest) =
      if first = Value.arrayMarker then Cursor.array limit ⟨1, rest⟩
      else if isReplyMarker first then .refused (.replyMarker first)
      else Cursor.inline ⟨0, first :: rest⟩ := rfl

/-- A buffer that does not begin like an array or a reply. -/
def IsUnmarked (buffer : List UInt8) : Prop :=
  ∀ first, buffer.head? = some first → first ≠ Value.arrayMarker ∧ isReplyMarker first = false

/-- A buffer is without a marker when its first byte is none. -/
theorem isUnmarked_cons {first : UInt8} (rest : List UInt8)
    (none : first ≠ Value.arrayMarker ∧ isReplyMarker first = false) :
    IsUnmarked (first :: rest) := by
  intro byte begins
  obtain rfl := Option.some.inj begins
  exact none

/-- Bytes without a marker have none in front when they are put together. -/
theorem IsUnmarked.append {front back : List UInt8} (first : IsUnmarked front)
    (second : IsUnmarked back) : IsUnmarked (front ++ back) := by
  intro byte begins
  rw [List.head?_append, Option.or_eq_some_iff] at begins
  obtain here | ⟨_, there⟩ := begins
  · exact first byte here
  · exact second byte there

/-- A front of a buffer without a marker has none either. -/
theorem IsUnmarked.front {front back : List UInt8} (whole : IsUnmarked (front ++ back)) :
    IsUnmarked front := by
  intro byte begins
  apply whole byte
  rw [List.head?_append, begins, Option.some_or]

/-- A buffer without a marker is decoded as a line of text, and the limit has no part in it. -/
theorem decode_unmarked (limit : Nat) (unmarked : IsUnmarked buffer) :
    decode limit buffer = Cursor.inline ⟨0, buffer⟩ := by
  cases buffer with
  | nil => rfl
  | cons first rest =>
    obtain ⟨noArray, noReply⟩ := unmarked first rfl
    rw [decode_cons, if_neg noArray, noReply, if_neg Bool.false_ne_true]

/-- A line on which there is a word is read as its words unless a marker begins it. -/
theorem decode_line (limit : Nat) (line : List Char) (oneLine : '\n' ∉ line)
    (some : Blank.words line ≠ []) (unmarked : IsUnmarked (Utf8.encode (String.ofList line)))
    (more : List UInt8) :
    decode limit (Utf8.encode (String.ofList line) ++ 0x0a :: more) =
      .complete (Value.typed (Blank.words line))
        ⟨(Utf8.encode (String.ofList line)).length + 1, more⟩ := by
  have whole : IsUnmarked (Utf8.encode (String.ofList line) ++ 0x0a :: more) :=
    unmarked.append (isUnmarked_cons more ⟨by decide, by decide⟩)
  rw [decode_unmarked limit whole, Cursor.inline_line 0 line oneLine some more, Nat.zero_add]

/-- A line of words as it is typed: an LF ends it, and no marker begins it. -/
structure IsTyped (words : List (List Char)) (line : List Char) : Prop where
  /-- There are blanks between the words, and there may be some around them. -/
  isLine : Blank.IsLine words line
  /-- None of the blanks is an LF. -/
  oneLine : '\n' ∉ line
  /-- The line begins neither like an array nor like a reply. -/
  unmarked : IsUnmarked (Utf8.encode (String.ofList line))

variable {words : List (List Char)} {line : List Char}

/-- What is typed are words, and there is one. -/
theorem IsTyped.areWords (typed : IsTyped words line) :
    words ≠ [] ∧ ∀ word ∈ words, Blank.IsWord word := by
  obtain ⟨_, _, _, _, spaced⟩ := typed.isLine
  exact spaced.areWords

/-- A CR at the end of a typed line is one more blank. -/
theorem IsTyped.concat_return (typed : IsTyped words line) : IsTyped words (line ++ ['\r']) := by
  refine ⟨?_, ?_, ?_⟩
  · rw [← Blank.words_eq_iff typed.areWords.1, Blank.words,
      Blank.wordsFrom_concat [] [] line (by decide)]
    exact Blank.words_of_isLine typed.isLine
  · rw [List.mem_append, not_or]
    exact ⟨typed.oneLine, by decide⟩
  · rw [Utf8.encode_append, Utf8.encode_singleton]
    exact typed.unmarked.append (isUnmarked_cons [] ⟨by decide, by decide⟩)

/-- A typed line is read as its words, and it ends with the first LF. -/
theorem decode_typed (limit : Nat) (typed : IsTyped words line) (more : List UInt8) :
    decode limit (Utf8.encode (String.ofList line) ++ 0x0a :: more) =
      .complete (Value.typed words) ⟨(Utf8.encode (String.ofList line)).length + 1, more⟩ := by
  have same := Blank.words_of_isLine typed.isLine
  have some : Blank.words line ≠ [] := by
    rw [same]
    exact typed.areWords.1
  rw [decode_line limit line typed.oneLine some typed.unmarked more, same]

/-- Words with a blank in front of each are a line as it is typed. -/
theorem isTyped_spread (some : words ≠ []) (areWords : ∀ word ∈ words, Blank.IsWord word) :
    IsTyped words (Blank.spread words) := by
  refine ⟨Blank.isLine_spread some areWords, Blank.feed_not_mem_spread areWords, ?_⟩
  obtain ⟨word, others, rfl⟩ := List.exists_cons_of_ne_nil some
  have blank : Blank.spread (word :: others) = [' '] ++ (word ++ Blank.spread others) := rfl
  rw [blank, Utf8.encode_append, Utf8.encode_singleton]
  exact isUnmarked_cons _ ⟨by decide, by decide⟩

/-- What is read as a request and does not begin like an array has no marker. -/
theorem unmarked_of_decode (noArray : buffer.head? ≠ some Value.arrayMarker)
    (read : decode limit buffer = .complete value next) : IsUnmarked buffer := by
  cases buffer with
  | nil => nofun
  | cons first rest =>
    have apart : first ≠ Value.arrayMarker := fun same => noArray (congrArg some same)
    rw [decode_cons, if_neg apart] at read
    cases reply : isReplyMarker first with
    | false => exact isUnmarked_cons rest ⟨apart, reply⟩
    | true =>
      rw [reply] at read
      cases read

/-- What is read as a request and does not begin like an array is a line as it is typed. -/
theorem typed_of_decode (noArray : buffer.head? ≠ some Value.arrayMarker)
    (read : decode limit buffer = .complete value next) :
    ∃ words line, IsTyped words line ∧ value = Value.typed words ∧
      buffer = Utf8.encode (String.ofList line) ++ 0x0a :: next.ahead ∧
      next.position = (Utf8.encode (String.ofList line)).length + 1 := by
  have unmarked := unmarked_of_decode noArray read
  rw [decode_unmarked limit unmarked] at read
  obtain ⟨line, oneLine, some, rfl, split, ends⟩ := Cursor.line_of_inline read
  rw [Nat.zero_add] at ends
  rw [split] at unmarked
  have typed : IsTyped (Blank.words line) line :=
    ⟨(Blank.words_eq_iff some).mp rfl, oneLine, unmarked.front⟩
  exact ⟨_, line, typed, rfl, split, ends⟩

end Request

end KeyValueServer
