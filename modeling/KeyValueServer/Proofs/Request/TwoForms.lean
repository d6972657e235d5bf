import KeyValueServer.Command.Execute
import KeyValueServer.Proofs.Request.Limits

/-!
# A request in its two forms

A person types the words of a request on a line, and a client library sends them as an array. Both
stand for the same request. How the words are spaced is lost, also whether the line ends in LF or
in CR LF, and where a line ends is decided by its first LF alone. So the same command is found in
both forms, and it is answered in the same way.

The forms differ in what they can hold: a word has at least one character and no blank, while an
element of an array is any byte string. They also differ where the inline form lacks the limits that
requests have. An array with too many elements is refused, and so should be a line with as many
words, but the line is read.
-/

namespace KeyValueServer.Request

/-- What becomes of a request at the front of a buffer. -/
structure Treatment where
  value : Value
  /-- The command that the request names. -/
  verb : Option Command.Verb
  /-- The reply to the request and the store behind it. -/
  outcome : Value × Store
  /-- The bytes behind the request. -/
  behind : List UInt8

/-- What becomes of the request at the front of a buffer, if there is one. -/
def treat (limit : Nat) (store : Store) (buffer : List UInt8) : Option Treatment :=
  match decode limit buffer with
  | .complete value next =>
    some ⟨value, Command.verb? value, Command.execute store value, next.ahead⟩
  | _ => none

variable {limit : Nat} {words : List (List Char)} {line : List Char}

/-- Requests are treated by their value and by what follows them. -/
theorem treat_congr {buffer other : List UInt8} {value : Value} {next rest : Cursor} (store : Store)
    (read : decode limit buffer = .complete value next)
    (again : decode limit other = .complete value rest) (behind : rest.ahead = next.ahead) :
    treat limit store other = treat limit store buffer := by
  rw [treat, again, treat, read]
  dsimp only
  rw [behind]

/-- What ends a line: LF alone, or CR in front of it. -/
def endings : List (List UInt8) := [[0x0a], Value.crlf]

/-- What a typed line has to do with the array of its words, with the same bytes behind both. -/
structure Agrees (limit : Nat) (words : List (List Char)) (typed more : List UInt8) : Prop where
  /-- The line is read as its words and ends where it was ended. -/
  read : decode limit (typed ++ more) = .complete (Value.typed words) ⟨typed.length, more⟩
  /-- Within the limits the array is the same request, names the same command and has the same
  outcome. A buffer has room for no more bytes than a block of memory. -/
  same : (typed ++ more).length ≤ Fault.largestBlock → words.length ≤ maxElements →
    (∀ word ∈ words, Blank.width word ≤ limit) →
    ∀ store, treat limit store ((Value.typed words).encode ++ more) =
      treat limit store (typed ++ more)
  /-- An array of more words is refused. -/
  refused : (typed ++ more).length ≤ Fault.largestBlock → maxElements < words.length →
    decode limit ((Value.typed words).encode ++ more) = .refused (.arrayLength words.length)

/-- The array of too many words is refused. -/
theorem many_refused (limit : Nat) (more : List UInt8) (small : words.length ≤ Fault.largestBlock)
    (many : maxElements < words.length) :
    decode limit ((Value.typed words).encode ++ more) = .refused (.arrayLength words.length) := by
  have refused := array_too_long limit
    (words.map fun word => Value.bulk (Utf8.encode (String.ofList word))) more
  rw [List.length_map] at refused
  exact refused small many

/-- A line that ends with LF agrees with the array of its words. -/
theorem agrees_of_typed (limit : Nat) (typed : IsTyped words line) (more : List UInt8) :
    Agrees limit words (Utf8.encode (String.ofList line) ++ [0x0a]) more := by
  have read : decode limit (Utf8.encode (String.ofList line) ++ [0x0a] ++ more) =
      .complete (Value.typed words)
        ⟨(Utf8.encode (String.ofList line) ++ [0x0a]).length, more⟩ := by
    rw [List.append_assoc, List.singleton_append, List.length_append]
    exact decode_typed limit typed more
  have fits (small : (Utf8.encode (String.ofList line) ++ [0x0a] ++ more).length ≤
      Fault.largestBlock) :
      words.length ≤ Fault.largestBlock ∧
        ∀ word ∈ words, Blank.width word ≤ Fault.largestBlock := by
    have room : Blank.widths words ≤ (Utf8.encode (String.ofList line)).length + 1 :=
      Blank.widths_le_of_isLine typed.isLine
    rw [List.length_append, List.length_append, List.length_singleton] at small
    exact fits_of_widths (by omega)
  refine ⟨read, fun small few short store => ?_, fun small many => ?_⟩
  · have isRequest : (Value.typed words).IsRequest limit := by
      refine ⟨by rwa [List.length_map], isElement_of_width fun word isIn => ?_⟩
      exact ⟨short word isIn, (fits small).2 word isIn⟩
    exact treat_congr store read (decode_encode limit _ isRequest more) rfl
  · exact many_refused limit more (fits small).1 many

/-- A typed line agrees with the array of its words, and every request that does not begin like an
array is such a line, up to the first LF of the buffer. -/
theorem two_forms_agree (limit : Nat) :
    (∀ words line, IsTyped words line → ∀ ending ∈ endings, ∀ more,
        Agrees limit words (Utf8.encode (String.ofList line) ++ ending) more) ∧
      ∀ buffer value next, buffer.head? ≠ some Value.arrayMarker →
        decode limit buffer = .complete value next →
        ∃ words line, IsTyped words line ∧ (∀ word ∈ words, Blank.IsWord word) ∧
          value = Value.typed words ∧ 0x0a ∉ Utf8.encode (String.ofList line) ∧
          buffer = Utf8.encode (String.ofList line) ++ 0x0a :: next.ahead ∧
          next.position = (Utf8.encode (String.ofList line)).length + 1 := by
  constructor
  · intro words line typed ending ended more
    obtain rfl | rfl := List.mem_pair.mp ended
    · exact agrees_of_typed limit typed more
    · have returned := agrees_of_typed limit typed.concat_return more
      rw [Utf8.encode_append, Utf8.encode_singleton, List.append_assoc] at returned
      exact returned
  · intro buffer value next noArray read
    obtain ⟨words, line, typed, rfl, split, ends⟩ := typed_of_decode noArray read
    have oneLine := mt (Utf8.feed_mem_encode_iff line).mp typed.oneLine
    exact ⟨words, line, typed, typed.areWords.2, rfl, oneLine, split, ends⟩

/-- A line with ASCII blanks and others, and with a letter beyond ASCII. -/
def spacedLine : List Char := [' ', '\u3000', 'G', 'E', 'T', '\u00a0', 'é', '\t']

/-- The line is the request for this letter, also in front of the beginning of another one. -/
theorem spacedLine_is_an_array :
    IsTyped [['G', 'E', 'T'], ['é']] spacedLine ∧ Value.crlf ∈ endings ∧
      decode 3 (Utf8.encode (String.ofList spacedLine) ++ Value.crlf ++ [0x2a]) =
        .complete (.array [.bulk [0x47, 0x45, 0x54], .bulk [0xc3, 0xa9]]) ⟨14, [0x2a]⟩ ∧
      treat 3 (Store.empty 1 Nat.one_pos)
          ((Value.array [.bulk [0x47, 0x45, 0x54], .bulk [0xc3, 0xa9]]).encode ++ [0x2a]) =
        treat 3 (Store.empty 1 Nat.one_pos)
          (Utf8.encode (String.ofList spacedLine) ++ Value.crlf ++ [0x2a]) := by
  have typed : IsTyped [['G', 'E', 'T'], ['é']] spacedLine := by
    refine ⟨(Blank.words_eq_iff (List.cons_ne_nil _ _)).mp (by decide), by decide, ?_⟩
    exact isUnmarked_cons _ ⟨by decide, by decide⟩
  have ended : Value.crlf ∈ endings := by decide
  have agrees := (two_forms_agree 3).1 _ spacedLine typed _ ended [0x2a]
  have small : (Utf8.encode (String.ofList spacedLine) ++ Value.crlf ++ [0x2a]).length ≤
      Fault.largestBlock := by decide
  exact ⟨typed, ended, agrees.read,
    agrees.same small (by decide) (by decide) (Store.empty 1 Nat.one_pos)⟩

/-- A line of too many words passes for a request, and the array of them does not. -/
theorem treat_of_many (typed : IsTyped words line) (small : words.length ≤ Fault.largestBlock)
    (many : maxElements < words.length) (more : List UInt8) (store : Store) :
    treat limit store ((Value.typed words).encode ++ more) ≠
      treat limit store (Utf8.encode (String.ofList line) ++ [0x0a] ++ more) := by
  rw [treat, treat, many_refused limit more small many, (agrees_of_typed limit typed more).read]
  exact Option.some_ne_none _ ∘ Eq.symm

/-- A line can pass for a request that is none as an array: its words are short, but too many. -/
theorem many_words_are_no_array :
    ¬ ∀ limit words line, IsTyped words line → (∀ word ∈ words, Blank.width word ≤ limit) →
        ∀ ending ∈ endings, ∀ more store, treat limit store ((Value.typed words).encode ++ more) =
          treat limit store (Utf8.encode (String.ofList line) ++ ending ++ more) := by
  intro holds
  obtain ⟨words, same⟩ : ∃ words, words = List.replicate (maxElements + 1) ['a'] := ⟨_, rfl⟩
  have letters : ∀ word ∈ words, word = ['a'] := fun word member =>
    List.eq_of_mem_replicate (same ▸ member)
  have count : words.length = maxElements + 1 := by
    rw [same, List.length_replicate]
  have areWords : ∀ word ∈ words, Blank.IsWord word := by
    intro word member
    rw [letters word member]
    exact ⟨List.cons_ne_nil _ _, List.forall_mem_singleton.mpr (by decide)⟩
  have short : ∀ word ∈ words, Blank.width word ≤ 1 := by
    intro word member
    rw [letters word member]
    decide
  have some : words ≠ [] := List.ne_nil_of_length_pos (by omega)
  have small : words.length ≤ Fault.largestBlock := by
    rw [count]
    decide
  have typed := isTyped_spread some areWords
  exact treat_of_many typed small (by omega) [] (Store.empty 1 Nat.one_pos)
    (holds 1 words _ typed short [0x0a] (by decide) [] _)

end KeyValueServer.Request
