import KeyValueServer.Proofs.Network.Socket
import KeyValueServer.Session

/-!
# What the operations of a session keep

Filling moves bytes from the socket to the input, flushing moves them from the output to the
socket. Both keep the order of the bytes and change nothing else, whatever the socket answers.
Decoding takes a request that is complete from the front of the input.
-/

namespace KeyValueServer.Session

variable {session : Session} {limit : Nat} {socket : Socket}

/-- Filling adds what was read to the input. -/
theorem eq_of_fill {filled : Session} {left : Socket} {answer : Except ConnectionError Nat}
    (read : session.fill limit socket = (answer, filled, left)) :
    filled = { session with input := session.input ++ (socket.read limit).1 } ∧
      left = (socket.read limit).2.2 := by
  have added : (session.fill limit socket).2.1 =
      { session with input := session.input ++ (socket.read limit).1 } := by
    simp only [fill]
    split
    · next nothing => rw [List.isEmpty_iff.mp nothing, List.append_nil]
    · rfl
  have leaves : (session.fill limit socket).2.2 = (socket.read limit).2.2 := rfl
  rw [← added, ← leaves, read]
  exact ⟨rfl, rfl⟩

/-- Filling reports how many bytes it added, unless it fails. -/
theorem count_of_fill {filled : Session} {left : Socket} {count : Nat}
    (read : session.fill limit socket = (.ok count, filled, left)) :
    count = (socket.read limit).1.length := by
  have answered := congrArg Prod.fst read
  simp only [fill] at answered
  split at answered
  · exact (Except.ok.inj answered).symm
  · exact (Except.ok.inj answered).symm
  · cases answered
  · cases answered

/-- Filling loses no byte of the socket. -/
theorem fill_conserves {filled : Session} {left : Socket} {answer : Except ConnectionError Nat}
    (read : session.fill limit socket = (answer, filled, left)) :
    filled.input ++ left.unread = session.input ++ socket.unread := by
  obtain ⟨rfl, rfl⟩ := eq_of_fill read
  rw [List.append_assoc, socket.read_conserves]

/-- On a socket that does not fail by itself, filling fails only at the end of input, when
everything was read. -/
theorem fill_plain {filled : Session} {left : Socket} {answer : Except ConnectionError Nat}
    (read : session.fill limit socket = (answer, filled, left)) (plain : socket.Plain) :
    left.Plain ∧
      ∀ error, answer = .error error → socket.inputEnded = true ∧ left.unread = [] := by
  obtain ⟨_, rfl⟩ := eq_of_fill read
  obtain ⟨arrivals, stops⟩ :=
    Socket.readFrom_plain socket.inputEnded [] limit socket.arrivals plain.arrivals
  refine ⟨⟨arrivals, plain.allowances⟩, ?_⟩
  rintro error rfl
  have failed := congrArg Prod.fst read
  simp only [fill, Socket.read] at failed
  rcases stops with stop | stop | ⟨stop, ended, last⟩
  · rw [stop] at failed
    cases failed
  · rw [stop] at failed
    cases failed
  · refine ⟨ended, ?_⟩
    simp only [Socket.unread, Socket.read, last, List.flatMap_nil]

/-- Filling takes all that arrived where it is no more than may be read. -/
theorem fill_whole (session : Session) (content : List UInt8)
    (arrivals : socket.arrivals = [.bytes content]) (goesOn : socket.inputEnded = false)
    (positive : 0 < limit) (inside : content.length ≤ limit) :
    session.fill limit socket = (.ok content.length,
      { session with input := session.input ++ content }, { socket with arrivals := [] }) := by
  obtain ⟨stop, stops, read⟩ := socket.read_whole content limit arrivals goesOn positive inside
  rcases filled : session.fill limit socket with ⟨answer, after, left⟩
  obtain ⟨rfl, rfl⟩ := eq_of_fill filled
  have answered := congrArg Prod.fst filled
  simp only [fill, read] at answered
  rw [read]
  rcases stops with rfl | rfl <;> rw [← answered]

/-- Flushing changes the output of a session. -/
theorem eq_of_flush {flushed : Session} {left : Socket} {answer : Except ConnectionError Flush}
    (written : session.flush socket = (answer, flushed, left)) :
    flushed = { session with output := (socket.write session.output).2.2.1 } ∧
      left = (socket.write session.output).2.2.2 := by
  have changed : (session.flush socket).2.1 =
      { session with output := (socket.write session.output).2.2.1 } := rfl
  have leaves : (session.flush socket).2.2 = (socket.write session.output).2.2.2 := rfl
  rw [← changed, ← leaves, written]
  exact ⟨rfl, rfl⟩

/-- Flushing takes the front of the output and hands it to the socket. It reports how many bytes
these are, unless it fails. -/
theorem taken_of_flush {flushed : Session} {left : Socket} {answer : Except ConnectionError Flush}
    (written : session.flush socket = (answer, flushed, left)) :
    ∃ content, session.output = content ++ flushed.output ∧
      left = { socket with
        allowances := left.allowances, delivered := socket.delivered ++ content } ∧
      ∀ count, answer = .ok (.done count) ∨ answer = .ok (.blocked count) →
        count = content.length := by
  have kept := Socket.writeFrom_conserves socket.peerClosed [] session.output socket.allowances
  rw [List.reverse_nil, List.flatten_nil, List.nil_append] at kept
  have answered := congrArg Prod.fst written
  obtain ⟨rfl, rfl⟩ := eq_of_flush written
  refine ⟨_, kept.symm, rfl, ?_⟩
  rintro count (rfl | rfl)
  · simp only [flush, Socket.write] at answered
    split at answered <;> cases answered
    rfl
  · simp only [flush, Socket.write] at answered
    split at answered <;> cases answered
    rfl

/-- Flushing loses no byte of the output. -/
theorem flush_conserves {flushed : Session} {left : Socket} {answer : Except ConnectionError Flush}
    (written : session.flush socket = (answer, flushed, left)) :
    left.delivered ++ flushed.output = socket.delivered ++ session.output := by
  obtain ⟨content, split, rest, _⟩ := taken_of_flush written
  rw [rest, split, List.append_assoc]

/-- Flushing is done exactly when no output is left. -/
theorem flush_done_iff {flushed : Session} {left : Socket} {answer : Except ConnectionError Flush}
    (written : session.flush socket = (answer, flushed, left)) :
    (∃ count, answer = .ok (.done count)) ↔ flushed.output = [] := by
  obtain ⟨rfl, rfl⟩ := eq_of_flush written
  have answered := congrArg Prod.fst written
  simp only [flush, Socket.write] at answered
  constructor
  · rintro ⟨count, rfl⟩
    apply (Socket.writeFrom_done_iff _ _ _ _).mp
    split at answered
    · next stop => exact stop
    · cases answered
    · cases answered
    · cases answered
  · intro nothing
    rw [(Socket.writeFrom_done_iff _ _ _ _).mpr nothing] at answered
    exact ⟨_, answered.symm⟩

/-- On a socket that does not fail by itself, flushing leaves no output when it is done, and fails
only when the peer has closed its end. -/
theorem flush_plain {flushed : Session} {left : Socket} {answer : Except ConnectionError Flush}
    (written : session.flush socket = (answer, flushed, left)) (plain : socket.Plain) :
    left.Plain ∧ (∀ count, answer = .ok (.done count) → flushed.output = []) ∧
      ∀ error, answer = .error error → socket.peerClosed = true := by
  obtain ⟨rfl, rfl⟩ := eq_of_flush written
  obtain ⟨allowances, stops⟩ := Socket.writeFrom_plain socket.peerClosed [] session.output
    socket.allowances plain.allowances
  have answered := congrArg Prod.fst written
  simp only [flush, Socket.write] at answered
  refine ⟨⟨plain.arrivals, allowances⟩, ?_, ?_⟩
  · rintro count rfl
    rcases stops with ⟨stop, last⟩ | stop | ⟨⟨failure, stop⟩, _⟩
    · exact last
    · rw [stop] at answered
      cases answered
    · rw [stop] at answered
      cases answered
  · rintro error rfl
    rcases stops with ⟨stop, _⟩ | stop | ⟨_, closed⟩
    · rw [stop] at answered
      cases answered
    · rw [stop] at answered
      cases answered
    · exact closed

/-- Flushing writes all output where nothing keeps the socket from taking it. -/
theorem flush_whole (session : Session) (allowances : socket.allowances = [])
    (goesOn : socket.peerClosed = false) :
    session.flush socket = (.ok (.done session.output.length), { session with output := [] },
      { socket with allowances := [], delivered := socket.delivered ++ session.output }) := by
  rw [flush, socket.write_whole session.output allowances goesOn]

/-- The outcomes of decoding for a session that has no request yet. -/
theorem parseNext_eq (session : Session) (limit : Nat) (idle : session.command = none) :
    session.parseNext limit = .ok
      (match Request.decode limit session.input with
        | .incomplete => (false, session)
        | .refused error => (true, { session with command := some (.error error) })
        | .complete value next =>
          (true, { session with input := next.ahead, command := some (.ok value) })) := by
  unfold parseNext
  rw [idle]
  simp only [Option.isSome_none, Bool.false_eq_true, ↓reduceIte]
  split
  · next nothing =>
    rw [List.isEmpty_iff.mp nothing]
    rfl
  · cases Request.decode limit session.input <;> rfl

end KeyValueServer.Session
