import KeyValueServer.Network.Socket

/-!
# Sockets lose nothing

What a read takes from a socket and what it leaves there are together what was there before, and a
write takes the front of the output and leaves the rest. This holds however the bytes are cut into
pieces and however often the calls have to wait. On a socket that does not fail by itself, reading
stops for good only at the end of input, and writing only when the peer has closed its end.
-/

namespace KeyValueServer

/-- The bytes that an arrival brings. -/
def Arrival.content : Arrival → List UInt8
  | .bytes content => content
  | _ => []

/-- Whether a read is not made to fail. -/
def Arrival.Plain : Arrival → Prop
  | .failed _ => False
  | _ => True

/-- Whether a write is not made to fail and takes something, if it takes anything. -/
def Allowance.Plain : Allowance → Prop
  | .take count => count ≠ 0
  | .failed _ => False
  | _ => True

namespace Socket

/-- The bytes that can be read from a socket, now or after waiting. -/
def unread (socket : Socket) : List UInt8 := socket.arrivals.flatMap Arrival.content

/-- Whether no call on a socket is made to fail by the network. -/
structure Plain (socket : Socket) : Prop where
  arrivals : ∀ arrival ∈ socket.arrivals, arrival.Plain
  allowances : ∀ allowance ∈ socket.allowances, allowance.Plain

/-- A run of reads keeps the order of the bytes and loses none. -/
theorem readFrom_conserves (inputEnded : Bool) (chunks : List (List UInt8)) (limit : Nat)
    (arrivals : List Arrival) :
    (readFrom inputEnded chunks limit arrivals).1.reverse.flatten ++
        (readFrom inputEnded chunks limit arrivals).2.2.flatMap Arrival.content =
      chunks.reverse.flatten ++ arrivals.flatMap Arrival.content := by
  induction arrivals generalizing chunks limit with
  | nil => rfl
  | cons arrival arrivals inductionHypothesis =>
    unfold readFrom
    split
    · rfl
    · cases arrival with
      | bytes content =>
        dsimp only
        split
        · -- The bytes are cut at the limit, and their rest stays in front.
          simp only [List.reverse_cons, List.flatten_append, List.flatten_cons, List.flatten_nil,
            List.append_nil, List.flatMap_cons, Arrival.content, List.append_assoc]
          rw [← List.append_assoc (content.take limit), List.take_append_drop]
        · rw [inductionHypothesis]
          simp only [List.reverse_cons, List.flatten_append, List.flatten_cons, List.flatten_nil,
            List.append_nil, List.flatMap_cons, Arrival.content, List.append_assoc]
      | wouldBlock => rfl
      | interrupted =>
        dsimp only
        rw [inductionHypothesis]
        rfl
      | failed failure => rfl

/-- A run of reads without failures ends for good only behind the last arrival, at the end of
input, and leaves no failures behind. -/
theorem readFrom_plain (inputEnded : Bool) (chunks : List (List UInt8)) (limit : Nat)
    (arrivals : List Arrival) (plain : ∀ arrival ∈ arrivals, arrival.Plain) :
    (∀ arrival ∈ (readFrom inputEnded chunks limit arrivals).2.2, arrival.Plain) ∧
      ((readFrom inputEnded chunks limit arrivals).2.1 = .limit ∨
        (readFrom inputEnded chunks limit arrivals).2.1 = .wouldBlock ∨
        (readFrom inputEnded chunks limit arrivals).2.1 = .ended ∧ inputEnded = true ∧
          (readFrom inputEnded chunks limit arrivals).2.2 = []) := by
  induction arrivals generalizing chunks limit with
  | nil =>
    unfold readFrom
    refine ⟨plain, ?_⟩
    dsimp only
    split
    · exact .inl rfl
    · cases inputEnded
      · exact .inr (.inl rfl)
      · exact .inr (.inr ⟨rfl, rfl, rfl⟩)
  | cons arrival arrivals inductionHypothesis =>
    obtain ⟨first, others⟩ := List.forall_mem_cons.mp plain
    unfold readFrom
    split
    · exact ⟨plain, .inl rfl⟩
    · cases arrival with
      | bytes content =>
        dsimp only
        split
        · exact ⟨List.forall_mem_cons.mpr ⟨trivial, others⟩, .inl rfl⟩
        · exact inductionHypothesis _ _ others
      | wouldBlock => exact ⟨others, .inr (.inl rfl)⟩
      | interrupted => exact inductionHypothesis _ _ others
      | failed failure => exact first.elim

/-- What was read and what is still unread is what was unread. -/
theorem read_conserves (socket : Socket) (limit : Nat) :
    (socket.read limit).1 ++ (socket.read limit).2.2.unread = socket.unread :=
  readFrom_conserves socket.inputEnded [] limit socket.arrivals

/-- A chunk adds its bytes to those of the chunks before it. -/
theorem length_chunks_cons (chunk : List UInt8) (chunks : List (List UInt8)) :
    (chunk :: chunks).reverse.flatten.length = chunks.reverse.flatten.length + chunk.length := by
  simp only [List.reverse_cons, List.flatten_append, List.flatten_cons, List.flatten_nil,
    List.append_nil, List.length_append]

/-- A run of reads brings no more bytes than it may. -/
theorem readFrom_bounded (inputEnded : Bool) (chunks : List (List UInt8)) (limit : Nat)
    (arrivals : List Arrival) :
    (readFrom inputEnded chunks limit arrivals).1.reverse.flatten.length ≤
      chunks.reverse.flatten.length + limit := by
  induction arrivals generalizing chunks limit with
  | nil => exact Nat.le_add_right _ _
  | cons arrival arrivals inductionHypothesis =>
    unfold readFrom
    split
    · exact Nat.le_add_right _ _
    · cases arrival with
      | bytes content =>
        dsimp only
        split
        · rw [length_chunks_cons, List.length_take]
          omega
        · have others := inductionHypothesis (content :: chunks) (limit - content.length)
          rw [length_chunks_cons] at others
          omega
      | wouldBlock => exact Nat.le_add_right _ _
      | interrupted => exact inductionHypothesis chunks limit
      | failed failure => exact Nat.le_add_right _ _

/-- A read brings no more bytes than it may. -/
theorem read_bounded (socket : Socket) (limit : Nat) : (socket.read limit).1.length ≤ limit := by
  have bounded := readFrom_bounded socket.inputEnded [] limit socket.arrivals
  rw [List.reverse_nil, List.flatten_nil, List.length_nil, Nat.zero_add] at bounded
  exact bounded

/-- All that arrived is read where it is no more than may be read. -/
theorem read_whole (socket : Socket) (content : List UInt8) (limit : Nat)
    (arrivals : socket.arrivals = [.bytes content]) (goesOn : socket.inputEnded = false)
    (positive : 0 < limit) (inside : content.length ≤ limit) :
    ∃ stop, (stop = .limit ∨ stop = .wouldBlock) ∧
      socket.read limit = (content, stop, { socket with arrivals := [] }) := by
  have more : limit ≠ 0 := Nat.ne_of_gt positive
  simp only [read, arrivals, readFrom, more, Nat.not_lt.mpr inside, goesOn, ↓reduceIte,
    Bool.false_eq_true, List.reverse_cons, List.reverse_nil, List.nil_append, List.flatten_cons,
    List.flatten_nil, List.append_nil]
  split
  · exact ⟨.limit, .inl rfl, rfl⟩
  · exact ⟨.wouldBlock, .inr rfl, rfl⟩

/-- A run of writes keeps the order of the output and loses nothing. -/
theorem writeFrom_conserves (peerClosed : Bool) (chunks : List (List UInt8))
    (output : List UInt8) (allowances : List Allowance) :
    (writeFrom peerClosed chunks output allowances).1.reverse.flatten ++
        (writeFrom peerClosed chunks output allowances).2.2.1 =
      chunks.reverse.flatten ++ output := by
  induction allowances generalizing chunks output with
  | nil =>
    unfold writeFrom
    split
    · next nothing => rw [List.isEmpty_iff.mp nothing]
    · split
      · rfl
      · simp only [List.reverse_cons, List.flatten_append, List.flatten_cons, List.flatten_nil,
          List.append_nil]
  | cons allowance allowances inductionHypothesis =>
    unfold writeFrom
    split
    · next nothing => rw [List.isEmpty_iff.mp nothing]
    · split
      · rfl
      · rw [inductionHypothesis]
        simp only [List.reverse_cons, List.flatten_append, List.flatten_cons, List.flatten_nil,
          List.append_nil, List.append_assoc, List.take_append_drop]
      · rfl
      · exact inductionHypothesis _ _
      · rfl

/-- A run of writes is done exactly when nothing is left. -/
theorem writeFrom_done_iff (peerClosed : Bool) (chunks : List (List UInt8)) (output : List UInt8)
    (allowances : List Allowance) :
    (writeFrom peerClosed chunks output allowances).2.1 = .done ↔
      (writeFrom peerClosed chunks output allowances).2.2.1 = [] := by
  induction allowances generalizing chunks output with
  | nil =>
    unfold writeFrom
    split
    · exact iff_of_true rfl rfl
    · next something =>
      split
      · exact iff_of_false nofun fun nothing => something (List.isEmpty_iff.mpr nothing)
      · exact iff_of_true rfl rfl
  | cons allowance allowances inductionHypothesis =>
    unfold writeFrom
    split
    · exact iff_of_true rfl rfl
    · next something =>
      have left : output ≠ [] := fun nothing => something (List.isEmpty_iff.mpr nothing)
      split
      · exact iff_of_false nofun left
      · exact inductionHypothesis _ _
      · exact iff_of_false nofun left
      · exact inductionHypothesis _ _
      · exact iff_of_false nofun left

/-- A run of writes on which the network makes none fail is done when nothing is left, and fails
only when the peer has closed its end. -/
theorem writeFrom_plain (peerClosed : Bool) (chunks : List (List UInt8)) (output : List UInt8)
    (allowances : List Allowance) (plain : ∀ allowance ∈ allowances, allowance.Plain) :
    (∀ allowance ∈ (writeFrom peerClosed chunks output allowances).2.2.2, allowance.Plain) ∧
      ((writeFrom peerClosed chunks output allowances).2.1 = .done ∧
          (writeFrom peerClosed chunks output allowances).2.2.1 = [] ∨
        (writeFrom peerClosed chunks output allowances).2.1 = .wouldBlock ∨
        (∃ failure, (writeFrom peerClosed chunks output allowances).2.1 = .failed failure) ∧
          peerClosed = true) := by
  induction allowances generalizing chunks output with
  | nil =>
    unfold writeFrom
    split
    · exact ⟨plain, .inl ⟨rfl, rfl⟩⟩
    · split
      · next closed => exact ⟨plain, .inr (.inr ⟨⟨_, rfl⟩, closed⟩)⟩
      · exact ⟨plain, .inl ⟨rfl, rfl⟩⟩
  | cons allowance allowances inductionHypothesis =>
    obtain ⟨first, others⟩ := List.forall_mem_cons.mp plain
    unfold writeFrom
    split
    · exact ⟨plain, .inl ⟨rfl, rfl⟩⟩
    · split
      · exact absurd rfl first
      · exact inductionHypothesis _ _ others
      · exact ⟨others, .inr (.inl rfl)⟩
      · exact inductionHypothesis _ _ others
      · exact first.elim

/-- All output is written where nothing keeps a socket from taking it. -/
theorem write_whole (socket : Socket) (output : List UInt8) (allowances : socket.allowances = [])
    (goesOn : socket.peerClosed = false) :
    socket.write output = (output.length, .done, [],
      { socket with allowances := [], delivered := socket.delivered ++ output }) := by
  cases output with
  | nil => simp [write, writeFrom, allowances]
  | cons byte output => simp [write, writeFrom, allowances, goesOn]

end Socket

end KeyValueServer
