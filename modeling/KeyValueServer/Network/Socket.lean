import KeyValueServer.Network.Failure

/-!
# Sockets

One end of a byte stream as its owner meets it. The future of the stream is part of the value: what
the next reads will meet, in order, and what the next writes will meet. Reading and writing are
then functions, and every behaviour of a network is some socket.

Behind the last arrival a read finds the end of input, if the peer has ended its output, and would
have to wait otherwise. Behind the last limit a write is taken whole, or fails if the peer is gone.
-/

namespace KeyValueServer

/-- What reads of a socket meet. -/
inductive Arrival where
  /-- Bytes from the peer. -/
  | bytes (content : List UInt8)
  /-- One read that would have to wait, although more arrives later. -/
  | wouldBlock
  /-- One read that is interrupted and has to be repeated. -/
  | interrupted
  /-- One read that fails. -/
  | failed (failure : Failure)
  deriving DecidableEq, Repr

/-- What one write of a socket meets. -/
inductive Allowance where
  /-- At most `count` bytes are taken. -/
  | take (count : Nat)
  | wouldBlock
  | interrupted
  | failed (failure : Failure)
  deriving DecidableEq, Repr

/-- A socket. -/
structure Socket where
  arrivals : List Arrival
  /-- Whether the end of input follows the last arrival. -/
  inputEnded : Bool
  allowances : List Allowance
  /-- Whether the peer has closed its end. -/
  peerClosed : Bool
  /-- Bytes taken from the owner that the peer has not received yet. -/
  delivered : List UInt8
  /-- Whether the owner has closed the socket. -/
  closed : Bool
  /-- Whether the socket is registered with a readiness set. -/
  registered : Bool
  deriving DecidableEq, Repr

/-- Why a run of reads stopped. -/
inductive ReadStop where
  /-- As many bytes were read as were asked for. -/
  | limit
  | wouldBlock
  | ended
  | failed (failure : Failure)
  deriving DecidableEq, Repr

/-- Why a run of writes stopped. -/
inductive WriteStop where
  /-- Everything was written. -/
  | done
  | wouldBlock
  /-- A write took nothing. -/
  | nothingTaken
  | failed (failure : Failure)
  deriving DecidableEq, Repr

namespace Socket

/-- A socket that was just connected. -/
def fresh : Socket := ⟨[], false, [], false, [], false, false⟩

/-- Reads until `limit` bytes were read or a read brings none, given the chunks read so far, last
one first. Returns all chunks, why reading stopped, and the arrivals that are left. -/
def readFrom (inputEnded : Bool) (chunks : List (List UInt8)) (limit : Nat) :
    List Arrival → List (List UInt8) × ReadStop × List Arrival
  | [] =>
    (chunks, if limit = 0 then .limit else if inputEnded then .ended else .wouldBlock, [])
  | arrival :: arrivals =>
    if limit = 0 then (chunks, .limit, arrival :: arrivals)
    else
      match arrival with
      | .bytes content =>
        if limit < content.length then
          (content.take limit :: chunks, .limit, .bytes (content.drop limit) :: arrivals)
        else readFrom inputEnded (content :: chunks) (limit - content.length) arrivals
      | .wouldBlock => (chunks, .wouldBlock, arrivals)
      | .interrupted => readFrom inputEnded chunks limit arrivals
      | .failed failure => (chunks, .failed failure, arrivals)

/-- Reads until `limit` bytes were read or a read brings none. Returns the bytes and why reading
stopped. -/
def read (socket : Socket) (limit : Nat) : List UInt8 × ReadStop × Socket :=
  let (chunks, stop, arrivals) := readFrom socket.inputEnded [] limit socket.arrivals
  (chunks.reverse.flatten, stop, { socket with arrivals := arrivals })

/-- Writes until the output is empty or a write takes nothing, given the chunks written so far,
last one first. Returns all chunks, why writing stopped, the output that is left, and the
allowances that are left. -/
def writeFrom (peerClosed : Bool) (chunks : List (List UInt8)) (output : List UInt8) :
    List Allowance → List (List UInt8) × WriteStop × List UInt8 × List Allowance
  | [] =>
    if output.isEmpty then (chunks, .done, [], [])
    else if peerClosed then (chunks, .failed SystemError.brokenPipe.failure, output, [])
    else (output :: chunks, .done, [], [])
  | allowance :: allowances =>
    if output.isEmpty then (chunks, .done, [], allowance :: allowances)
    else
      match allowance with
      | .take 0 => (chunks, .nothingTaken, output, allowances)
      | .take count =>
        writeFrom peerClosed (output.take count :: chunks) (output.drop count) allowances
      | .wouldBlock => (chunks, .wouldBlock, output, allowances)
      | .interrupted => writeFrom peerClosed chunks output allowances
      | .failed failure => (chunks, .failed failure, output, allowances)

/-- Writes until the output is empty or a write takes nothing. Returns the number of bytes taken,
why writing stopped, and the output that is left. -/
def write (socket : Socket) (output : List UInt8) : Nat × WriteStop × List UInt8 × Socket :=
  let (chunks, stop, left, allowances) := writeFrom socket.peerClosed [] output socket.allowances
  let taken := chunks.reverse.flatten
  (taken.length, stop, left,
    { socket with allowances := allowances, delivered := socket.delivered ++ taken })

/-- The peer sends bytes. -/
def feed (socket : Socket) (content : List UInt8) : Socket :=
  { socket with arrivals := socket.arrivals ++ [.bytes content] }

/-- The peer ends its output. -/
def endInput (socket : Socket) : Socket := { socket with inputEnded := true }

/-- The peer receives what was written for it. -/
def receive (socket : Socket) : List UInt8 × Socket :=
  (socket.delivered, { socket with delivered := [] })

/-- The peer receives what was written for it and closes its end. -/
def closePeer (socket : Socket) : List UInt8 × Socket :=
  let (received, socket) := socket.receive
  (received, { socket with inputEnded := true, peerClosed := true })

/-- The owner closes the socket. -/
def hangUp (socket : Socket) : Socket := { socket with closed := true, registered := false }

/-- Whether a read would bring something other than the advice to wait. -/
def isReadable (socket : Socket) : Bool := !socket.arrivals.isEmpty || socket.inputEnded

/-- Enters the socket into a readiness set. -/
def register (socket : Socket) : Except Failure Socket :=
  if socket.registered then .error .alreadyRegistered
  else .ok { socket with registered := true }

/-- Changes what a readiness set watches the socket for. -/
def reregister (socket : Socket) : Except Failure Socket :=
  if socket.registered then .ok socket else .error .notRegistered

/-- Takes the socket out of a readiness set. -/
def deregister (socket : Socket) : Except Failure Socket :=
  if socket.registered then .ok { socket with registered := false } else .error .notRegistered

end Socket

end KeyValueServer
