/-!
# The hash of a key

SipHash with one compression round and three finalisation rounds under the zero key, over the
length of a byte string as eight bytes followed by the bytes themselves. The same key has the same
hash in every run, and its hash decides the shard that holds it.
-/

namespace KeyValueServer.KeyHash

/-- The four words of the hash state. -/
structure State where
  a : UInt64
  b : UInt64
  c : UInt64
  d : UInt64
  deriving DecidableEq

/-- A word with its bits moved `count` places up, where those that fall off come in below. -/
def rotate (word : UInt64) (count : UInt64) : UInt64 :=
  (word <<< count) ||| (word >>> (64 - count))

/-- The state for the zero key. -/
def State.initial : State :=
  ⟨0x736f6d6570736575, 0x646f72616e646f6d, 0x6c7967656e657261, 0x7465646279746573⟩

/-- One round of mixing. -/
def State.round (state : State) : State :=
  let a := state.a + state.b
  let b := rotate state.b 13 ^^^ a
  let a := rotate a 32
  let c := state.c + state.d
  let d := rotate state.d 16 ^^^ c
  let a := a + d
  let d := rotate d 21 ^^^ a
  let c := c + b
  let b := rotate b 17 ^^^ c
  let c := rotate c 32
  ⟨a, b, c, d⟩

/-- Takes up one word of the message. -/
def State.absorb (state : State) (word : UInt64) : State :=
  let mixed := State.round ⟨state.a, state.b, state.c, state.d ^^^ word⟩
  ⟨mixed.a ^^^ word, mixed.b, mixed.c, mixed.d⟩

/-- The hash of what the state has taken up. -/
def State.finish (state : State) : UInt64 :=
  let mixed := (State.round (State.round (State.round
    ⟨state.a, state.b, state.c ^^^ 0xff, state.d⟩)))
  mixed.a ^^^ mixed.b ^^^ mixed.c ^^^ mixed.d

/-- Takes up bytes, eight to a word and the lowest first; `word` holds the `filled` bytes that do
not make a word yet. The last word holds what is left, and the message length in its top byte. -/
def State.absorbBytes (state : State) (length : Nat) (filled : Nat) (word : UInt64) :
    List UInt8 → State
  | [] => state.absorb (word ||| ((length % 256).toUInt64 <<< 56))
  | byte :: rest =>
    let word := word ||| (byte.toUInt64 <<< (8 * filled).toUInt64)
    if filled = 7 then (state.absorb word).absorbBytes length 0 0 rest
    else state.absorbBytes length (filled + 1) word rest

/-- The hash of a key. -/
def hash (key : List UInt8) : UInt64 :=
  ((State.initial.absorb key.length.toUInt64).absorbBytes (key.length + 8) 0 0 key).finish

end KeyValueServer.KeyHash
