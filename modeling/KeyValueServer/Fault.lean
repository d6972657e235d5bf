import KeyValueServer.Connection.Stage
import KeyValueServer.Lock.Level

/-!
# Broken assumptions

Some operations rest on an assumption about their caller or about the state they find. Where it
does not hold the operation stops with a fault and changes nothing. A fault in a job ends the job
and nothing else. Items that are kept together have to fit into one block of memory, and the name
of a thread holds no zero byte; an operation that makes an object against these rules stops too.
-/

namespace KeyValueServer

/-- An assumption that did not hold. -/
inductive Fault where
  /-- A store was asked to do without shards. -/
  | noShards
  /-- A shard was named that the store does not have. -/
  | shardOutOfRange (length index : Nat)
  /-- A lock was requested while a lock of the same or a higher level was held. -/
  | lockOrder (requested : LockLevel) (held : Option LockLevel)
  /-- A request was to be decoded while another one was waiting for execution. -/
  | commandPending
  /-- A sum does not fit in 64 bits. -/
  | sumOverflow
  /-- A job found its connection in a stage other than its own. -/
  | stageMismatch (found expected : Option Stage)
  /-- Items that are kept together were too many for one block of memory. -/
  | capacityOverflow
  /-- A thread was to get a name with a zero byte, the first one at `position`. -/
  | threadName (position : Nat) (name : List UInt8)
  deriving DecidableEq, Repr

/-- The wording of a fault. -/
def Fault.message : Fault → String
  | .noShards => "a store needs at least one shard"
  | .shardOutOfRange length index =>
    s!"index out of bounds: the len is {length} but the index is {index}"
  | .lockOrder requested held =>
    "lock order violation: acquiring " ++ requested.name ++ " while holding " ++
      LockLevel.describeHeld held
  | .commandPending => "previous command not consumed"
  | .sumOverflow => "attempt to add with overflow"
  | .stageMismatch found expected =>
    "assertion `left == right` failed\n  left: " ++ Stage.describe found ++ "\n right: " ++
      Stage.describe expected
  | .capacityOverflow => "capacity overflow"
  | .threadName position name =>
    "thread name may not contain interior null bytes: NulError(" ++ toString position ++ ", [" ++
      ", ".intercalate (name.map fun byte => toString byte.toNat) ++ "])"

namespace Fault

/-- The largest number of bytes in one block of memory. -/
def largestBlock : Nat := 0x7fffffffffffffff

/-- Checks that `count` items of `width` bytes each fit into one block of memory. -/
def checkRoom (count width : Nat) : Except Fault Unit :=
  if count * width ≤ largestBlock then .ok () else .error .capacityOverflow

/-- Checks that a thread can have a name. -/
def checkThreadName (name : List UInt8) : Except Fault Unit :=
  match name.findIdx? (· = 0) with
  | some position => .error (.threadName position name)
  | none => .ok ()

end Fault

/-- Why something was not made. -/
inductive Obstacle (Reason : Type) where
  /-- It was refused for a reason of its own. -/
  | refused (reason : Reason)
  /-- An assumption did not hold. -/
  | fault (fault : Fault)
  deriving DecidableEq, Repr

end KeyValueServer
