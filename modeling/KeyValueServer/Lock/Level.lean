/-!
# Lock levels

Every lock of the server has a level, and a thread takes locks in ascending order of level only.
The order of the levels is the order in which one operation may need several locks: first the
registry of all sockets, then the three stage registries, and one shard of the store last.
-/

namespace KeyValueServer

/-- The levels of the locks, in the order in which they may be taken. -/
inductive LockLevel where
  | allSockets
  | readRegistered
  | processing
  | writePending
  | shard
  deriving DecidableEq, Repr

namespace LockLevel

/-- The place of a level in the order. -/
def rank : LockLevel → Nat
  | .allSockets => 1
  | .readRegistered => 2
  | .processing => 3
  | .writePending => 4
  | .shard => 5

/-- The name of a level. -/
def name : LockLevel → String
  | .allSockets => "AllSockets"
  | .readRegistered => "ReadRegistered"
  | .processing => "Processing"
  | .writePending => "WritePending"
  | .shard => "Shard"

/-- All levels. -/
def all : List LockLevel := [.allSockets, .readRegistered, .processing, .writePending, .shard]

/-- The place of the highest level a thread holds; a thread without locks is below every level. -/
def heldRank : Option LockLevel → Nat
  | none => 0
  | some level => level.rank

/-- The level a thread holds, in words. -/
def describeHeld : Option LockLevel → String
  | none => "None"
  | some level => "Some(" ++ level.name ++ ")"

end LockLevel

end KeyValueServer
