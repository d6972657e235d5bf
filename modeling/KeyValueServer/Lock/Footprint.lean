import KeyValueServer.Lock
import KeyValueServer.Store.KeyHash

/-!
# The locks of each operation

The registries have four locks, one for the map of all connections and one for the set of each
stage; every shard of the store has a lock of its own. To other threads an operation on them is the
list of its acquisitions and releases. Several locks of one operation are nested, the registries
in the order of their levels; shards are locked one after the other.
-/

namespace KeyValueServer

/-- A thread takes a lock or gives it back. -/
inductive LockAction where
  | acquire (lock : Nat)
  | release (lock : Nat)
  deriving DecidableEq, Repr

/-- The operations of a server that take locks. -/
inductive LockedOperation where
  | insertConnection
  /-- A change of stage, which looks no further when the connection is not known. -/
  | transition (known : Bool)
  | removeConnection
  | stageOf
  | countConnections
  | connectionCounts
  | clearConnections
  | getKey (key : List UInt8)
  | setKey (key : List UInt8)
  | deleteKeys (keys : List (List UInt8))
  | countKeys
  | shardSize (index : Nat)
  deriving DecidableEq, Repr

namespace LockedOperation

/-- The levels of the locks of a server whose store has `shards` shards. -/
def levels (shards : Nat) : List LockLevel :=
  [.allSockets, .readRegistered, .processing, .writePending] ++ List.replicate shards .shard

/-- The lock of the map of all connections. -/
def connectionsLock : Nat := 0

/-- The locks of the registries in the order of their levels. -/
def registryLocks : List Nat := [connectionsLock, 1, 2, 3]

/-- The lock of a shard. -/
def shardLock (index : Nat) : Nat := registryLocks.length + index

/-- Takes locks in order and gives them back in reverse. -/
def nested (locks : List Nat) : List LockAction :=
  locks.map .acquire ++ locks.reverse.map .release

/-- Takes the lock of the shard of a key. -/
def lockingKey (shards : Nat) (key : List UInt8) : List LockAction :=
  nested [shardLock ((KeyHash.hash key).toNat % shards)]

/-- What an operation does to the locks of a server whose store has `shards` shards. -/
def actions (shards : Nat) : LockedOperation → List LockAction
  | insertConnection | countConnections | transition false => nested [connectionsLock]
  | transition true | removeConnection | stageOf | connectionCounts | clearConnections =>
    nested registryLocks
  | getKey key | setKey key => lockingKey shards key
  | deleteKeys keys => keys.flatMap (lockingKey shards)
  | countKeys => (List.range shards).flatMap fun index => nested [shardLock index]
  | shardSize index => nested [shardLock index]

end LockedOperation

end KeyValueServer
