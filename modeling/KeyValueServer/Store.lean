import KeyValueServer.Fault
import KeyValueServer.Store.KeyHash
import Std.Data.ExtTreeMap

/-!
# The store

Keys and values are byte strings. The keys are divided over a fixed number of shards by their
hash, so that a key is always looked for in the same shard. The store counts the look-ups,
insertions and removals that were asked of it, modulo 2⁶⁴.
-/

namespace KeyValueServer

/-- One part of the key space with its values. Two shards with the same values are equal. -/
abbrev Shard := Std.ExtTreeMap (List UInt8) (List UInt8)

/-- A store with at least one shard. -/
structure Store where
  shards : Array Shard
  gets : UInt64
  sets : UInt64
  deletes : UInt64
  shards_pos : 0 < shards.size

namespace Store

/-- The number of shards of a store whose user does not choose one. -/
def defaultShardCount : Nat := 10

/-- The store with `count` shards and without keys. -/
def empty (count : Nat) (positive : 0 < count) : Store :=
  ⟨Array.replicate count ∅, 0, 0, 0, by simpa using positive⟩

/-- How many bytes a store keeps for each of its shards, apart from keys and values. -/
def shardWidth : Nat := 64

/-- The store with `count` shards and without keys, if there can be one. -/
def create (count : Nat) : Except Fault Store :=
  if positive : 0 < count then
    (Fault.checkRoom count shardWidth).map fun _ => empty count positive
  else .error .noShards

/-- The number of shards. -/
def shardCount (store : Store) : Nat := store.shards.size

/-- The shard that holds a key if any does. -/
def shardIndex (store : Store) (key : List UInt8) : Nat :=
  (KeyHash.hash key).toNat % store.shardCount

/-- Every key belongs to a shard of the store. -/
theorem shardIndex_lt (store : Store) (key : List UInt8) :
    store.shardIndex key < store.shards.size :=
  Nat.mod_lt _ store.shards_pos

/-- The contents of the shard of a key. -/
def shardOf (store : Store) (key : List UInt8) : Shard :=
  have inside := store.shardIndex_lt key
  store.shards[store.shardIndex key]

/-- The value of a key, without counting a look-up. -/
def find? (store : Store) (key : List UInt8) : Option (List UInt8) :=
  (store.shardOf key)[key]?

/-- Changes the shard of a key and no other. -/
def updateShard (store : Store) (key : List UInt8) (change : Shard → Shard) : Store :=
  { store with
    shards := store.shards.modify (store.shardIndex key) change
    shards_pos := by simpa using store.shards_pos }

/-- Looks up a key. -/
def get (store : Store) (key : List UInt8) : Option (List UInt8) × Store :=
  (store.find? key, { store with gets := store.gets + 1 })

/-- Gives a key a value; the answer is whether the key is new. -/
def set (store : Store) (key value : List UInt8) : Bool × Store :=
  let isNew := (store.find? key).isNone
  let changed := store.updateShard key (·.insert key value)
  (isNew, { changed with sets := changed.sets + 1 })

/-- Removes a key; the answer is whether it was there. -/
def delete (store : Store) (key : List UInt8) : Bool × Store :=
  let present := (store.find? key).isSome
  let changed := store.updateShard key (·.erase key)
  (present, { changed with deletes := changed.deletes + 1 })

/-- Removes keys one by one; `removed` counts those that were there. -/
def deleteManyFrom (removed : Nat) (store : Store) : List (List UInt8) → Nat × Store
  | [] => (removed, store)
  | key :: keys =>
    let (present, next) := store.delete key
    deleteManyFrom (if present then removed + 1 else removed) next keys

/-- Removes keys one by one; the answer is how many were there. -/
def deleteMany (store : Store) (keys : List (List UInt8)) : Nat × Store :=
  deleteManyFrom 0 store keys

/-- The number of keys in a shard. -/
def shardSize (store : Store) (index : Nat) : Except Fault Nat :=
  match store.shards[index]? with
  | some shard => .ok shard.size
  | none => .error (.shardOutOfRange store.shardCount index)

/-- The number of keys in each shard. -/
def shardSizes (store : Store) : List Nat :=
  store.shards.toList.map fun shard => shard.size

/-- The number of keys. -/
def size (store : Store) : Nat := store.shardSizes.foldl (· + ·) 0

/-- Whether the store holds no key. -/
def isEmpty (store : Store) : Bool := store.size == 0

/-- What a store reports about itself. -/
structure Usage where
  keys : Nat
  gets : UInt64
  sets : UInt64
  deletes : UInt64
  deriving DecidableEq, Repr

/-- The current report. -/
def usage (store : Store) : Usage :=
  ⟨store.size, store.gets, store.sets, store.deletes⟩

/-- The store in reports on the server's own state. -/
def describe (store : Store) : String :=
  "ShardedStore \x7b shards: " ++ toString store.shardCount ++
    ", get_count: " ++ toString store.gets.toNat ++
    ", set_count: " ++ toString store.sets.toNat ++
    ", del_count: " ++ toString store.deletes.toNat ++ " \x7d"

end Store

end KeyValueServer
