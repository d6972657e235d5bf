import Mathlib.Data.Set.Basic
import KeyValueServer.Lock.Footprint
import KeyValueServer.Proofs.Connection.Directory
import KeyValueServer.Proofs.Store.Lookup
import KeyValueServer.Proofs.Store.OneMap

/-!
# What the locks of an operation protect

To other threads an operation on the registries or the store is the locks that it takes. To itself
it is one step on their contents. The two accounts fit together: an operation looks at nothing but
what its locks protect, and changes nothing else. A change of stage looks at the map of all
connections first, and at the sets of the stages only if it finds the connection there. The number
of shards never changes, and the counters of a store are added to without a lock.
-/

namespace KeyValueServer

namespace LockedOperation

/-- The lock of the set of a stage. -/
def stageLock : Stage → Nat
  | .readRegistered => 1
  | .processing => 2
  | .writePending => 3

/-- The locks that an operation takes. -/
def locks (shards : Nat) (operation : LockedOperation) : Set Nat :=
  {lock | .acquire lock ∈ operation.actions shards}

/-- Of nested locks all are taken. -/
theorem acquire_mem_nested (lock : Nat) (locks : List Nat) :
    .acquire lock ∈ nested locks ↔ lock ∈ locks := by
  simp [nested]

/-- The lock of every stage is one of those of the registries. -/
theorem stageLock_mem (stage : Stage) : stageLock stage ∈ registryLocks := by
  cases stage <;> decide

/-- An operation on all registries takes their locks. -/
theorem mem_locks_of_nested {shards : Nat} {operation : LockedOperation} {taken : List Nat}
    (nests : operation.actions shards = nested taken) (lock : Nat) :
    lock ∈ operation.locks shards ↔ lock ∈ taken := by
  rw [locks, Set.mem_ofPred_eq, nests, acquire_mem_nested]

/-- The removal of keys takes the locks of their shards. -/
theorem mem_locks_deleteKeys (shards : Nat) (keys : List (List UInt8)) (lock : Nat) :
    lock ∈ (deleteKeys keys).locks shards ↔
      ∃ key ∈ keys, lock = shardLock ((KeyHash.hash key).toNat % shards) := by
  simp only [locks, Set.mem_ofPred_eq, actions, List.mem_flatMap, lockingKey, acquire_mem_nested,
    List.mem_singleton]

/-- The count of all keys takes the locks of all shards. -/
theorem mem_locks_countKeys (shards lock : Nat) :
    lock ∈ countKeys.locks shards ↔ ∃ index < shards, lock = shardLock index := by
  simp only [locks, Set.mem_ofPred_eq, actions, List.mem_flatMap, acquire_mem_nested,
    List.mem_singleton, List.mem_range]

end LockedOperation

open LockedOperation

namespace Registries

/-- What an operation on registries is to other threads. -/
def Operation.locked (registries : Registries) : Operation → LockedOperation
  | .insert _ _ => .insertConnection
  | .transition id _ _ => .transition (registries.all.contains id)
  | .remove _ => .removeConnection
  | .clear => .clearConnections
  | .stageOf _ => .stageOf
  | .size => .countConnections
  | .counts => .connectionCounts

/-- Two registries agree in what some locks protect. -/
structure Agree (locks : Set Nat) (left right : Registries) : Prop where
  all : connectionsLock ∈ locks → left.all = right.all
  members : ∀ stage, stageLock stage ∈ locks → left.members stage = right.members stage

variable {left right : Registries}

/-- Registries that agree in everything are the same. -/
theorem Agree.eq {locks : Set Nat} (agree : Agree locks left right)
    (every : ∀ lock ∈ registryLocks, lock ∈ locks) : left = right := by
  have all := agree.all (every connectionsLock List.mem_cons_self)
  have members (stage : Stage) := agree.members stage (every _ (stageLock_mem stage))
  obtain ⟨_, _, _, _⟩ := left
  obtain ⟨_, _, _, _⟩ := right
  obtain rfl := all
  obtain rfl := members .readRegistered
  obtain rfl := members .processing
  obtain rfl := members .writePending
  rfl

/-- A connection that is not known is not moved. -/
theorem perform_transition_of_unknown {registries : Registries} {id : ConnId}
    (unknown : registries.all.contains id = false) (before : Option Stage) (after : Stage) :
    registries.perform (.transition id before after) =
      (.moved (.error (.unknown id)), registries) := by
  simp only [perform, transition, unknown, Bool.false_eq_true, if_false]

/-- An operation takes all locks of the registries, or only that of the map of all connections. Then
it looks only at the map, and leaves the sets of the stages as they are. -/
theorem locked_cases (registries : Registries) (shards : Nat) (operation : Operation) :
    (operation.locked registries).actions shards = nested registryLocks ∨
      (operation.locked registries).actions shards = nested [connectionsLock] ∧
        (∀ stage, (registries.perform operation).2.members stage = registries.members stage) ∧
        ∀ other : Registries, registries.all = other.all →
          (registries.perform operation).1 = (other.perform operation).1 ∧
            (registries.perform operation).2.all = (other.perform operation).2.all := by
  cases operation with
  | remove | clear | stageOf | counts => exact .inl rfl
  | insert id peer =>
    refine .inr ⟨rfl, fun stage => by cases stage <;> rfl, fun other same => ?_⟩
    simp only [perform, insert, size, same, and_self]
  | size =>
    refine .inr ⟨rfl, fun _ => rfl, fun other same => ?_⟩
    simp only [perform, size, same, and_self]
  | transition id before after =>
    cases known : registries.all.contains id with
    | true =>
      left
      rw [Operation.locked, known]
      rfl
    | false =>
      right
      refine ⟨?_, fun _ => ?_, fun other same => ?_⟩
      · rw [Operation.locked, known]
        rfl
      · rw [perform_transition_of_unknown known]
      · have unknown := known
        rw [same] at unknown
        rw [perform_transition_of_unknown known, perform_transition_of_unknown unknown]
        exact ⟨rfl, same⟩

/-- An operation on registries looks at nothing but what its locks protect: registries that agree in
this give the same answer and agree in it afterwards. What its locks do not protect it leaves as it
is. -/
theorem covered_perform (shards : Nat) (operation : Operation) (left : Registries) :
    (∀ right, Agree ((operation.locked left).locks shards) left right →
      (left.perform operation).1 = (right.perform operation).1 ∧
        Agree ((operation.locked left).locks shards) (left.perform operation).2
          (right.perform operation).2) ∧
      Agree ((operation.locked left).locks shards)ᶜ left (left.perform operation).2 := by
  rcases left.locked_cases shards operation with takes | ⟨takes, stays, looks⟩
  · have taken (lock : Nat) := mem_locks_of_nested takes lock
    constructor
    · intro right agree
      obtain rfl := agree.eq fun lock member => (taken lock).mpr member
      exact ⟨rfl, fun _ => rfl, fun _ _ => rfl⟩
    · exact ⟨fun outside => absurd ((taken _).mpr List.mem_cons_self) outside,
        fun stage outside => absurd ((taken _).mpr (stageLock_mem stage)) outside⟩
  · have taken (lock : Nat) := mem_locks_of_nested takes lock
    have stageless (stage : Stage) : stageLock stage ∉ (operation.locked left).locks shards := by
      rw [taken]
      cases stage <;> decide
    constructor
    · intro right agree
      obtain ⟨answer, all⟩ := looks right (agree.all ((taken _).mpr List.mem_cons_self))
      exact ⟨answer, fun _ => all, fun stage member => absurd member (stageless stage)⟩
    · exact ⟨fun outside => absurd ((taken _).mpr List.mem_cons_self) outside,
        fun stage _ => (stays stage).symm⟩

end Registries

namespace Store

/-- What an operation on a store is to other threads. -/
def Operation.locked : Operation → LockedOperation
  | .get key => .getKey key
  | .set key _ => .setKey key
  | .delete key => .deleteKeys [key]
  | .deleteMany keys => .deleteKeys keys
  | .size | .isEmpty | .usage => .countKeys
  | .shardSize index => .shardSize index

/-- Two stores have the same shards where some locks protect them, and the same in what needs no
lock. -/
structure Agree (locks : Set Nat) (left right : Store) : Prop where
  shardCount : left.shardCount = right.shardCount
  gets : left.gets = right.gets
  sets : left.sets = right.sets
  deletes : left.deletes = right.deletes
  shards : ∀ index, shardLock index ∈ locks → left.shards[index]? = right.shards[index]?

variable {left right : Store} {locks : Set Nat} {key : List UInt8}

/-- Keys are in the same place in both. -/
theorem Agree.shardIndex (agree : Agree locks left right) (key : List UInt8) :
    left.shardIndex key = right.shardIndex key := by
  rw [Store.shardIndex, Store.shardIndex, agree.shardCount]

/-- The shard of a key is found at its place. -/
theorem getElem?_shardIndex (store : Store) (key : List UInt8) :
    store.shards[store.shardIndex key]? = some (store.shardOf key) :=
  Array.getElem?_eq_getElem (store.shardIndex_lt key)

/-- A key whose shard is the same in both has the same value. -/
theorem Agree.find? (agree : Agree locks left right)
    (inside : shardLock (left.shardIndex key) ∈ locks) : left.find? key = right.find? key := by
  have same := agree.shards _ inside
  rw [getElem?_shardIndex, agree.shardIndex, getElem?_shardIndex] at same
  rw [Store.find?, Store.find?, Option.some.inj same]

/-- A change of the shard of a key changes only this one. -/
theorem getElem?_updateShard (store : Store) (key : List UInt8) (change : Shard → Shard)
    (index : Nat) :
    (store.updateShard key change).shards[index]? =
      if store.shardIndex key = index then (store.shards[index]?).map change
      else store.shards[index]? :=
  Array.getElem?_modify

/-- The same change of a shard keeps stores in agreement. -/
theorem Agree.updateShard (agree : Agree locks left right) (key : List UInt8)
    (change : Shard → Shard) :
    Agree locks (left.updateShard key change) (right.updateShard key change) where
  shardCount := by
    simp only [Store.shardCount, Store.updateShard, Array.size_modify]
    exact agree.shardCount
  gets := agree.gets
  sets := agree.sets
  deletes := agree.deletes
  shards index inside := by
    rw [getElem?_updateShard, getElem?_updateShard, agree.shardIndex, agree.shards index inside]

/-- A look-up looks at the shard of its key. -/
theorem Agree.get (agree : Agree locks left right)
    (inside : shardLock (left.shardIndex key) ∈ locks) :
    (left.get key).1 = (right.get key).1 ∧ Agree locks (left.get key).2 (right.get key).2 :=
  ⟨agree.find? inside, { agree with gets := congrArg (· + 1) agree.gets }⟩

/-- So does an insertion. -/
theorem Agree.set (agree : Agree locks left right)
    (inside : shardLock (left.shardIndex key) ∈ locks) (value : List UInt8) :
    (left.set key value).1 = (right.set key value).1 ∧
      Agree locks (left.set key value).2 (right.set key value).2 := by
  have changed := agree.updateShard key (·.insert key value)
  refine ⟨?_, { changed with sets := congrArg (· + 1) changed.sets }⟩
  simp only [Store.set, agree.find? inside]

/-- So does a removal. -/
theorem Agree.delete (agree : Agree locks left right)
    (inside : shardLock (left.shardIndex key) ∈ locks) :
    (left.delete key).1 = (right.delete key).1 ∧
      Agree locks (left.delete key).2 (right.delete key).2 := by
  have changed := agree.updateShard key (·.erase key)
  refine ⟨?_, { changed with deletes := congrArg (· + 1) changed.deletes }⟩
  simp only [Store.delete, agree.find? inside]

/-- The removal of several keys looks at the shard of each of them. -/
theorem Agree.deleteManyFrom (agree : Agree locks left right) (removed : Nat)
    (keys : List (List UInt8)) (inside : ∀ key ∈ keys, shardLock (left.shardIndex key) ∈ locks) :
    (left.deleteManyFrom removed keys).1 = (right.deleteManyFrom removed keys).1 ∧
      Agree locks (left.deleteManyFrom removed keys).2 (right.deleteManyFrom removed keys).2 := by
  induction keys generalizing left right removed with
  | nil => exact ⟨rfl, agree⟩
  | cons key keys inductionHypothesis =>
    obtain ⟨first, others⟩ := List.forall_mem_cons.mp inside
    obtain ⟨answer, deleted⟩ := agree.delete first
    have insideThen : ∀ other ∈ keys, shardLock ((left.delete key).2.shardIndex other) ∈ locks := by
      intro other member
      exact shardIndex_updateShard left key other _ ▸ others other member
    simp only [Store.deleteManyFrom, answer]
    exact inductionHypothesis deleted _ insideThen

/-- Stores that agree in every shard have the same shards. -/
theorem Agree.shards_eq (agree : Agree locks left right)
    (every : ∀ index < left.shardCount, shardLock index ∈ locks) : left.shards = right.shards := by
  refine Array.ext_getElem? fun index => ?_
  by_cases inside : index < left.shardCount
  · exact agree.shards index (every index inside)
  · have outside : ¬ index < right.shardCount := agree.shardCount ▸ inside
    rw [Array.getElem?_eq_none (Nat.not_lt.mp inside),
      Array.getElem?_eq_none (Nat.not_lt.mp outside)]

/-- The removal of several keys leaves a shard to which none of them belongs. -/
theorem getElem?_deleteManyFrom (store : Store) (removed : Nat) (keys : List (List UInt8))
    (index : Nat) (apart : ∀ key ∈ keys, store.shardIndex key ≠ index) :
    (store.deleteManyFrom removed keys).2.shards[index]? = store.shards[index]? := by
  induction keys generalizing store removed with
  | nil => rfl
  | cons key keys inductionHypothesis =>
    obtain ⟨first, others⟩ := List.forall_mem_cons.mp apart
    have apartThen : ∀ other ∈ keys, (store.delete key).2.shardIndex other ≠ index := by
      intro other member
      exact shardIndex_updateShard store key other _ ▸ others other member
    have left : (store.delete key).2.shards[index]? = store.shards[index]? :=
      (store.getElem?_updateShard key _ index).trans (if_neg first)
    simp only [deleteManyFrom]
    rw [inductionHypothesis _ _ apartThen, left]

/-- An operation on a store looks at nothing but what its locks protect: stores that agree in this
give the same answer and agree in it afterwards. It changes no other shard. -/
theorem covered_perform (operation : Operation) (left : Store) :
    (∀ right, Agree (operation.locked.locks left.shardCount) left right →
      (left.perform operation).1 = (right.perform operation).1 ∧
        Agree (operation.locked.locks left.shardCount) (left.perform operation).2
          (right.perform operation).2) ∧
      ∀ index, shardLock index ∉ operation.locked.locks left.shardCount →
        (left.perform operation).2.shards[index]? = left.shards[index]? := by
  have ownLock (key : List UInt8) (locked : LockedOperation)
      (nests : locked.actions left.shardCount = lockingKey left.shardCount key) :
      shardLock (left.shardIndex key) ∈ locked.locks left.shardCount :=
    (mem_locks_of_nested nests _).mpr (List.mem_singleton_self _)
  have everyLock (index : Nat) (inside : index < left.shardCount) :
      shardLock index ∈ countKeys.locks left.shardCount :=
    (mem_locks_countKeys _ _).mpr ⟨index, inside, rfl⟩
  constructor
  · intro right agree
    cases operation with
    | get key =>
      obtain ⟨answer, after⟩ := agree.get (ownLock key _ rfl)
      exact ⟨congrArg Answer.value answer, after⟩
    | set key value =>
      obtain ⟨answer, after⟩ := agree.set (ownLock key _ rfl) value
      exact ⟨congrArg Answer.flag answer, after⟩
    | delete key =>
      obtain ⟨answer, after⟩ := agree.delete ((mem_locks_deleteKeys _ _ _).mpr
        ⟨key, List.mem_singleton_self key, rfl⟩)
      exact ⟨congrArg Answer.flag answer, after⟩
    | deleteMany keys =>
      obtain ⟨answer, after⟩ := agree.deleteManyFrom 0 keys fun key member =>
        (mem_locks_deleteKeys _ _ _).mpr ⟨key, member, rfl⟩
      exact ⟨congrArg Answer.count answer, after⟩
    | size | isEmpty | usage =>
      have shards := agree.shards_eq everyLock
      refine ⟨?_, agree⟩
      simp only [perform, isEmpty, usage, size, shardSizes, shards, agree.gets, agree.sets,
        agree.deletes]
    | shardSize index =>
      have same := agree.shards index
        ((mem_locks_of_nested rfl _).mpr (List.mem_singleton_self _))
      refine ⟨?_, agree⟩
      simp only [perform, shardSize, same, agree.shardCount]
  · intro index outside
    cases operation with
    | get | size | isEmpty | usage | shardSize => rfl
    | set key value =>
      have apart : left.shardIndex key ≠ index := by
        rintro rfl
        exact outside (ownLock key _ rfl)
      exact (left.getElem?_updateShard key _ index).trans (if_neg apart)
    | delete key =>
      have apart : left.shardIndex key ≠ index := by
        rintro rfl
        exact outside ((mem_locks_deleteKeys _ _ _).mpr ⟨key, List.mem_singleton_self key, rfl⟩)
      exact (left.getElem?_updateShard key _ index).trans (if_neg apart)
    | deleteMany keys =>
      refine left.getElem?_deleteManyFrom 0 keys index fun key member => ?_
      rintro rfl
      exact outside ((mem_locks_deleteKeys _ _ _).mpr ⟨key, member, rfl⟩)

end Store

end KeyValueServer
