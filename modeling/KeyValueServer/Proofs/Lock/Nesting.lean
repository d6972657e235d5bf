import Mathlib.Data.List.Pairwise
import KeyValueServer.Lock.Footprint

/-!
# Nested locks

A thread takes locks in ascending order of level and gives them back in reverse, like brackets. The
locks that it holds at a time are then a tower, in which every lock is above those taken before it.
What a thread still does in its operation fits the tower that it holds, and leaves it with nothing.

Every operation of a server is of this form from the start. Whoever follows it is never refused a
lock by the order of levels.
-/

namespace KeyValueServer

/-- The place of a lock in the order of levels. -/
def LockLevel.rankAt (levels : List LockLevel) (lock : Nat) : Nat :=
  (levels[lock]?.map LockLevel.rank).getD 0

/-- No lock is above the shards. -/
theorem LockLevel.rankAt_le (levels : List LockLevel) (lock : Nat) :
    LockLevel.rankAt levels lock ≤ LockLevel.shard.rank := by
  unfold LockLevel.rankAt
  cases levels[lock]? with
  | none => exact Nat.zero_le _
  | some level => cases level <;> decide

/-- What a thread still does, where it holds the locks `held`, last one first: it takes locks above
those that it holds, gives back the one that it took last, and holds nothing in the end. -/
inductive Nests (levels : List LockLevel) : List Nat → List LockAction → Prop
  | done : Nests levels [] []
  | acquire {held : List Nat} {actions : List LockAction} (lock : Nat)
      (inside : lock < levels.length)
      (above : ∀ other ∈ held, LockLevel.rankAt levels other < LockLevel.rankAt levels lock)
      (rest : Nests levels (lock :: held) actions) :
      Nests levels held (.acquire lock :: actions)
  | release {held : List Nat} {actions : List LockAction} (lock : Nat)
      (rest : Nests levels held actions) :
      Nests levels (lock :: held) (.release lock :: actions)

namespace Nests

variable {levels : List LockLevel} {held : List Nat} {lock : Nat} {actions : List LockAction}

/-- Whoever has nothing left to do holds nothing. -/
theorem of_nil (nests : Nests levels held []) : held = [] := by
  cases nests with
  | done => rfl

/-- A lock that comes next exists, and is above all that are held. -/
theorem of_acquire (nests : Nests levels held (.acquire lock :: actions)) :
    lock < levels.length ∧
      (∀ other ∈ held, LockLevel.rankAt levels other < LockLevel.rankAt levels lock) ∧
      Nests levels (lock :: held) actions := by
  cases nests with
  | acquire _ inside above rest => exact ⟨inside, above, rest⟩

/-- A lock that is given back is the last one that was taken. -/
theorem of_release (nests : Nests levels held (.release lock :: actions)) :
    ∃ others, held = lock :: others ∧ Nests levels others actions := by
  cases nests with
  | release _ rest => exact ⟨_, rfl, rest⟩

end Nests

namespace LockedOperation

variable {levels : List LockLevel}

/-- Locks that are taken in order are taken one by one, and given back around what is between. -/
theorem nested_cons (lock : Nat) (locks : List Nat) :
    nested (lock :: locks) = .acquire lock :: (nested locks ++ [.release lock]) := by
  simp [nested]

/-- Ascending locks above those in hand can be taken and given back before anything else. -/
theorem nests_nested (locks held : List Nat) (actions : List LockAction)
    (inside : ∀ lock ∈ locks, lock < levels.length)
    (ascending : locks.Pairwise fun lower upper =>
      LockLevel.rankAt levels lower < LockLevel.rankAt levels upper)
    (above : ∀ other ∈ held, ∀ lock ∈ locks,
      LockLevel.rankAt levels other < LockLevel.rankAt levels lock)
    (rest : Nests levels held actions) : Nests levels held (nested locks ++ actions) := by
  induction locks generalizing held actions with
  | nil => exact rest
  | cons lock locks inductionHypothesis =>
    obtain ⟨below, ascending⟩ := List.pairwise_cons.mp ascending
    rw [nested_cons, List.cons_append, List.append_assoc]
    apply Nests.acquire lock (inside lock List.mem_cons_self)
    · intro other member
      exact above other member lock List.mem_cons_self
    · apply inductionHypothesis
      · intro later member
        exact inside later (List.mem_cons_of_mem _ member)
      · exact ascending
      · intro other member later memberToo
        rcases List.mem_cons.mp member with rfl | member
        · exact below later memberToo
        · exact above other member later (List.mem_cons_of_mem _ memberToo)
      · exact .release lock rest

/-- Locks that are taken one after the other, each given back before the next, leave nothing. -/
theorem nests_flatMap {Item : Type} (items : List Item) (locks : Item → Nat)
    (inside : ∀ item ∈ items, locks item < levels.length) :
    Nests levels [] (items.flatMap fun item => nested [locks item]) := by
  induction items with
  | nil => exact .done
  | cons item items inductionHypothesis =>
    rw [List.flatMap_cons]
    apply nests_nested
    · intro lock member
      rw [List.mem_singleton.mp member]
      exact inside item List.mem_cons_self
    · exact List.pairwise_singleton _ _
    · intro other member
      cases member
    · exact inductionHypothesis fun later member => inside later (List.mem_cons_of_mem _ member)

/-- A lock can be taken on its own. -/
theorem nests_alone {lock : Nat} (inside : lock < levels.length) :
    Nests levels [] (nested [lock]) := by
  simpa using nests_flatMap [lock] id (by simpa using inside)

/-- Whether the shard that an operation names exists. -/
def Exists (shards : Nat) : LockedOperation → Prop
  | .shardSize index => index < shards
  | _ => True

instance (shards : Nat) (operation : LockedOperation) : Decidable (operation.Exists shards) :=
  match operation with
  | .shardSize index => inferInstanceAs (Decidable (index < shards))
  | .insertConnection | .transition _ | .removeConnection | .stageOf | .countConnections
  | .connectionCounts | .clearConnections | .getKey _ | .setKey _ | .deleteKeys _ | .countKeys =>
    inferInstanceAs (Decidable True)

/-- The locks of a server are those of the registries and of the shards. -/
theorem shardLock_lt {shards index : Nat} (inside : index < shards) :
    shardLock index < (LockedOperation.levels shards).length := by
  simp only [LockedOperation.levels, shardLock, registryLocks, List.length_append,
    List.length_replicate, List.length_cons, List.length_nil]
  omega

/-- The registries' locks are taken in ascending order. -/
theorem nests_registryLocks (shards : Nat) :
    Nests (LockedOperation.levels shards) [] (nested registryLocks) := by
  rw [← List.append_nil (nested registryLocks)]
  apply nests_nested
  · intro lock member
    have small : lock < 4 := by
      have small : ∀ lock ∈ registryLocks, lock < 4 := by decide
      exact small lock member
    simp only [LockedOperation.levels, List.length_append, List.length_cons, List.length_nil]
    omega
  · simp [registryLocks, connectionsLock, LockedOperation.levels, LockLevel.rankAt,
      LockLevel.rank]
  · intro other member
    cases member
  · exact .done

/-- Every operation takes locks in ascending order of level, and gives all of them back. -/
theorem nests_actions {shards : Nat} (positive : 0 < shards) (operation : LockedOperation)
    (existing : operation.Exists shards) :
    Nests (LockedOperation.levels shards) [] (operation.actions shards) := by
  have shardOf (key : List UInt8) :
      shardLock ((KeyHash.hash key).toNat % shards) < (LockedOperation.levels shards).length :=
    shardLock_lt (Nat.mod_lt _ positive)
  have connections : connectionsLock < (LockedOperation.levels shards).length := by
    simp [connectionsLock, LockedOperation.levels]
  cases operation with
  | insertConnection | countConnections => exact nests_alone connections
  | transition known =>
    cases known with
    | false => exact nests_alone connections
    | true => exact nests_registryLocks shards
  | removeConnection | stageOf | connectionCounts | clearConnections =>
    exact nests_registryLocks shards
  | getKey key | setKey key => exact nests_alone (shardOf key)
  | deleteKeys keys => exact nests_flatMap keys _ fun key _ => shardOf key
  | countKeys =>
    exact nests_flatMap (List.range shards) shardLock fun index member =>
      shardLock_lt (List.mem_range.mp member)
  | shardSize index => exact nests_alone (shardLock_lt existing)

end LockedOperation

end KeyValueServer
