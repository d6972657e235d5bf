import Mathlib.Algebra.GroupWithZero.Nat
import KeyValueServer.Proofs.Store.Ledger

/-!
# A store holds one map

The shards of a store divide a map among them: each holds the bindings of the keys that belong to
it, and no others. `Holds` adds that the counters are those of the account, modulo 2⁶⁴. Every
operation of a store keeps this, and answers what the account answers; the number of shards has no
part in it.

Each key belongs to one shard. So the sizes of the shards add up to the number of keys.
-/

namespace KeyValueServer.Store

/-- Whether a key belongs to a shard. -/
def belongs (store : Store) (index : Nat) (key : List UInt8) : Bool := store.shardIndex key == index

/-- A key belongs to its shard. -/
@[simp] theorem belongs_shardIndex (store : Store) (key : List UInt8) :
    store.belongs (store.shardIndex key) key = true := beq_self_eq_true _

/-- The shards divide a map among them. -/
def Divides (store : Store) (values : Shard) : Prop :=
  ∀ (index : Nat) (inside : index < store.shards.size),
    store.shards[index] = values.restrict (store.belongs index)

/-- A store has the keys, the values and the counters of an account. -/
structure Holds (store : Store) (ledger : Ledger) : Prop where
  divides : store.Divides ledger.values
  gets : store.gets = UInt64.ofNat ledger.gets
  sets : store.sets = UInt64.ofNat ledger.sets
  deletes : store.deletes = UInt64.ofNat ledger.deletes

variable {store : Store} {values : Shard} {ledger : Ledger}

/-- A store without keys holds the account of which nothing was asked. -/
theorem holds_empty (count : Nat) (positive : 0 < count) :
    (empty count positive).Holds Ledger.empty := by
  refine ⟨fun index inside => ?_, rfl, rfl, rfl⟩
  refine Std.ExtTreeMap.ext_getElem? fun key => ?_
  simp [empty, Ledger.empty]

/-- A key is looked up as in the map that is divided. -/
theorem Divides.find? (divides : store.Divides values) (key : List UInt8) :
    store.find? key = values[key]? := by
  rw [Store.find?, shardOf, divides]
  simp

/-- Whether a key is there is asked of the map that is divided. -/
theorem Divides.isSome_find? (divides : store.Divides values) (key : List UInt8) :
    (store.find? key).isSome = values.contains key := by
  rw [divides.find?, Std.ExtTreeMap.isSome_getElem?_eq_contains]

/-- A shard holds those keys of the map that belong to it. -/
theorem Divides.mem_shard (divides : store.Divides values) (index : Nat)
    (inside : index < store.shards.size) (key : List UInt8) :
    key ∈ store.shards[index] ↔ key ∈ values ∧ store.shardIndex key = index := by
  rw [divides index inside, Shard.mem_restrict, belongs, beq_iff_eq, and_comm]

/-- A change of the shard of a key divides a map that differs from the one before only there. -/
theorem Divides.updateShard (divides : store.Divides values) (key : List UInt8)
    (change : Shard → Shard) (changed : Shard)
    (own : change (values.restrict (store.belongs (store.shardIndex key))) =
      changed.restrict (store.belongs (store.shardIndex key)))
    (others : ∀ index, store.belongs index key = false →
      values.restrict (store.belongs index) = changed.restrict (store.belongs index)) :
    (store.updateShard key change).Divides changed := by
  -- The number of shards stays, so every key belongs where it belonged before.
  have sameShards (index : Nat) : (store.updateShard key change).belongs index =
      store.belongs index := by
    funext found
    simp only [belongs, shardIndex, shardCount, Store.updateShard, Array.size_modify]
  intro index inside
  have insideBefore : index < store.shards.size := by
    simpa only [Store.updateShard, Array.size_modify] using inside
  rw [sameShards]
  simp only [Store.updateShard, Array.getElem_modify]
  by_cases same : store.shardIndex key = index
  · subst same
    rw [if_pos rfl, divides, own]
  · rw [if_neg same, divides, others index (beq_false_of_ne same)]

/-- A value is given to a key in one shard as in the map. -/
theorem Divides.insert (divides : store.Divides values) (key value : List UInt8) :
    (store.updateShard key (·.insert key value)).Divides (values.insert key value) :=
  divides.updateShard key _ _
    (values.restrict_insert _ key value (store.belongs_shardIndex key)).symm
    fun _ isOther => (values.restrict_insert_of_not _ key value isOther).symm

/-- A key is removed from one shard as from the map. -/
theorem Divides.erase (divides : store.Divides values) (key : List UInt8) :
    (store.updateShard key (·.erase key)).Divides (values.erase key) :=
  divides.updateShard key _ _
    (values.restrict_erase _ key _ fun _ _ => rfl).symm
    fun _ isOther => (values.restrict_erase_of_not _ key _ (fun _ _ => rfl) isOther).symm

/-- Of the keys up to a place, each lies before it or in it. -/
theorem countP_lt_succ (place : List UInt8 → Nat) (keys : List (List UInt8)) (bound : Nat) :
    (keys.countP fun key => decide (place key < bound + 1)) =
      (keys.countP fun key => decide (place key < bound)) +
        keys.countP fun key => place key == bound := by
  induction keys with
  | nil => rfl
  | cons key keys inductionHypothesis =>
    simp only [List.countP_cons, inductionHypothesis, decide_eq_true_eq, beq_iff_eq]
    split <;> split <;> split <;> omega

/-- Keys that have their places below a bound are counted place by place. -/
theorem sum_countP_eq (place : List UInt8 → Nat) (keys : List (List UInt8)) (bound : Nat) :
    ((List.range bound).map fun index => keys.countP fun key => place key == index).sum =
      keys.countP fun key => decide (place key < bound) := by
  induction bound with
  | zero => simp
  | succ bound inductionHypothesis =>
    rw [List.range_succ, List.map_append, List.sum_append, inductionHypothesis, countP_lt_succ,
      List.map_singleton, List.sum_singleton]

/-- The sizes of the shards are the numbers of keys that belong to them. -/
theorem Divides.shardSizes (divides : store.Divides values) :
    store.shardSizes = (List.range store.shardCount).map fun index =>
      (values.restrict (store.belongs index)).size := by
  refine List.ext_getElem (by simp [Store.shardSizes, shardCount]) fun index inside _ => ?_
  simp only [Store.shardSizes, List.length_map, Array.length_toList] at inside
  simp only [Store.shardSizes, List.getElem_map, Array.getElem_toList, List.getElem_range]
  rw [divides index inside]

/-- The sizes of the shards add up to the number of keys. -/
theorem Divides.size (divides : store.Divides values) : store.size = values.size := by
  have every (key : List UInt8) : decide (store.shardIndex key < store.shardCount) = true :=
    decide_eq_true (store.shardIndex_lt key)
  have sizes := sum_countP_eq store.shardIndex values.keys store.shardCount
  simp only [every, List.countP_true] at sizes
  rw [Store.size, ← List.sum_eq_foldl, divides.shardSizes, ← Std.ExtTreeMap.length_keys, ← sizes]
  simp only [Shard.size_restrict]
  rfl

/-- The size is the number of different keys that have a value. -/
theorem Divides.exists_keys (divides : store.Divides values) :
    ∃ keys : List (List UInt8), keys.Nodup ∧ (∀ key, key ∈ keys ↔ (store.find? key).isSome) ∧
      store.size = keys.length := by
  refine ⟨values.keys, Std.ExtTreeMap.nodup_keys, fun key => ?_, ?_⟩
  · rw [divides.isSome_find?, Std.ExtTreeMap.mem_keys, Std.ExtTreeMap.mem_iff_contains]
  · rw [divides.size, Std.ExtTreeMap.length_keys]

/-- The size of the store is the sum of what is answered about its shards. -/
theorem map_shardSize (store : Store) :
    (List.range store.shardCount).map store.shardSize = store.shardSizes.map .ok ∧
      store.shardSizes.sum = store.size := by
  refine ⟨List.ext_getElem (by simp [shardSizes, shardCount]) fun index inside _ => ?_,
    List.sum_eq_foldl⟩
  rw [List.length_map, List.length_range] at inside
  rw [List.getElem_map, List.getElem_range, shardSize, Array.getElem?_eq_getElem inside]
  simp only [shardSizes, List.getElem_map, Array.getElem_toList]
  rfl

namespace Holds

/-- Looking up a key answers what the account answers. -/
theorem get (holds : store.Holds ledger) (key : List UInt8) :
    (store.get key).1 = (ledger.get key).1 ∧ (store.get key).2.Holds (ledger.get key).2 := by
  refine ⟨holds.divides.find? key, holds.divides, ?_, holds.sets, holds.deletes⟩
  simp only [Store.get, Ledger.get, holds.gets, UInt64.ofNat_add]
  rfl

/-- Giving a key a value answers what the account answers. -/
theorem set (holds : store.Holds ledger) (key value : List UInt8) :
    (store.set key value).1 = (ledger.set key value).1 ∧
      (store.set key value).2.Holds (ledger.set key value).2 := by
  refine ⟨?_, holds.divides.insert key value, holds.gets, ?_, holds.deletes⟩
  · simp only [Store.set, Ledger.set, ← holds.divides.isSome_find? key, Option.not_isSome]
  · simp only [Store.set, Store.updateShard, Ledger.set, holds.sets, UInt64.ofNat_add]
    rfl

/-- Removing a key answers what the account answers. -/
theorem delete (holds : store.Holds ledger) (key : List UInt8) :
    (store.delete key).1 = (ledger.delete key).1 ∧
      (store.delete key).2.Holds (ledger.delete key).2 := by
  refine ⟨holds.divides.isSome_find? key, holds.divides.erase key, holds.gets, holds.sets, ?_⟩
  simp only [Store.delete, Store.updateShard, Ledger.delete, holds.deletes, UInt64.ofNat_add]
  rfl

/-- Removing keys one by one adds to the number of removed keys what the account answers. -/
theorem deleteManyFrom (holds : store.Holds ledger) (removed : Nat) (keys : List (List UInt8)) :
    (store.deleteManyFrom removed keys).1 = removed + (ledger.deleteMany keys).1 ∧
      (store.deleteManyFrom removed keys).2.Holds (ledger.deleteMany keys).2 := by
  induction keys generalizing store ledger removed with
  | nil =>
    rw [ledger.deleteMany_nil]
    exact ⟨rfl, holds⟩
  | cons key keys inductionHypothesis =>
    obtain ⟨answered, held⟩ := holds.delete key
    obtain ⟨counted, last⟩ := inductionHypothesis held
      (if (store.delete key).1 then removed + 1 else removed)
    rw [ledger.deleteMany_cons]
    refine ⟨counted.trans ?_, last⟩
    rw [answered]
    cases (ledger.delete key).1 <;> simp [Nat.add_assoc]

/-- Removing keys answers what the account answers. -/
theorem deleteMany (holds : store.Holds ledger) (keys : List (List UInt8)) :
    (store.deleteMany keys).1 = (ledger.deleteMany keys).1 ∧
      (store.deleteMany keys).2.Holds (ledger.deleteMany keys).2 := by
  have fromZero := holds.deleteManyFrom 0 keys
  rw [Nat.zero_add] at fromZero
  exact fromZero

/-- The size of a shard is what the account answers. -/
theorem shardSize (holds : store.Holds ledger) (index : Nat) :
    store.shardSize index = ledger.shardSize store.shardCount index := by
  rw [Store.shardSize, Ledger.shardSize]
  by_cases inside : index < store.shardCount
  · rw [if_pos inside, Array.getElem?_eq_getElem inside]
    dsimp only
    rw [holds.divides index inside]
    rfl
  · rw [if_neg inside, Array.getElem?_eq_none (Nat.not_lt.mp inside)]

/-- The report is that of the account. -/
theorem usage (holds : store.Holds ledger) : store.usage = ledger.usage := by
  rw [Store.usage, Ledger.usage, holds.divides.size, holds.gets, holds.sets, holds.deletes]

end Holds

end KeyValueServer.Store
