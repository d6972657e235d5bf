import KeyValueServer.Proofs.Store.Ledger

/-!
# What a single change does to a store

Setting or removing a key changes one shard at one key. So no other key notices, the size changes
by one at most, and two changes of different keys can be made in either order. Nothing here asks
how the keys are divided among the shards, or whether a shard holds keys that belong elsewhere: the
laws are about every store.
-/

namespace KeyValueServer.Store

variable (store : Store) (key other value : List UInt8) (change changeToo : Shard → Shard)

/-- A change of a shard moves no key. -/
@[simp] theorem shardIndex_updateShard :
    (store.updateShard key change).shardIndex other = store.shardIndex other := by
  simp only [shardIndex, shardCount, updateShard, Array.size_modify]

/-- After a change of a shard the keys in it are looked up in what it has become. -/
theorem find?_updateShard :
    (store.updateShard key change).find? other =
      if store.shardIndex key = store.shardIndex other then (change (store.shardOf other))[other]?
      else store.find? other := by
  simp only [find?, shardOf, shardIndex_updateShard]
  simp only [updateShard, Array.getElem_modify]
  split <;> rfl

/-- A change of a shard that is noticed at its key only is noticed there only in the store. -/
theorem find?_updateShard_of_local (found : Option (List UInt8))
    (atKey : ∀ shard : Shard,
      (change shard)[other]? = if key = other then found else shard[other]?) :
    (store.updateShard key change).find? other =
      if key = other then found else store.find? other := by
  rw [find?_updateShard, atKey]
  by_cases same : key = other
  · rw [if_pos same, if_pos same, same, if_pos rfl]
  · rw [if_neg same, if_neg same]
    split <;> rfl

/-- A key that is removed has no value, and no other look-up changes. -/
theorem find?_delete :
    (store.delete key).2.find? other = if key = other then none else store.find? other :=
  store.find?_updateShard_of_local key other _ _ fun shard => shard.getElem?_erase key other

/-- A change of a shard changes the size of the store by as much as that of the shard. -/
theorem size_updateShard :
    (store.updateShard key change).size + (store.shardOf key).size =
      store.size + (change (store.shardOf key)).size := by
  have inside : store.shardIndex key < store.shards.toList.length := store.shardIndex_lt key
  obtain ⟨before, shard, behind, split, place, changed⟩ :=
    List.exists_of_modify change inside
  have own : store.shardOf key = shard := by
    have found : store.shards.toList[store.shardIndex key]? = some shard := by
      rw [split, ← place, List.getElem?_append_right (Nat.le_refl _), Nat.sub_self]
      rfl
    rw [List.getElem?_eq_getElem inside] at found
    exact Option.some.inj found
  have sizes (shards : Store) :
      shards.size = (shards.shards.toList.map fun shard => shard.size).sum :=
    List.sum_eq_foldl.symm
  rw [sizes, sizes, own, updateShard, Array.toList_modify, changed, split]
  simp only [List.map_append, List.map_cons, List.sum_append, List.sum_cons]
  omega

/-- A key that is set adds to the size if it is new. -/
theorem size_set : (store.set key value).2.size = store.size + (store.set key value).1.toNat := by
  have changed := store.size_updateShard key (·.insert key value)
  have present : (store.find? key).isNone = !(store.shardOf key).contains key := by
    rw [find?, ← Option.not_isSome, Std.ExtTreeMap.isSome_getElem?_eq_contains]
  rw [Std.ExtTreeMap.size_insert] at changed
  change (store.updateShard key (·.insert key value)).size =
    store.size + (store.find? key).isNone.toNat
  rw [present]
  cases held : (store.shardOf key).contains key <;> rw [held] at changed
  · simp only [Bool.false_eq_true, if_false] at changed
    simp only [Bool.not_false, Bool.toNat_true]
    omega
  · simp only [if_true] at changed
    simp only [Bool.not_true, Bool.toNat_false]
    omega

/-- A key that is removed is missing from the size if it was there. -/
theorem size_delete : (store.delete key).2.size + (store.delete key).1.toNat = store.size := by
  have changed := store.size_updateShard key (·.erase key)
  have smaller := Shard.size_erase (store.shardOf key) key
  have present : (store.find? key).isSome = (store.shardOf key).contains key := by
    rw [find?, Std.ExtTreeMap.isSome_getElem?_eq_contains]
  change (store.updateShard key (·.erase key)).size + (store.find? key).isSome.toNat = store.size
  rw [present]
  omega

/-- Two changes of shards can be made in either order if they can be where both are of one shard. -/
theorem updateShard_comm (agree : ∀ shard, changeToo (change shard) = change (changeToo shard)) :
    (store.updateShard key change).updateShard other changeToo =
      (store.updateShard other changeToo).updateShard key change := by
  have same : ((store.updateShard key change).updateShard other changeToo).shards =
      ((store.updateShard other changeToo).updateShard key change).shards := by
    refine Array.ext (by simp [updateShard]) fun index _ _ => ?_
    simp only [updateShard, shardIndex, shardCount, Array.size_modify, Array.getElem_modify]
    split <;> split <;> simp only [agree]
  simp only [updateShard] at same ⊢
  congr 1

end KeyValueServer.Store
