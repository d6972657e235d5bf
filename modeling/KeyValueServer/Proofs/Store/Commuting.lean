import KeyValueServer.Proofs.Apart
import KeyValueServer.Proofs.Store.Removal

/-!
# Operations on different keys

A look-up, an insertion and a removal are one thing with different parts: the answer is read off
the value of a key, the shard of the key is changed at that key or not at all, and a counter grows.
`access` is that thing, and `write` the case in which the key is given a content or loses it. Two of
them are apart if neither changes the value that the other reads, and this is so wherever the keys
are: in different shards or in one.
-/

namespace KeyValueServer

namespace Shard

/-- Gives a key a value, or takes the value away. -/
def put (key : List UInt8) (content : Option (List UInt8)) (shard : Shard) : Shard :=
  match content with
  | some value => shard.insert key value
  | none => shard.erase key

variable (key other : List UInt8) (content contentToo : Option (List UInt8)) (shard : Shard)

/-- The key is looked up as its new content, and no other look-up changes. -/
theorem getElem?_put :
    (shard.put key content)[other]? = if key = other then content else shard[other]? := by
  cases content with
  | some value => exact shard.getElem?_insert key value other
  | none => exact shard.getElem?_erase key other

/-- Different keys can be written in either order. -/
theorem put_comm (different : key ≠ other) :
    (shard.put key content).put other contentToo =
      (shard.put other contentToo).put key content := by
  refine Std.ExtTreeMap.ext_getElem? fun found => ?_
  simp only [getElem?_put]
  by_cases second : other = found
  · rw [if_pos second, if_neg (second ▸ different), if_pos second]
  · rw [if_neg second, if_neg second]

end Shard

namespace Store

variable {Answer Other : Type} {key other : List UInt8}

/-- The part that a store has in one operation on a key. -/
def access (key : List UInt8) (say : Option (List UInt8) → Answer) (change : Shard → Shard)
    (gets sets deletes : UInt64) (store : Store) : Answer × Store :=
  (say (store.find? key),
    { store.updateShard key change with
      gets := store.gets + gets, sets := store.sets + sets, deletes := store.deletes + deletes })

/-- The part that a store has where a key is given a content. -/
def write (key : List UInt8) (say : Option (List UInt8) → Answer) (content : Option (List UInt8))
    (sets deletes : UInt64) : Store → Answer × Store :=
  access key say (Shard.put key content) 0 sets deletes

/-- A look-up answers with the value and changes nothing. -/
theorem get_eq_access (key : List UInt8) : (get · key) = access key id id 1 0 0 := by
  funext store
  have untouched : store.shards.modify (store.shardIndex key) id = store.shards := by
    refine Array.ext Array.size_modify fun index _ _ => ?_
    rw [Array.getElem_modify, id_eq, ite_self]
  simp only [get, access, updateShard, untouched, id_eq, UInt64.add_zero]

/-- An insertion answers whether there was no value, and writes one. -/
theorem set_eq_write (key value : List UInt8) :
    (set · key value) = write key Option.isNone (some value) 1 0 := by
  funext store
  simp only [set, write, access, updateShard, UInt64.add_zero]
  rfl

/-- A removal answers whether there was a value, and takes it away. -/
theorem delete_eq_write (key : List UInt8) :
    (delete · key) = write key Option.isSome none 0 1 := by
  funext store
  simp only [delete, write, access, updateShard, UInt64.add_zero]
  rfl

/-- Two operations are apart if neither changes the value that the other reads, and their changes
of one shard can be made in either order. -/
theorem apart_access {say : Option (List UInt8) → Answer} {sayToo : Option (List UInt8) → Other}
    {change changeToo : Shard → Shard} {gets sets deletes getsToo setsToo deletesToo : UInt64}
    (unnoticed : ∀ shard : Shard, (change shard)[other]? = shard[other]?)
    (unnoticedToo : ∀ shard : Shard, (changeToo shard)[key]? = shard[key]?)
    (agree : ∀ shard, changeToo (change shard) = change (changeToo shard)) :
    Apart (access key say change gets sets deletes)
      (access other sayToo changeToo getsToo setsToo deletesToo) where
  answer store := by
    refine congrArg say (?_ : (store.updateShard other changeToo).find? key = store.find? key)
    rw [find?_updateShard, unnoticedToo]
    exact ite_self _
  answerToo store := by
    refine congrArg sayToo (?_ : (store.updateShard key change).find? other = store.find? other)
    rw [find?_updateShard, unnoticed]
    exact ite_self _
  after store := by
    have shards := congrArg Store.shards (store.updateShard_comm key other change changeToo agree)
    simp only [access, updateShard, shardIndex, shardCount, Array.size_modify] at shards ⊢
    have swap (count more too : UInt64) : count + more + too = count + too + more := by
      rw [UInt64.add_assoc, UInt64.add_comm more, UInt64.add_assoc]
    simp only [shards, swap store.gets gets, swap store.sets sets, swap store.deletes deletes]

/-- Two look-ups are apart, of the same key too. -/
theorem apart_get_get (key other : List UInt8) : Apart (get · key) (get · other) := by
  rw [get_eq_access, get_eq_access]
  exact apart_access (fun _ => rfl) (fun _ => rfl) fun _ => rfl

/-- A look-up and a writing of another key are apart. -/
theorem apart_get_write (different : key ≠ other) {say : Option (List UInt8) → Answer}
    {content : Option (List UInt8)} {sets deletes : UInt64} :
    Apart (get · key) (write other say content sets deletes) := by
  rw [get_eq_access]
  refine apart_access (fun _ => rfl) (fun shard => ?_) fun _ => rfl
  rw [Shard.getElem?_put, if_neg (Ne.symm different)]

/-- Writings of different keys are apart. -/
theorem apart_write_write (different : key ≠ other) {say : Option (List UInt8) → Answer}
    {sayToo : Option (List UInt8) → Other} {content contentToo : Option (List UInt8)}
    {sets deletes setsToo deletesToo : UInt64} :
    Apart (write key say content sets deletes)
      (write other sayToo contentToo setsToo deletesToo) := by
  refine apart_access (fun shard => ?_) (fun shard => ?_) fun shard =>
    shard.put_comm key other content contentToo different
  · rw [Shard.getElem?_put, if_neg different]
  · rw [Shard.getElem?_put, if_neg (Ne.symm different)]

/-- A removal of several keys is apart from what each of its removals is apart from. -/
theorem apart_deleteMany {operation : Store → Answer × Store} {keys : List (List UInt8)}
    (apart : ∀ key ∈ keys, Apart (delete · key) operation) :
    Apart (deleteMany · keys) operation := by
  induction keys with
  | nil => exact .constant 0
  | cons key keys inductionHypothesis =>
    have first := apart key List.mem_cons_self
    have others := inductionHypothesis fun other isOther =>
      apart other (List.mem_cons_of_mem key isOther)
    have oneByOne := funext fun store : Store => store.deleteMany_cons key keys
    rw [oneByOne]
    exact first.andThen others fun present removed => present.toNat + removed

end Store

end KeyValueServer
