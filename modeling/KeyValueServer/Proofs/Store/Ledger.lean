import KeyValueServer.Store

/-!
# A single map in the place of the shards

What a store does can be told without its shards: it is one map from keys to values, and it counts
what was asked of it. `Ledger` is that account. A removal of several keys is described here by its
outcome, as the removal of all bindings of these keys; that this is the removal of one key after the
other is a law about it.

A part of a map, `Shard.restrict`, keeps the bindings of some keys. It serves to say which keys a
removal leaves, and which keys belong to a shard.
-/

namespace KeyValueServer

namespace Shard

/-- The bindings of a map whose keys are chosen. -/
def restrict (map : Shard) (chosen : List UInt8 → Bool) : Shard :=
  map.filter fun key _ => chosen key

variable (map : Shard) (chosen : List UInt8 → Bool) (key value other : List UInt8)

/-- A binding looks up its value, and no other look-up changes. -/
theorem getElem?_insert :
    (map.insert key value)[other]? = if key = other then some value else map[other]? := by
  rw [Std.ExtTreeMap.getElem?_insert]
  simp only [Std.compare_eq_iff_eq]

/-- A removed key has no value, and no other look-up changes. -/
theorem getElem?_erase :
    (map.erase key)[other]? = if key = other then none else map[other]? := by
  rw [Std.ExtTreeMap.getElem?_erase]
  simp only [Std.compare_eq_iff_eq]

/-- A part of a map looks up the chosen keys. -/
@[simp] theorem getElem?_restrict :
    (map.restrict chosen)[key]? = if chosen key then map[key]? else none := by
  rw [restrict, Std.ExtTreeMap.getElem?_filter']
  cases map[key]? <;> simp [Option.filter]

/-- The keys of a part are the chosen keys of the map. -/
@[simp] theorem mem_restrict : key ∈ map.restrict chosen ↔ chosen key ∧ key ∈ map := by
  rw [Std.ExtTreeMap.mem_iff_isSome_getElem?, Std.ExtTreeMap.mem_iff_isSome_getElem?,
    getElem?_restrict]
  by_cases isChosen : chosen key <;> simp [isChosen]

/-- The size of a part is the number of chosen keys. -/
theorem size_restrict : (map.restrict chosen).size = map.keys.countP chosen := by
  rw [← Std.ExtTreeMap.length_keys, restrict, Std.ExtTreeMap.keys_filter_key,
    List.countP_eq_length_filter]

/-- A binding of a chosen key is a binding of the part. -/
theorem restrict_insert (isChosen : chosen key = true) :
    Shard.restrict (map.insert key value) chosen = (map.restrict chosen).insert key value := by
  refine Std.ExtTreeMap.ext_getElem? fun other => ?_
  rw [getElem?_restrict, getElem?_insert, getElem?_insert, getElem?_restrict]
  by_cases same : key = other
  · subst same
    rw [if_pos isChosen, if_pos rfl, if_pos rfl]
  · rw [if_neg same, if_neg same]

/-- A binding of another key leaves the part as it is. -/
theorem restrict_insert_of_not (isOther : chosen key = false) :
    Shard.restrict (map.insert key value) chosen = map.restrict chosen := by
  refine Std.ExtTreeMap.ext_getElem? fun other => ?_
  rw [getElem?_restrict, getElem?_insert, getElem?_restrict]
  by_cases same : key = other
  · subst same
    rw [isOther]
    rfl
  · rw [if_neg same]

/-- A removal from a map is a removal from its parts, whether or not they chose the key. -/
theorem restrict_erase (chosenToo : List UInt8 → Bool)
    (agree : ∀ other, other ≠ key → chosenToo other = chosen other) :
    Shard.restrict (map.erase key) chosenToo = (map.restrict chosen).erase key := by
  refine Std.ExtTreeMap.ext_getElem? fun other => ?_
  rw [getElem?_restrict, getElem?_erase, getElem?_erase, getElem?_restrict]
  by_cases same : key = other
  · simp [same]
  · simp [same, agree other (Ne.symm same)]

/-- A part that did not choose a key is left as it is by the removal of this key. -/
theorem restrict_erase_of_not (chosenToo : List UInt8 → Bool)
    (agree : ∀ other, other ≠ key → chosenToo other = chosen other)
    (isOther : chosen key = false) :
    Shard.restrict (map.erase key) chosenToo = map.restrict chosen := by
  refine Std.ExtTreeMap.ext_getElem? fun other => ?_
  rw [getElem?_restrict, getElem?_erase, getElem?_restrict]
  by_cases same : key = other
  · simp [← same, isOther]
  · simp [same, agree other (Ne.symm same)]

/-- A removal makes a map smaller by one if the key was there. -/
theorem size_erase : (map.erase key).size + (map.contains key).toNat = map.size := by
  rw [Std.ExtTreeMap.size_erase]
  cases present : map.contains key with
  | false => rfl
  | true =>
    have member : key ∈ map.keys := Std.ExtTreeMap.mem_keys.mpr present
    have positive : 0 < map.size := by
      rw [← Std.ExtTreeMap.length_keys]
      exact List.length_pos_of_mem member
    rw [if_pos rfl, Bool.toNat_true]
    omega

end Shard

/-- A single map from keys to values, and how many look-ups, insertions and removals were asked of
it. -/
structure Ledger where
  values : Shard
  gets : Nat
  sets : Nat
  deletes : Nat

namespace Ledger

/-- The map without keys, of which nothing was asked yet. -/
def empty : Ledger := ⟨∅, 0, 0, 0⟩

/-- Looks up a key. -/
def get (ledger : Ledger) (key : List UInt8) : Option (List UInt8) × Ledger :=
  (ledger.values[key]?, { ledger with gets := ledger.gets + 1 })

/-- Gives a key a value; the answer is whether the key is new. -/
def set (ledger : Ledger) (key value : List UInt8) : Bool × Ledger :=
  (!ledger.values.contains key,
    { ledger with values := ledger.values.insert key value, sets := ledger.sets + 1 })

/-- Removes a key; the answer is whether it was there. -/
def delete (ledger : Ledger) (key : List UInt8) : Bool × Ledger :=
  (ledger.values.contains key,
    { ledger with values := ledger.values.erase key, deletes := ledger.deletes + 1 })

/-- Removes keys; the answer is how many of the keys in the map are among them. -/
def deleteMany (ledger : Ledger) (keys : List (List UInt8)) : Nat × Ledger :=
  ((ledger.values.restrict keys.contains).size,
    { ledger with
      values := ledger.values.restrict fun key => !keys.contains key
      deletes := ledger.deletes + keys.length })

/-- The number of keys that belong to one of `count` shards. -/
def shardSize (ledger : Ledger) (count index : Nat) : Except Fault Nat :=
  if index < count then
    .ok (ledger.values.restrict fun key => (KeyHash.hash key).toNat % count == index).size
  else .error (.shardOutOfRange count index)

/-- The report of a store with this account: its counters are those of the account modulo 2⁶⁴. -/
def usage (ledger : Ledger) : Store.Usage :=
  ⟨ledger.values.size, UInt64.ofNat ledger.gets, UInt64.ofNat ledger.sets,
    UInt64.ofNat ledger.deletes⟩

/-- Removing no key changes nothing. -/
theorem deleteMany_nil (ledger : Ledger) : ledger.deleteMany [] = (0, ledger) := by
  have nothing : (ledger.values.restrict ([] : List (List UInt8)).contains).size = 0 := by
    rw [Shard.size_restrict]
    simp
  have everything : (ledger.values.restrict fun key => !([] : List (List UInt8)).contains key) =
      ledger.values := by
    refine Std.ExtTreeMap.ext_getElem? fun key => ?_
    simp
  rw [deleteMany, nothing, everything]
  rfl

/-- Several keys are removed one after the other: the first key is counted if it is there, and the
others are removed from what it leaves. -/
theorem deleteMany_cons (ledger : Ledger) (key : List UInt8) (keys : List (List UInt8)) :
    ledger.deleteMany (key :: keys) =
      ((ledger.delete key).1.toNat + ((ledger.delete key).2.deleteMany keys).1,
        ((ledger.delete key).2.deleteMany keys).2) := by
  have agree : ∀ other, other ≠ key → keys.contains other = (key :: keys).contains other := by
    intro other apart
    rw [List.contains_cons, beq_false_of_ne apart, Bool.false_or]
  have left := ledger.values.restrict_erase_of_not (fun found => !(key :: keys).contains found) key
    (fun found => !keys.contains found)
    (fun other apart => congrArg Bool.not (agree other apart)) (by simp)
  have taken := ledger.values.restrict_erase (key :: keys).contains key keys.contains agree
  have present : (ledger.values.restrict (key :: keys).contains).contains key =
      ledger.values.contains key := by
    rw [Bool.eq_iff_iff, ← Std.ExtTreeMap.mem_iff_contains, ← Std.ExtTreeMap.mem_iff_contains]
    simp
  -- Without the first key, the keys that are taken are those that the others take behind it.
  have count := Shard.size_erase (ledger.values.restrict (key :: keys).contains) key
  rw [present, ← taken] at count
  simp only [deleteMany, delete, left, ← count, List.length_cons]
  refine Prod.ext (Nat.add_comm _ _) ?_
  rw [Nat.add_assoc, Nat.add_comm 1]

end Ledger

end KeyValueServer
