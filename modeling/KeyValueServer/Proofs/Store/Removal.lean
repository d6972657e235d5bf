import Mathlib.Algebra.GroupWithZero.Nat
import Mathlib.Data.Finset.Card
import KeyValueServer.Proofs.InTurn
import KeyValueServer.Proofs.Store.Lookup

/-!
# Removing several keys

A removal of several keys is one removal after the other, and each finds what the ones before it
have left. So a key that is named twice is counted once, keys without a value are not counted, and
the order in which the keys are named does not matter.

Calls of different clients do not wait for each other: between two keys of a removal other calls
may set and remove keys. `Shared` is a store with such calls, each as far as it has come. However
their turns are mixed, every change of the size is counted by exactly one call, so the counts add
up to the size.
-/

namespace KeyValueServer

namespace Store

variable (store : Store) (key second other : List UInt8) (keys : List (List UInt8))

/-- Keys that were counted before are added to those that are found. -/
theorem deleteManyFrom_eq (removed : Nat) :
    store.deleteManyFrom removed keys =
      (removed + (store.deleteMany keys).1, (store.deleteMany keys).2) := by
  induction keys generalizing store removed with
  | nil => rfl
  | cons key keys inductionHypothesis =>
    simp only [deleteMany, deleteManyFrom]
    rw [inductionHypothesis,
      inductionHypothesis (store.delete key).2 (if (store.delete key).1 then 0 + 1 else 0)]
    cases (store.delete key).1 <;> simp [Nat.add_assoc]

/-- The first key is counted if it is there, and the others are removed from what it leaves. -/
theorem deleteMany_cons :
    store.deleteMany (key :: keys) =
      ((store.delete key).1.toNat + ((store.delete key).2.deleteMany keys).1,
        ((store.delete key).2.deleteMany keys).2) := by
  simp only [deleteMany, deleteManyFrom]
  rw [deleteManyFrom_eq]
  cases (store.delete key).1 <;> rfl

/-- Removed keys have no value, and no other look-up changes. -/
theorem find?_deleteMany :
    (store.deleteMany keys).2.find? other =
      if other ∈ keys then none else store.find? other := by
  induction keys generalizing store with
  | nil => rw [if_neg List.not_mem_nil]; rfl
  | cons key keys inductionHypothesis =>
    rw [deleteMany_cons, inductionHypothesis, find?_delete]
    by_cases first : key = other
    · simp [first]
    · simp [first, Ne.symm first]

/-- The keys that are counted are those that are missing from the size. -/
theorem size_deleteMany :
    (store.deleteMany keys).2.size + (store.deleteMany keys).1 = store.size := by
  induction keys generalizing store with
  | nil => rfl
  | cons key keys inductionHypothesis =>
    have first := store.size_delete key
    have others := inductionHypothesis (store.delete key).2
    rw [deleteMany_cons]
    dsimp only
    omega

/-- Different keys are counted once each, if they have values. -/
theorem deleteMany_count :
    (store.deleteMany keys).1 =
      (keys.toFinset.filter fun key => (store.find? key).isSome).card := by
  induction keys generalizing store with
  | nil => rfl
  | cons key keys inductionHypothesis =>
    -- Behind the first key the others are counted without it, wherever it is named again.
    have others : (keys.toFinset.filter fun other => ((store.delete key).2.find? other).isSome) =
        (keys.toFinset.filter fun other => (store.find? other).isSome).erase key := by
      ext other
      simp only [Finset.mem_filter, Finset.mem_erase, find?_delete]
      by_cases same : key = other
      · simp [same]
      · simp [same, Ne.symm same]
    rw [deleteMany_cons, inductionHypothesis, others, List.toFinset_cons, Finset.filter_insert]
    change (store.find? key).isSome.toNat + _ = _
    cases present : (store.find? key).isSome with
    | true =>
      rw [if_pos rfl, ← Finset.card_erase_add_one (Finset.mem_insert_self key _),
        Finset.erase_insert_eq_erase]
      exact Nat.add_comm _ _
    | false =>
      have absent : key ∉ keys.toFinset.filter fun other => (store.find? other).isSome := by
        simp [present]
      rw [if_neg Bool.false_ne_true, Finset.erase_eq_of_notMem absent]
      exact Nat.zero_add _

/-- Removals that are asked for one by one answer yes as often as the one call counts, and leave
the same store. -/
theorem inTurn_delete :
    (inTurn Store.delete store keys).1.count true = (store.deleteMany keys).1 ∧
      (inTurn Store.delete store keys).2 = (store.deleteMany keys).2 := by
  induction keys generalizing store with
  | nil => exact ⟨rfl, rfl⟩
  | cons key keys inductionHypothesis =>
    obtain ⟨answers, last⟩ := inductionHypothesis (store.delete key).2
    rw [deleteMany_cons]
    refine ⟨?_, last⟩
    simp only [inTurn, List.count_cons, answers]
    cases (store.delete key).1 <;> simp [Nat.add_comm]

/-- Two removals can be made in either order. -/
theorem delete_comm :
    ((store.delete key).2.delete second).2 = ((store.delete second).2.delete key).2 := by
  have shards := store.updateShard_comm key second (·.erase key) (·.erase second) fun shard => by
    refine Std.ExtTreeMap.ext_getElem? fun other => ?_
    simp only [Shard.getElem?_erase]
    split <;> split <;> rfl
  simp only [delete, updateShard, shardIndex, shardCount] at shards ⊢
  exact congrArg (fun changed : Store => { changed with deletes := store.deletes + 1 + 1 }) shards

/-- The keys can be named in any order. -/
theorem deleteMany_perm {rearranged : List (List UInt8)} (arrangement : keys.Perm rearranged) :
    store.deleteMany keys = store.deleteMany rearranged := by
  induction arrangement generalizing store with
  | nil => rfl
  | cons key _ inductionHypothesis =>
    rw [deleteMany_cons, deleteMany_cons, inductionHypothesis]
  | swap key second keys =>
    -- The first removal answers for both if the keys are the same, and else neither notices.
    have answers : (store.delete second).1.toNat + ((store.delete second).2.delete key).1.toNat =
        (store.delete key).1.toNat + ((store.delete key).2.delete second).1.toNat := by
      change (store.find? second).isSome.toNat + ((store.delete second).2.find? key).isSome.toNat =
        (store.find? key).isSome.toNat + ((store.delete key).2.find? second).isSome.toNat
      rw [find?_delete, find?_delete]
      by_cases same : key = second
      · rw [same]
      · rw [if_neg same, if_neg (Ne.symm same), Nat.add_comm]
    rw [deleteMany_cons, deleteMany_cons, deleteMany_cons, deleteMany_cons,
      store.delete_comm second key]
    refine Prod.ext ?_ rfl
    dsimp only
    omega
  | trans _ _ inductionHypothesis inductionHypothesisToo =>
    rw [inductionHypothesis, inductionHypothesisToo]

/-! ### Calls that take turns -/

/-- A call that changes keys. -/
inductive Change where
  | set (key value : List UInt8)
  | deleteMany (keys : List (List UInt8))
  deriving DecidableEq

/-- Such a call as far as it has come. -/
inductive Call where
  | setting (key value : List UInt8)
  | inserted (isNew : Bool)
  | removing (removed : Nat) (keys : List (List UInt8))
  deriving DecidableEq

/-- A call that has not done anything. -/
def Change.call : Change → Call
  | .set key value => .setting key value
  | .deleteMany keys => .removing 0 keys

namespace Call

/-- Lets a call change one key, if there is one left. -/
def advance (store : Store) : Call → Call × Store
  | .setting key value =>
    let (isNew, next) := store.set key value
    (.inserted isNew, next)
  | .inserted isNew => (.inserted isNew, store)
  | .removing removed [] => (.removing removed [], store)
  | .removing removed (key :: keys) =>
    let (present, next) := store.delete key
    (.removing (if present then removed + 1 else removed) keys, next)

/-- How many keys a call has made known to be new. -/
def insertions : Call → Nat
  | .inserted isNew => isNew.toNat
  | _ => 0

/-- How many keys a call has counted as removed. -/
def removals : Call → Nat
  | .removing removed _ => removed
  | _ => 0

/-- What the turn of a call changes in the size is what the call counts. -/
theorem size_advance (call : Call) :
    (call.advance store).2.size + (call.advance store).1.removals + call.insertions =
      store.size + call.removals + (call.advance store).1.insertions := by
  cases call with
  | setting key value =>
    have size := store.size_set key value
    simp only [advance, insertions, removals]
    omega
  | inserted isNew => rfl
  | removing removed keys =>
    cases keys with
    | nil => rfl
    | cons key keys =>
      have size := store.size_delete key
      simp only [advance, insertions, removals]
      cases found : (store.delete key).1 <;> simp [found] at size ⊢ <;> omega

end Call

/-- A store with calls that take turns at it. -/
@[ext]
structure Shared where
  store : Store
  calls : List Call

namespace Shared

/-- Calls begin at a store. -/
def start (store : Store) (changes : List Change) : Shared :=
  ⟨store, changes.map Change.call⟩

variable (shared : Shared)

/-- Gives the call at a place its turn. -/
def step (turn : Nat) : Shared :=
  match shared.calls[turn]? with
  | none => shared
  | some call =>
    let (further, next) := call.advance shared.store
    ⟨next, shared.calls.set turn further⟩

/-- Gives calls their turns, one behind the other. -/
def run (turns : List Nat) : Shared := turns.foldl step shared

/-- How many keys the calls have made known to be new. -/
def insertions : Nat := (shared.calls.map Call.insertions).sum

/-- How many keys the calls have counted as removed. -/
def removals : Nat := (shared.calls.map Call.removals).sum

/-- A turn changes the size by what it changes in the counts. -/
theorem size_step (turn : Nat) :
    (shared.step turn).store.size + (shared.step turn).removals + shared.insertions =
      shared.store.size + shared.removals + (shared.step turn).insertions := by
  rw [step]
  split
  · rfl
  · next call place =>
    obtain ⟨inside, found⟩ := List.getElem?_eq_some_iff.mp place
    obtain ⟨before, behind, split, position⟩ :
        ∃ before behind, shared.calls = before ++ call :: behind ∧ before.length = turn :=
      ⟨shared.calls.take turn, shared.calls.drop (turn + 1), by simp [← found],
        List.length_take_of_le inside.le⟩
    have own := call.size_advance shared.store
    simp only [insertions, removals, split, ← position, List.set_append_right, Nat.le_refl,
      Nat.sub_self, List.set_cons_zero, List.map_append, List.map_cons, List.sum_append,
      List.sum_cons]
    omega

/-- However the turns are mixed, the counts add up to the size. -/
theorem size_run (turns : List Nat) :
    (shared.run turns).store.size + (shared.run turns).removals + shared.insertions =
      shared.store.size + shared.removals + (shared.run turns).insertions := by
  induction turns generalizing shared with
  | nil => rfl
  | cons turn turns inductionHypothesis =>
    have first := shared.size_step turn
    have others := inductionHypothesis (shared.step turn)
    change ((shared.step turn).run turns).store.size + ((shared.step turn).run turns).removals +
        shared.insertions =
      shared.store.size + shared.removals + ((shared.step turn).run turns).insertions
    omega

/-- No call has counted anything where it begins. -/
theorem counts_start (changes : List Change) :
    (start store changes).insertions = 0 ∧ (start store changes).removals = 0 := by
  have nothing (change : Change) : change.call.insertions = 0 ∧ change.call.removals = 0 := by
    cases change <;> exact ⟨rfl, rfl⟩
  simp only [start, insertions, removals, List.map_map, Function.comp_def, nothing,
    List.map_const', List.sum_replicate_nat, Nat.mul_zero, and_self]

/-- A removal that has as many turns in a row as it has keys answers as if it had been alone. -/
theorem run_removing {turn removed : Nat}
    (place : shared.calls[turn]? = some (.removing removed keys)) :
    shared.run (List.replicate keys.length turn) =
      ⟨(shared.store.deleteManyFrom removed keys).2,
        shared.calls.set turn (.removing (shared.store.deleteManyFrom removed keys).1 [])⟩ := by
  induction keys generalizing shared removed with
  | nil =>
    obtain ⟨inside, found⟩ := List.getElem?_eq_some_iff.mp place
    refine Shared.ext rfl ?_
    change shared.calls = shared.calls.set turn (.removing removed [])
    rw [← found, List.set_getElem_self]
  | cons key keys inductionHypothesis =>
    have inside : turn < shared.calls.length := (List.getElem?_eq_some_iff.mp place).1
    let further : Call :=
      .removing (if (shared.store.delete key).1 then removed + 1 else removed) keys
    have turned : shared.step turn =
        ⟨(shared.store.delete key).2, shared.calls.set turn further⟩ := by
      rw [step, place]
      rfl
    have behind := inductionHypothesis (shared.step turn) (by
      rw [turned]
      exact List.getElem?_set_self inside)
    rw [List.length_cons, List.replicate_succ]
    change (shared.step turn).run _ = _
    rw [behind, turned]
    simp only [deleteManyFrom, List.set_set]

end Shared

/-- A removal counts the different keys that have values, which is what the size falls by and how
often removals one by one say yes. Removed keys have no value then, other keys have the values they
had, and the same keys in another order are counted the same and leave the same store. Where calls
take turns at a store, the size is at any time what it was at the start with the keys that were
said to be new and without those that were counted as removed; a call that has all its turns in a
row is one of them. -/
theorem removals_count_each_key_once :
    (store.deleteMany keys).1 =
        (keys.toFinset.filter fun key => (store.find? key).isSome).card ∧
      (store.deleteMany keys).2.size + (store.deleteMany keys).1 = store.size ∧
      (inTurn Store.delete store keys).1.count true = (store.deleteMany keys).1 ∧
      (inTurn Store.delete store keys).2 = (store.deleteMany keys).2 ∧
      (∀ other, (store.deleteMany keys).2.find? other =
        if other ∈ keys then none else store.find? other) ∧
      (∀ rearranged, keys.Perm rearranged →
        store.deleteMany rearranged = store.deleteMany keys) ∧
      (Shared.start store [.deleteMany keys]).run (List.replicate keys.length 0) =
        ⟨(store.deleteMany keys).2, [.removing (store.deleteMany keys).1 []]⟩ ∧
      ∀ changes turns,
        ((Shared.start store changes).run turns).store.size +
            ((Shared.start store changes).run turns).removals =
          store.size + ((Shared.start store changes).run turns).insertions := by
  obtain ⟨oneByOne, last⟩ := store.inTurn_delete keys
  refine ⟨store.deleteMany_count keys, store.size_deleteMany keys, oneByOne, last,
    fun other => store.find?_deleteMany other keys,
    fun _ arrangement => (store.deleteMany_perm keys arrangement).symm,
    (Shared.start store [.deleteMany keys]).run_removing keys rfl, fun changes turns => ?_⟩
  obtain ⟨noInsertion, noRemoval⟩ := Shared.counts_start store changes
  have balance := (Shared.start store changes).size_run turns
  rw [noInsertion, noRemoval] at balance
  exact balance

/-- Of two keys that are there and one that is not, named in either order and one of them twice,
two are counted. -/
theorem repeated_key_counts_once :
    [[0x62], [0x63], [0x62], [0x61]].Perm [[0x61], [0x62], [0x62], ([0x63] : List UInt8)] ∧
      ∃ store : Store, store.find? [0x61] = some [1] ∧ store.find? [0x63] = none ∧
        (store.deleteMany [[0x62], [0x63], [0x62], [0x61]]).1 = 2 ∧
        store.deleteMany [[0x61], [0x62], [0x62], [0x63]] =
          store.deleteMany [[0x62], [0x63], [0x62], [0x61]] := by
  refine ⟨by decide, ((((empty 3 (by decide)).set [0x61] [1]).2).set [0x62] [2]).2,
    by decide +kernel, by decide +kernel, by decide +kernel, ?_⟩
  obtain ⟨_, _, _, _, _, rearranged, _⟩ := removals_count_each_key_once
    ((((empty 3 (by decide)).set [0x61] [1]).2).set [0x62] [2]).2 [[0x62], [0x63], [0x62], [0x61]]
  exact rearranged [[0x61], [0x62], [0x62], [0x63]] (by decide)

end Store

end KeyValueServer
