import KeyValueServer.Proofs.InTurn
import KeyValueServer.Proofs.Store.Shards

/-!
# A run of a store is a run of one map

Operations of every kind are performed one behind the other, on a store and on its account. The
answers are the same, step by step, so those of a store are the answers of one map. What is asked
about a single shard is the only question that the number of shards has a part in.
-/

namespace KeyValueServer

namespace Store

/-- What can be asked of a store. -/
inductive Operation where
  | get (key : List UInt8)
  | set (key value : List UInt8)
  | delete (key : List UInt8)
  | deleteMany (keys : List (List UInt8))
  | size
  | isEmpty
  | shardSize (index : Nat)
  | usage
  deriving DecidableEq

/-- What a store answers. -/
inductive Answer where
  | value (found : Option (List UInt8))
  | flag (holds : Bool)
  | count (number : Nat)
  | shard (size : Except Fault Nat)
  | report (usage : Usage)

namespace Operation

/-- How many look-ups an operation asks for. -/
def lookups : Operation → Nat
  | .get _ => 1
  | _ => 0

/-- How many insertions an operation asks for. -/
def insertions : Operation → Nat
  | .set _ _ => 1
  | _ => 0

/-- How many removals of a key an operation asks for. -/
def removals : Operation → Nat
  | .delete _ => 1
  | .deleteMany keys => keys.length
  | _ => 0

end Operation

/-- Performs an operation. -/
def perform (store : Store) : Operation → Answer × Store
  | .get key => (.value (store.get key).1, (store.get key).2)
  | .set key value => (.flag (store.set key value).1, (store.set key value).2)
  | .delete key => (.flag (store.delete key).1, (store.delete key).2)
  | .deleteMany keys => (.count (store.deleteMany keys).1, (store.deleteMany keys).2)
  | .size => (.count store.size, store)
  | .isEmpty => (.flag store.isEmpty, store)
  | .shardSize index => (.shard (store.shardSize index), store)
  | .usage => (.report store.usage, store)

end Store

/-- Performs an operation on the account of a store with `count` shards. -/
def Ledger.perform (count : Nat) (ledger : Ledger) : Store.Operation → Store.Answer × Ledger
  | .get key => (.value (ledger.get key).1, (ledger.get key).2)
  | .set key value => (.flag (ledger.set key value).1, (ledger.set key value).2)
  | .delete key => (.flag (ledger.delete key).1, (ledger.delete key).2)
  | .deleteMany keys => (.count (ledger.deleteMany keys).1, (ledger.deleteMany keys).2)
  | .size => (.count ledger.values.size, ledger)
  | .isEmpty => (.flag (ledger.values.size == 0), ledger)
  | .shardSize index => (.shard (ledger.shardSize count index), ledger)
  | .usage => (.report ledger.usage, ledger)

namespace Store

variable {store : Store} {ledger : Ledger}

/-- Removing keys keeps the number of shards. -/
theorem shardCount_deleteManyFrom (store : Store) (removed : Nat) (keys : List (List UInt8)) :
    (store.deleteManyFrom removed keys).2.shardCount = store.shardCount := by
  induction keys generalizing store removed with
  | nil => rfl
  | cons key keys inductionHypothesis =>
    refine (inductionHypothesis _ _).trans ?_
    exact Array.size_modify

/-- No operation changes the number of shards. -/
theorem shardCount_perform (store : Store) (operation : Operation) :
    (store.perform operation).2.shardCount = store.shardCount := by
  cases operation with
  | set key value => exact Array.size_modify
  | delete key => exact Array.size_modify
  | deleteMany keys => exact store.shardCount_deleteManyFrom 0 keys
  | get | size | isEmpty | shardSize | usage => rfl

/-- Every operation answers what the account answers, and keeps it. -/
theorem Holds.perform (holds : store.Holds ledger) (operation : Operation) :
    (store.perform operation).1 = (ledger.perform store.shardCount operation).1 ∧
      (store.perform operation).2.Holds (ledger.perform store.shardCount operation).2 := by
  cases operation with
  | get key => exact ⟨congrArg _ (holds.get key).1, (holds.get key).2⟩
  | set key value => exact ⟨congrArg _ (holds.set key value).1, (holds.set key value).2⟩
  | delete key => exact ⟨congrArg _ (holds.delete key).1, (holds.delete key).2⟩
  | deleteMany keys => exact ⟨congrArg _ (holds.deleteMany keys).1, (holds.deleteMany keys).2⟩
  | size => exact ⟨congrArg _ holds.divides.size, holds⟩
  | isEmpty => exact ⟨congrArg (Answer.flag <| · == 0) holds.divides.size, holds⟩
  | shardSize index => exact ⟨congrArg _ (holds.shardSize index), holds⟩
  | usage => exact ⟨congrArg _ holds.usage, holds⟩

/-- Every run of a store answers what its account answers, and keeps it. -/
theorem run_holds (count : Nat) (positive : 0 < count) (operations : List Operation) :
    (inTurn perform (empty count positive) operations).1 =
        (inTurn (Ledger.perform count) .empty operations).1 ∧
      (inTurn perform (empty count positive) operations).2.Holds
          (inTurn (Ledger.perform count) .empty operations).2 ∧
        (inTurn perform (empty count positive) operations).2.shardCount = count := by
  refine inTurn_agree perform (Ledger.perform count)
    (fun store ledger => store.Holds ledger ∧ store.shardCount = count) ?_ _ _ ?_ operations
  · rintro store ledger operation ⟨holds, sameCount⟩
    obtain ⟨answer, next⟩ := holds.perform operation
    rw [sameCount] at answer next
    exact ⟨answer, next, (store.shardCount_perform operation).trans sameCount⟩
  · exact ⟨holds_empty count positive, Array.size_replicate⟩

end Store

namespace Ledger

/-- The number of shards matters to an answer about a single shard only. -/
theorem perform_count (count other : Nat) (ledger : Ledger) (operation : Store.Operation) :
    ((∀ index, operation ≠ .shardSize index) →
        (ledger.perform count operation).1 = (ledger.perform other operation).1) ∧
      (ledger.perform count operation).2 = (ledger.perform other operation).2 := by
  cases operation with
  | shardSize index => exact ⟨fun apart => absurd rfl (apart index), rfl⟩
  | get | set | delete | deleteMany | size | isEmpty | usage => exact ⟨fun _ => rfl, rfl⟩

/-- In a run the number of shards matters to the answers about single shards only. -/
theorem run_count (count other : Nat) (ledger : Ledger) (operations : List Store.Operation)
    (place : Nat) (apart : ∀ index, operations[place]? ≠ some (.shardSize index)) :
    (inTurn (perform count) ledger operations).1[place]? =
      (inTurn (perform other) ledger operations).1[place]? := by
  induction operations generalizing ledger place with
  | nil => rfl
  | cons operation operations inductionHypothesis =>
    obtain ⟨answer, next⟩ := perform_count count other ledger operation
    cases place with
    | zero =>
      have isOther (index : Nat) : operation ≠ .shardSize index :=
        fun same => apart index (congrArg some same)
      exact congrArg some (answer isOther)
    | succ place =>
      have others := inductionHypothesis (ledger.perform count operation).2 place apart
      refine others.trans ?_
      rw [next]
      rfl

/-- A step counts the look-ups, insertions and removals that were asked for. -/
theorem perform_counts (count : Nat) (ledger : Ledger) (operation : Store.Operation) :
    (ledger.perform count operation).2.gets = ledger.gets + operation.lookups ∧
      (ledger.perform count operation).2.sets = ledger.sets + operation.insertions ∧
      (ledger.perform count operation).2.deletes = ledger.deletes + operation.removals := by
  cases operation <;> exact ⟨rfl, rfl, rfl⟩

/-- A run counts all look-ups, insertions and removals that were asked for. -/
theorem run_counts (count : Nat) (ledger : Ledger) (operations : List Store.Operation) :
    (inTurn (perform count) ledger operations).2.gets =
        ledger.gets + (operations.map Store.Operation.lookups).sum ∧
      (inTurn (perform count) ledger operations).2.sets =
        ledger.sets + (operations.map Store.Operation.insertions).sum ∧
      (inTurn (perform count) ledger operations).2.deletes =
        ledger.deletes + (operations.map Store.Operation.removals).sum := by
  induction operations generalizing ledger with
  | nil => exact ⟨rfl, rfl, rfl⟩
  | cons operation operations inductionHypothesis =>
    obtain ⟨gets, sets, deletes⟩ := ledger.perform_counts count operation
    obtain ⟨getsToo, setsToo, deletesToo⟩ :=
      inductionHypothesis (ledger.perform count operation).2
    simp only [List.map_cons, List.sum_cons, ← Nat.add_assoc, ← gets, ← sets, ← deletes]
    exact ⟨getsToo, setsToo, deletesToo⟩

end Ledger

namespace Store

/-- However many shards a store has, what it answers in a run is what one map answers. Each key is
held by the shard that it belongs to, so the sizes of the shards add up to the size, which is the
number of different keys. The counters are the numbers of look-ups, insertions and removals that
were asked for, modulo 2⁶⁴. A store with another number of shards answers the same, unless it is
asked about a single shard. -/
theorem store_is_one_map (count : Nat) (positive : 0 < count) (operations : List Operation) :
    ∃ answers store ledger,
      inTurn perform (empty count positive) operations = (answers, store) ∧
        inTurn (Ledger.perform count) .empty operations = (answers, ledger) ∧
        (∀ key, store.find? key = ledger.values[key]?) ∧
        (∀ (index : Nat) (inside : index < store.shards.size) (key : List UInt8),
          key ∈ store.shards[index] ↔ key ∈ ledger.values ∧ store.shardIndex key = index) ∧
        (List.range count).map store.shardSize = store.shardSizes.map .ok ∧
        store.shardSizes.sum = store.size ∧
        (∃ keys : List (List UInt8), keys.Nodup ∧
          (∀ key, key ∈ keys ↔ (store.find? key).isSome) ∧ store.size = keys.length) ∧
        store.gets = UInt64.ofNat (operations.map Operation.lookups).sum ∧
        store.sets = UInt64.ofNat (operations.map Operation.insertions).sum ∧
        store.deletes = UInt64.ofNat (operations.map Operation.removals).sum ∧
        ∀ (other : Nat) (positiveToo : 0 < other) (place : Nat),
          (∀ index, operations[place]? ≠ some (.shardSize index)) →
            (inTurn perform (empty other positiveToo) operations).1[place]? = answers[place]? := by
  obtain ⟨answers, holds, sameCount⟩ := run_holds count positive operations
  obtain ⟨gets, sets, deletes⟩ := Ledger.run_counts count .empty operations
  obtain ⟨sizes, total⟩ := (inTurn perform (empty count positive) operations).2.map_shardSize
  rw [sameCount] at sizes
  simp only [Ledger.empty, Nat.zero_add] at gets sets deletes
  refine ⟨_, _, _, rfl, Prod.ext answers.symm rfl, holds.divides.find?, holds.divides.mem_shard,
    sizes, total, holds.divides.exists_keys, ?_, ?_, ?_, fun other positiveToo place apart => ?_⟩
  · rw [holds.gets, ← gets]
    rfl
  · rw [holds.sets, ← sets]
    rfl
  · rw [holds.deletes, ← deletes]
    rfl
  · rw [(run_holds other positiveToo operations).1, answers]
    exact Ledger.run_count other count .empty operations place apart

/-- A store with three shards counts a key that is removed twice once, as one map does, and so does
a store with one shard. -/
theorem three_shards_are_one_map :
    0 < 3 ∧ ∃ store ledger,
      inTurn perform (empty 3 (by decide)) [.set [0x61] [1], .set [0x62] [2],
          .deleteMany [[0x62], [0x63], [0x62]], .shardSize 0] =
        ([.flag true, .flag true, .count 1, .shard (.ok 1)], store) ∧
      inTurn (Ledger.perform 3) .empty [.set [0x61] [1], .set [0x62] [2],
          .deleteMany [[0x62], [0x63], [0x62]], .shardSize 0] =
        ([.flag true, .flag true, .count 1, .shard (.ok 1)], ledger) ∧
      (∀ key, store.find? key = ledger.values[key]?) ∧
      store.shardSizes.sum = store.size ∧ store.deletes = 3 ∧
      (inTurn perform (empty 1 (by decide)) [.set [0x61] [1], .set [0x62] [2],
          .deleteMany [[0x62], [0x63], [0x62]], .shardSize 0]).1[2]? = some (.count 1) := by
  obtain ⟨answers, store, ledger, run, account, found, _, _, total, _, _, _, deletes, others⟩ :=
    store_is_one_map 3 (by decide) [.set [0x61] [1], .set [0x62] [2],
      .deleteMany [[0x62], [0x63], [0x62]], .shardSize 0]
  have answered : answers = [.flag true, .flag true, .count 1, .shard (.ok 1)] :=
    (congrArg Prod.fst run).symm
  subst answered
  exact ⟨by decide, store, ledger, run, account, found, total, deletes,
    others 1 (by decide) 2 fun _ => nofun⟩

end Store

end KeyValueServer
