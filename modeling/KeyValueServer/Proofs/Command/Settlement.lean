import KeyValueServer.Command.Execute
import KeyValueServer.Proofs.Command.Form
import KeyValueServer.Proofs.Store.Shards

/-!
# What a request does

A request either is a command, and then the reply and the store are those of one map, or it is an
error that the store does not notice. There is nothing in between: all arguments are read before
the store is asked for anything, so an argument that is no string, wherever it stands, leaves the
keys in front of it where they are.
-/

namespace KeyValueServer

/-- What a command does to a single map, and what it replies. -/
def Ledger.settle (ledger : Ledger) : Command → Value × Ledger
  | .get key =>
    match ledger.get key with
    | (some value, next) => (.bulk value, next)
    | (none, next) => (.null, next)
  | .set key value => (.simple "OK", (ledger.set key value).2)
  | .delete keys =>
    (.integer (Int64.ofNat (ledger.deleteMany keys).1), (ledger.deleteMany keys).2)

namespace Command

variable {store : Store} {ledger : Ledger}

/-- The keys whose values a command may change. -/
def written : Command → List (List UInt8)
  | .get _ => []
  | .set key _ => [key]
  | .delete keys => keys

/-- The counters of look-ups, insertions and removals behind a command: one of them has grown. -/
def counters (store : Store) : Command → UInt64 × UInt64 × UInt64
  | .get _ => (store.gets + 1, store.sets, store.deletes)
  | .set _ _ => (store.gets, store.sets + 1, store.deletes)
  | .delete keys => (store.gets, store.sets, store.deletes + UInt64.ofNat keys.length)

/-- A command does to a store and replies what it does to its account. -/
theorem run_settle (holds : store.Holds ledger) (command : Command) :
    (run store command).1 = (ledger.settle command).1 ∧
      (run store command).2.Holds (ledger.settle command).2 := by
  cases command with
  | get key =>
    obtain ⟨found, next⟩ := holds.get key
    simp only [run, Ledger.settle, found]
    rcases account : ledger.get key with ⟨_ | value, after⟩
    · exact ⟨rfl, by simpa only [account] using next⟩
    · exact ⟨rfl, by simpa only [account] using next⟩
  | set key value => exact ⟨rfl, (holds.set key value).2⟩
  | delete keys =>
    obtain ⟨removed, next⟩ := holds.deleteMany keys
    exact ⟨congrArg (fun number => Value.integer (Int64.ofNat number)) removed, next⟩

/-- The map behind a command differs from the one before only in the keys that it writes. -/
theorem settle_values (ledger : Ledger) (command : Command) (key : List UInt8)
    (other : key ∉ command.written) :
    (ledger.settle command).2.values[key]? = ledger.values[key]? := by
  cases command with
  | get found =>
    simp only [Ledger.settle]
    rcases account : ledger.get found with ⟨_ | value, after⟩ <;>
      · obtain rfl := (Prod.mk.inj account).2
        rfl
  | set found value =>
    have apart : found ≠ key := fun same => other (same ▸ List.mem_cons_self)
    exact (ledger.values.getElem?_insert found value key).trans (if_neg apart)
  | delete keys =>
    have kept : (!keys.contains key) = true := by simpa [written] using other
    exact (ledger.values.getElem?_restrict _ key).trans (if_pos kept)

/-- A command adds to the counter of its kind. -/
theorem run_counters (holds : store.Holds ledger) (command : Command) :
    ((run store command).2.gets, (run store command).2.sets, (run store command).2.deletes) =
      command.counters store := by
  cases command with
  | get key => rfl
  | set key value => rfl
  | delete keys =>
    have next := (holds.deleteMany keys).2
    rw [counters, holds.gets, holds.sets, holds.deletes, ← UInt64.ofNat_add]
    exact Prod.ext next.gets (Prod.ext next.sets next.deletes)

/-- The reply to a command is no failure report. -/
theorem run_ne_error (store : Store) (command : Command) (text : String) :
    (run store command).1 ≠ .error text := by
  cases command with
  | get key =>
    rw [run]
    rcases store.get key with ⟨_ | value, next⟩ <;> exact nofun
  | set key value => exact nofun
  | delete keys => exact nofun

/-- A request that is a command runs it. -/
theorem execute_of_isForm (store : Store) {request : Value} {command : Command}
    (form : IsForm request command) : execute store request = run store command := by
  rw [execute, (ofValue_eq_ok_iff request command).mpr form]

/-- A request that is no command is answered with an error, and the store stays as it is. -/
theorem execute_of_not_isForm (store : Store) {request : Value}
    (noForm : ∀ command, ¬ IsForm request command) :
    ∃ text, execute store request = (.error text, store) := by
  cases read : ofValue request with
  | error failure => exact ⟨failure.message, by rw [execute, read]⟩
  | ok command => exact absurd ((ofValue_eq_ok_iff request command).mp read) (noForm command)

/-- A store keeps one map through a request. -/
theorem execute_holds (holds : store.Holds ledger) (request : Value) :
    ∃ after, (execute store request).2.Holds after := by
  unfold execute
  split
  · exact ⟨ledger, holds⟩
  · next command _ => exact ⟨_, (run_settle holds command).2⟩

/-- A store keeps one map through any number of requests. -/
theorem executeAllFrom_holds (holds : store.Holds ledger) (replies requests : List Value) :
    ∃ after, (executeAllFrom replies store requests).2.Holds after := by
  induction requests generalizing store ledger replies with
  | nil => exact ⟨ledger, holds⟩
  | cons request requests inductionHypothesis =>
    obtain ⟨after, next⟩ := execute_holds holds request
    exact inductionHypothesis next _

/-- In every state that requests can lead to, a request is answered with an error if it is no
command, and only then, and the store is not touched. A command replies what it replies for a single
map with the same keys and values, and does the same to it; keys that it does not write keep their
values, and one counter grows. -/
theorem requests_are_settled (count : Nat) (positive : 0 < count) (history : List Value)
    (store : Store) (reached : store = (executeAll (.empty count positive) history).2)
    (request : Value) :
    ((∃ text, (execute store request).1 = .error text) ↔
        ∀ command, ¬ IsForm request command) ∧
      ((∀ command, ¬ IsForm request command) → (execute store request).2 = store) ∧
      ∃ ledger, store.Holds ledger ∧
        ∀ command, IsForm request command →
          (execute store request).1 = (ledger.settle command).1 ∧
            (execute store request).2.Holds (ledger.settle command).2 ∧
            (∀ key, key ∉ command.written →
              (execute store request).2.find? key = store.find? key) ∧
            ((execute store request).2.gets, (execute store request).2.sets,
              (execute store request).2.deletes) = command.counters store := by
  have kept : ∃ ledger, store.Holds ledger := by
    rw [reached]
    exact executeAllFrom_holds (Store.holds_empty count positive) [] history
  obtain ⟨ledger, holds⟩ := kept
  refine ⟨⟨?_, fun noForm => ?_⟩, fun noForm => ?_, ledger, holds, fun command form => ?_⟩
  · rintro ⟨text, failed⟩ command form
    rw [execute_of_isForm store form] at failed
    exact run_ne_error store command text failed
  · obtain ⟨text, answered⟩ := execute_of_not_isForm store noForm
    exact ⟨text, congrArg Prod.fst answered⟩
  · obtain ⟨text, answered⟩ := execute_of_not_isForm store noForm
    exact congrArg Prod.snd answered
  · obtain ⟨reply, next⟩ := run_settle holds command
    rw [execute_of_isForm store form]
    refine ⟨reply, next, fun key other => ?_, run_counters holds command⟩
    rw [next.divides.find?, holds.divides.find?, settle_values ledger command key other]

/-- A removal with a number among its keys leaves the key in front of the number where it is. One
that names this key twice removes it once, and counts two removals. -/
theorem removals_are_settled :
    0 < 2 ∧ ∃ store,
      store = (executeAll (.empty 2 (by decide))
        [.array [.bulk [0x53, 0x45, 0x54], .bulk [0x6b], .bulk [1]]]).2 ∧
      (∀ command, ¬ IsForm (.array [.simple "DEL", .bulk [0x6b], .integer 1]) command) ∧
      (execute store (.array [.simple "DEL", .bulk [0x6b], .integer 1])).2 = store ∧
      IsForm (.array [.simple "DEL", .bulk [0x6b], .bulk [0x6b]]) (.delete [[0x6b], [0x6b]]) ∧
      (∃ ledger, store.Holds ledger ∧
        (ledger.settle (.delete [[0x6b], [0x6b]])).1 = .integer 1) ∧
      ((execute store (.array [.simple "DEL", .bulk [0x6b], .bulk [0x6b]])).2.gets,
        (execute store (.array [.simple "DEL", .bulk [0x6b], .bulk [0x6b]])).2.sets,
        (execute store (.array [.simple "DEL", .bulk [0x6b], .bulk [0x6b]])).2.deletes) =
          (0, 1, 2) := by
  have form : IsForm (.array [.simple "DEL", .bulk [0x6b], .bulk [0x6b]])
      (.delete [[0x6b], [0x6b]]) :=
    .delete _ _ _ (.simple "DEL") (List.cons_ne_nil _ _) (.cons (.bulk _) (.cons (.bulk _) .nil))
  obtain ⟨refused, untouched, _⟩ := requests_are_settled 2 (by decide)
    [.array [.bulk [0x53, 0x45, 0x54], .bulk [0x6b], .bulk [1]]] _ rfl
    (.array [.simple "DEL", .bulk [0x6b], .integer 1])
  obtain ⟨_, _, ledger, holds, settled⟩ := requests_are_settled 2 (by decide)
    [.array [.bulk [0x53, 0x45, 0x54], .bulk [0x6b], .bulk [1]]] _ rfl
    (.array [.simple "DEL", .bulk [0x6b], .bulk [0x6b]])
  obtain ⟨reply, _, _, counted⟩ := settled _ form
  have noForm := refused.mp ⟨_, rfl⟩
  exact ⟨by decide, _, rfl, noForm, untouched noForm, form, ⟨ledger, holds, reply.symm⟩, counted⟩

end Command

end KeyValueServer
