import Mathlib.Data.List.Basic
import KeyValueServer.Proofs.Command.Settlement
import KeyValueServer.Proofs.Store.Commuting

/-!
# Requests that have nothing to do with each other

A command names keys, and writes some of them. Two requests are independent if neither names a key
that the other writes, and a request that is no command is independent of all. Such requests can be
executed in either order: the replies are the same, and so is the store, down to its shards and
counters. So clients that keep to keys of their own do not notice each other.
-/

namespace KeyValueServer.Command

/-- The keys whose values a command reads or may change. -/
def keys : Command → List (List UInt8)
  | .get key => [key]
  | .set key _ => [key]
  | .delete keys => keys

/-- Two requests of which neither, if both are commands, writes a key that the other names. -/
def Independent (first second : Value) : Prop :=
  ∀ command commandToo, IsForm first command → IsForm second commandToo →
    (∀ key ∈ command.written, key ∉ commandToo.keys) ∧
      ∀ key ∈ commandToo.written, key ∉ command.keys

/-- Independence can be read off the commands that the requests stand for. -/
instance (first second : Value) : Decidable (Independent first second) :=
  decidable_of_iff
    (∀ command ∈ (ofValue first).toOption, ∀ commandToo ∈ (ofValue second).toOption,
      (∀ key ∈ command.written, key ∉ commandToo.keys) ∧
        ∀ key ∈ commandToo.written, key ∉ command.keys) <| by
    have isForm (request : Value) (command : Command) :
        command ∈ (ofValue request).toOption ↔ IsForm request command := by
      rw [← ofValue_eq_ok_iff]
      cases ofValue request <;> simp [Except.toOption]
    simp only [isForm, Independent]
    exact ⟨fun apart command commandToo form formToo => apart command form commandToo formToo,
      fun apart command form commandToo formToo => apart command commandToo form formToo⟩

/-- A command writes keys that it names. -/
theorem written_subset_keys (command : Command) : command.written ⊆ command.keys := by
  cases command with
  | get key => exact List.nil_subset _
  | set key value => exact List.Subset.refl _
  | delete keys => exact List.Subset.refl _

/-- Requests that name no key in common are independent. -/
theorem independent_of_disjoint {first second : Value}
    (disjoint : ∀ command commandToo, IsForm first command → IsForm second commandToo →
      ∀ key ∈ command.keys, key ∉ commandToo.keys) : Independent first second := by
  intro command commandToo form formToo
  have apart := disjoint command commandToo form formToo
  exact ⟨fun key isWritten => apart key (command.written_subset_keys isWritten),
    fun key isWritten isKey => apart key isKey (commandToo.written_subset_keys isWritten)⟩

section Operations

variable {Answer : Type} {operation : Store → Answer × Store}

/-- A look-up is apart from what the operation on the store is apart from. -/
theorem apart_run_get {key : List UInt8} (apart : Apart (Store.get · key) operation) :
    Apart (run · (.get key)) operation :=
  apart.map fun found => (found.map Value.bulk).getD Value.null

/-- An insertion is apart from what the operation on the store is apart from. -/
theorem apart_run_set {key value : List UInt8} (apart : Apart (Store.set · key value) operation) :
    Apart (run · (.set key value)) operation :=
  apart.map fun _ => Value.ok

/-- A removal is apart from what the removals of its keys are apart from. -/
theorem apart_run_delete {keys : List (List UInt8)}
    (apart : ∀ key ∈ keys, Apart (Store.delete · key) operation) :
    Apart (run · (.delete keys)) operation :=
  (Store.apart_deleteMany apart).map fun removed => Value.integer (Int64.ofNat removed)

end Operations

section Commands

variable {key : List UInt8} {command commandToo : Command}

/-- A look-up is apart from a command that does not write its key. -/
theorem apart_get_run (unwritten : key ∉ command.written) :
    Apart (Store.get · key) (run · command) := by
  refine Apart.symm ?_
  cases command with
  | get other => exact apart_run_get (Store.apart_get_get other key)
  | set other value =>
    have different : key ≠ other := List.ne_of_not_mem_cons unwritten
    refine apart_run_set ?_
    rw [Store.set_eq_write]
    exact (Store.apart_get_write different).symm
  | delete others =>
    refine apart_run_delete fun other isOther => ?_
    have different : other ≠ key := ne_of_mem_of_not_mem isOther unwritten
    rw [Store.delete_eq_write]
    exact (Store.apart_get_write different.symm).symm

/-- A writing is apart from a command that does not name its key. -/
theorem apart_write_run (unnamed : key ∉ command.keys) {Answer : Type}
    {say : Option (List UInt8) → Answer} {content : Option (List UInt8)}
    {sets deletes : UInt64} :
    Apart (Store.write key say content sets deletes) (run · command) := by
  refine Apart.symm ?_
  cases command with
  | get other =>
    have different : key ≠ other := List.ne_of_not_mem_cons unnamed
    exact apart_run_get (Store.apart_get_write different.symm)
  | set other value =>
    have different : key ≠ other := List.ne_of_not_mem_cons unnamed
    refine apart_run_set ?_
    rw [Store.set_eq_write]
    exact Store.apart_write_write different.symm
  | delete others =>
    refine apart_run_delete fun other isOther => ?_
    have different : other ≠ key := ne_of_mem_of_not_mem isOther unnamed
    rw [Store.delete_eq_write]
    exact Store.apart_write_write different

/-- Commands of which neither writes a key that the other names are apart. -/
theorem apart_run (unread : ∀ key ∈ command.written, key ∉ commandToo.keys)
    (unreadToo : ∀ key ∈ commandToo.written, key ∉ command.keys) :
    Apart (run · command) (run · commandToo) := by
  cases command with
  | get key =>
    exact apart_run_get (apart_get_run fun written => unreadToo key written List.mem_cons_self)
  | set key value =>
    refine apart_run_set ?_
    rw [Store.set_eq_write]
    exact apart_write_run (unread key List.mem_cons_self)
  | delete keys =>
    refine apart_run_delete fun key isKey => ?_
    rw [Store.delete_eq_write]
    exact apart_write_run (unread key isKey)

end Commands

/-- Independent requests are apart, also if one of them is no command. -/
theorem apart_execute {first second : Value} (independent : Independent first second) :
    Apart (execute · first) (execute · second) := by
  have silent {request other : Value} (noForm : ∀ command, ¬ IsForm request command) :
      Apart (execute · request) (execute · other) := by
    cases read : ofValue request with
    | ok command => exact absurd ((ofValue_eq_ok_iff request command).mp read) (noForm command)
    | error failure =>
      have refused : (execute · request) = fun store => (.error failure.message, store) := by
        funext store
        rw [execute, read]
      rw [refused]
      exact .constant _
  by_cases form : ∃ command, IsForm first command
  · by_cases formToo : ∃ command, IsForm second command
    · obtain ⟨command, form⟩ := form
      obtain ⟨commandToo, formToo⟩ := formToo
      obtain ⟨unread, unreadToo⟩ := independent command commandToo form formToo
      have runs := funext fun store => execute_of_isForm store form
      have runsToo := funext fun store => execute_of_isForm store formToo
      rw [runs, runsToo]
      exact apart_run unread unreadToo
    · exact (silent (not_exists.mp formToo)).symm
  · exact silent (not_exists.mp form)

/-- Executing all requests is executing one behind the other. -/
theorem executeAll_eq_inTurn (store : Store) (requests : List Value) :
    executeAll store requests = inTurn execute store requests := by
  have further (replies : List Value) :
      executeAllFrom replies store requests =
        (replies.reverse ++ (inTurn execute store requests).1,
          (inTurn execute store requests).2) := by
    induction requests generalizing store replies with
    | nil => simp [executeAllFrom, inTurn]
    | cons request requests inductionHypothesis =>
      simp only [executeAllFrom, inTurn]
      rw [inductionHypothesis]
      simp
  exact further []

/-- Of two independent requests each gets the same reply before and behind the other, and the store
behind both is the same in either order: its shards with their keys and values, its size and its
counters. So in any schedule of the requests of several clients, each is told what it would be told
if it were alone with the store, provided that requests of different clients are independent; they
are if the clients have no key in common. -/
theorem independent_requests_commute {Client : Type} [DecidableEq Client] (store : Store) :
    (∀ first second, Independent first second →
      (execute (execute store second).2 first).1 = (execute store first).1 ∧
        (execute (execute store first).2 second).1 = (execute store second).1 ∧
        (execute (execute store first).2 second).2 =
          (execute (execute store second).2 first).2) ∧
      (∀ schedule : List (Client × Value),
        (∀ turn ∈ schedule, ∀ other ∈ schedule, turn.1 ≠ other.1 →
          Independent turn.2 other.2) →
        ∀ client, answersTo client schedule (executeAll store (schedule.map Prod.snd)).1 =
          (executeAll store (inputsOf client schedule)).1) ∧
      ∀ first second,
        (∀ command commandToo, IsForm first command → IsForm second commandToo →
          ∀ key ∈ command.keys, key ∉ commandToo.keys) →
        Independent first second := by
  refine ⟨fun first second independent => ?_, fun schedule independent client => ?_,
    fun first second disjoint => independent_of_disjoint disjoint⟩
  · obtain ⟨answer, answerToo, after⟩ := apart_execute independent
    exact ⟨answer store, answerToo store, after store⟩
  · rw [executeAll_eq_inTurn, executeAll_eq_inTurn]
    exact answersTo_inTurn client schedule
      (fun turn isTurn other isOther different =>
        apart_execute (independent turn isTurn other isOther different)) store

/-- On a single shard a removal of two keys, a request that is no command and an insertion of a
third key, which two clients ask for by turns, are answered to each as if it were alone. -/
theorem two_clients_of_one_shard :
    ∃ schedule : List (Nat × Value),
      schedule = [(0, .array [.simple "SET", .bulk [0x61], .bulk [1]]),
        (1, .array [.simple "SET", .bulk [0x62], .bulk [2]]), (1, .array [.simple "DEL", .null]),
        (0, .array [.simple "DEL", .bulk [0x61], .bulk [0x63], .bulk [0x61]]),
        (1, .array [.simple "GET", .bulk [0x62]])] ∧
      (∀ turn ∈ schedule, ∀ other ∈ schedule, turn.1 ≠ other.1 →
        Independent turn.2 other.2) ∧
      answersTo 0 schedule (executeAll (.empty 1 (by decide)) (schedule.map Prod.snd)).1 =
        [.simple "OK", .integer 1] ∧
      Independent (.array [.simple "DEL", .bulk [0x61], .bulk [0x63]])
        (.array [.simple "GET", .bulk [0x62]]) ∧
      (execute (execute (.empty 1 (by decide)) (.array [.simple "GET", .bulk [0x62]])).2
        (.array [.simple "DEL", .bulk [0x61], .bulk [0x63]])).1 = .integer 0 := by
  refine ⟨_, rfl, by decide, ?_, by decide, ?_⟩
  · refine ((independent_requests_commute _).2.1 _ (by decide) 0).trans ?_
    decide +kernel
  · refine ((@independent_requests_commute Nat _ _).1 _ _ (by decide)).1.trans ?_
    decide +kernel

end KeyValueServer.Command
