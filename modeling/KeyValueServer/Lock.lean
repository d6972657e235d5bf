import KeyValueServer.Fault

/-!
# Ordered locks

Locks with levels, and the threads that take them. A thread remembers the level of the lock it took
last and may take a lock of a higher level only. A guard remembers what its thread held before; the
thread is back at that level when the guard is dropped.

The operations are single acquisitions and releases, so that threads can be interleaved at every
point where they meet.
-/

namespace KeyValueServer

/-- A lock with the content it protects, and the thread that holds it. -/
structure Lock (Content : Type) where
  level : LockLevel
  content : Content
  owner : Option Nat
  deriving DecidableEq, Repr

/-- Possession of a lock, with the level its thread held before. -/
structure Guard where
  lock : Nat
  previous : Option LockLevel
  deriving DecidableEq, Repr

/-- What a thread holds, last guard first. -/
structure LockHolder where
  held : Option LockLevel
  guards : List Guard
  deriving DecidableEq, Repr

/-- A thread that holds nothing. -/
def LockHolder.free : LockHolder := ⟨none, []⟩

/-- Locks and threads, each known by their place in the list. -/
structure LockTable (Content : Type) where
  locks : List (Lock Content)
  threads : List LockHolder
  deriving DecidableEq, Repr

namespace LockTable

variable {Content : Type}

/-- Locks of the given levels, all free, and `threads` threads that hold nothing. -/
def create (levels : List LockLevel) (content : Content) (threads : Nat) : LockTable Content :=
  ⟨levels.map fun level => ⟨level, content, none⟩, List.replicate threads .free⟩

/-- What a thread holds. -/
def thread (table : LockTable Content) (thread : Nat) : LockHolder :=
  table.threads[thread]?.getD .free

/-- The outcome of an attempt to take a lock. -/
inductive Attempt (Content : Type) where
  /-- The thread has the lock now. -/
  | taken (content : Content) (table : LockTable Content)
  /-- The lock is held; the thread would wait. -/
  | blocked
  /-- The order of levels forbids the attempt. -/
  | refused (fault : Fault)

/-- A thread tries to take a lock. The order of levels is checked before the lock is looked at. -/
def acquire (table : LockTable Content) (thread lock : Nat) : Option (Attempt Content) :=
  match table.locks[lock]? with
  | none => none
  | some found =>
    let holder := table.thread thread
    if found.level.rank ≤ LockLevel.heldRank holder.held then
      some (.refused (.lockOrder found.level holder.held))
    else if found.owner.isSome then some .blocked
    else
      some (.taken found.content
        { locks := table.locks.set lock { found with owner := some thread }
          threads := table.threads.set thread
            ⟨some found.level, ⟨lock, holder.held⟩ :: holder.guards⟩ })

/-- A thread drops its guard of a lock, if it has one, and is back at the level it held before it
took that lock. -/
def release (table : LockTable Content) (thread lock : Nat) : Option (LockTable Content) :=
  let holder := table.thread thread
  match holder.guards.find? (·.lock = lock) with
  | none => none
  | some guard =>
    some
      { locks := table.locks.modify lock fun found => { found with owner := none }
        threads := table.threads.set thread
          ⟨guard.previous, holder.guards.filter (·.lock ≠ lock)⟩ }

/-- The content of a lock that a thread holds. -/
def content? (table : LockTable Content) (thread lock : Nat) : Option Content :=
  match table.locks[lock]? with
  | some found => if found.owner = some thread then some found.content else none
  | none => none

/-- A thread changes the content of a lock that it holds. -/
def change (table : LockTable Content) (thread lock : Nat) (update : Content → Content) :
    LockTable Content :=
  match table.content? thread lock with
  | none => table
  | some _ =>
    { table with
      locks := table.locks.modify lock fun found => { found with content := update found.content } }

end LockTable

/-- A lock in reports on the server's own state. -/
def Lock.describe {Content : Type} (lock : Lock Content) : String :=
  "OrderedMutex \x7b level: " ++ lock.level.name ++ ", locked: " ++ toString lock.owner.isSome ++
    " \x7d"

end KeyValueServer
