import KeyValueServer.Proofs.InTurn
import KeyValueServer.Proofs.Lock.Tower

/-!
# The level of a thread

A thread remembers one level, and puts back the one before when it gives a lock up. Whatever threads
do with their locks, one after the other or in turns, this level is exact as long as each gives its
locks up in reverse: it is that of the last lock in the tower of the thread, which is the highest.

A thread that asks for a lock out of order is refused it and goes on without it. Nothing remembers
the attempt, so all that happens later happens as if it had not been made.
-/

namespace KeyValueServer

/-- What a thread did with a lock. -/
inductive LockEvent where
  | took (thread lock : Nat)
  /-- The thread asked for a lock, which the order of levels forbids. -/
  | wasRefused (thread lock : Nat) (fault : Fault)
  | gaveUp (thread lock : Nat)
  deriving DecidableEq, Repr

namespace LockEvent

/-- The locks of a thread after an event, last one first. -/
def changeTower (thread : Nat) (tower : List Nat) : LockEvent → List Nat
  | .took other lock => if other = thread then lock :: tower else tower
  | .wasRefused _ _ _ => tower
  | .gaveUp other _ => if other = thread then tower.tail else tower

/-- The locks that a thread took and did not give up, last one first. -/
def towerOf (history : List LockEvent) (thread : Nat) : List Nat :=
  history.foldl (changeTower thread) []

/-- One more event changes the tower. -/
theorem towerOf_concat (history : List LockEvent) (event : LockEvent) (thread : Nat) :
    towerOf (history ++ [event]) thread = changeTower thread (towerOf history thread) event := by
  rw [towerOf, List.foldl_append]
  rfl

/-- An attempt that was refused leaves all towers as they are. -/
theorem towerOf_wasRefused (earlier later : List LockEvent) (thread lock : Nat) (fault : Fault)
    (other : Nat) : towerOf (earlier ++ .wasRefused thread lock fault :: later) other =
      towerOf (earlier ++ later) other := by
  simp only [towerOf, List.foldl_append, List.foldl_cons, changeTower]

end LockEvent

namespace LockTable

variable {Content : Type} {levels : List LockLevel} {content : Content} {threads : Nat}
  {history : List LockEvent} {table : LockTable Content} {thread lock : Nat}

open LockEvent

/-- What can happen to locks of the given levels when `threads` threads share them. A thread takes a
free lock or is refused one, in which case it has none more than before; it gives up the lock that
it took last; and it changes what its locks protect. -/
inductive Happened (levels : List LockLevel) (content : Content) (threads : Nat) :
    List LockEvent → LockTable Content → Prop
  | start : Happened levels content threads [] (create levels content threads)
  | took {history : List LockEvent} {table next : LockTable Content} (thread lock : Nat)
      (found : Content) (before : Happened levels content threads history table)
      (inside : thread < threads) (taken : table.acquire thread lock = some (.taken found next)) :
      Happened levels content threads (history ++ [.took thread lock]) next
  | wasRefused {history : List LockEvent} {table : LockTable Content} (thread lock : Nat)
      (fault : Fault) (before : Happened levels content threads history table)
      (inside : thread < threads) (refused : table.acquire thread lock = some (.refused fault)) :
      Happened levels content threads (history ++ [.wasRefused thread lock fault]) table
  | gaveUp {history : List LockEvent} {table next : LockTable Content} (thread lock : Nat)
      (before : Happened levels content threads history table)
      (last : (towerOf history thread).head? = some lock)
      (given : table.release thread lock = some next) :
      Happened levels content threads (history ++ [.gaveUp thread lock]) next
  | changed {history : List LockEvent} {table : LockTable Content} (thread lock : Nat)
      (update : Content → Content) (before : Happened levels content threads history table) :
      Happened levels content threads history (table.change thread lock update)

namespace Happened

/-- A lock is taken only where it is there and free, and above all that its thread holds. -/
theorem eq_of_taken {found : Content} {next : LockTable Content}
    (towering : table.Towering levels)
    (taken : table.acquire thread lock = some (.taken found next)) :
    ∃ there, table.locks[lock]? = some there ∧ there.owner = none ∧
      (∀ other ∈ (table.thread thread).locks,
        LockLevel.rankAt levels other < LockLevel.rankAt levels lock) ∧
      next = table.taken levels thread lock there := by
  cases there : table.locks[lock]? with
  | none => simp [acquire, there] at taken
  | some entry =>
    obtain ⟨_, refused⟩ | ⟨above, ⟨_, waits⟩ | ⟨free, takes⟩⟩ :=
      towering.acquire_cases thread there
    · rw [refused] at taken
      cases taken
    · rw [waits] at taken
      cases taken
    · rw [takes] at taken
      cases taken
      exact ⟨entry, rfl, free, above, rfl⟩

end Happened

/-- What towers of locks have to do with what happened to them. -/
structure Accounts (levels : List LockLevel) (threads : Nat) (history : List LockEvent)
    (table : LockTable Content) : Prop where
  towering : table.Towering levels
  crew : table.threads.length = threads
  towers : ∀ thread, (table.thread thread).locks = towerOf history thread

namespace Accounts

/-- A thread that takes another tower has it, and the others keep theirs. -/
theorem towers_set (accounts : Accounts levels threads history table) {event : LockEvent}
    {held : List Nat} (inside : thread < table.threads.length) (locks : List (Lock Content))
    (own : changeTower thread (towerOf history thread) event = held)
    (others : ∀ other ≠ thread, changeTower other (towerOf history other) event =
      towerOf history other) (other : Nat) :
    (LockTable.thread ⟨locks, table.threads.set thread (.holding levels held)⟩ other).locks =
      towerOf (history ++ [event]) other := by
  rw [thread_set inside, towerOf_concat]
  by_cases same : other = thread
  · subst same
    rw [Function.update_self, LockHolder.locks_holding, own]
  · rw [Function.update_of_ne same, accounts.towers, others other same]

/-- Whatever happens is accounted for. -/
theorem of_happened (happened : Happened levels content threads history table) :
    Accounts levels threads history table := by
  induction happened with
  | start =>
    refine ⟨towering_create levels content threads, by simp [create], ?_⟩
    intro thread
    rw [thread_create]
    rfl
  | took thread lock found before inside taken accounts =>
    rw [← accounts.crew] at inside
    obtain ⟨there, entry, free, above, rfl⟩ := Happened.eq_of_taken accounts.towering taken
    refine ⟨accounts.towering.acquired inside entry free above, ?_, ?_⟩
    · simp [LockTable.taken, accounts.crew]
    · apply accounts.towers_set inside
      · simp [changeTower, accounts.towers]
      · intro other different
        simp [changeTower, Ne.symm different]
  | wasRefused thread lock fault before inside refused accounts =>
    refine ⟨accounts.towering, accounts.crew, ?_⟩
    intro other
    rw [towerOf_concat, accounts.towers]
    rfl
  | gaveUp thread lock before last given accounts =>
    obtain ⟨held, tower⟩ := List.head?_eq_some_iff.mp last
    rw [← accounts.towers] at tower
    have inside := Towering.inside tower
    rw [accounts.towering.release_eq tower] at given
    obtain rfl := Option.some.inj given
    refine ⟨accounts.towering.released tower, ?_, ?_⟩
    · simp [givenBack, accounts.crew]
    · apply accounts.towers_set inside
      · simp [changeTower, ← accounts.towers, tower]
      · intro other different
        simp [changeTower, Ne.symm different]
  | changed thread lock update before accounts =>
    obtain ⟨_, _, threads⟩ := LockTable.change_frame thread lock update
    refine ⟨accounts.towering.changed thread lock update, ?_, ?_⟩
    · rw [threads, accounts.crew]
    · intro other
      rw [LockTable.thread, threads]
      exact accounts.towers other

end Accounts

/-- What happened would have happened in the same way without an attempt that was refused. -/
theorem Happened.without_refusal (happened : Happened levels content threads history table)
    {earlier later : List LockEvent} {fault : Fault}
    (split : history = earlier ++ .wasRefused thread lock fault :: later) :
    Happened levels content threads (earlier ++ later) table := by
  induction happened generalizing later with
  | start => exact absurd split (by simp)
  | took other wanted found before inside taken inductionHypothesis =>
    obtain ⟨_, _, same⟩ | ⟨shorter, rfl, rfl⟩ := history_concat_iff.mp split
    · cases same
    · rw [← List.append_assoc]
      exact .took other wanted found (inductionHypothesis rfl) inside taken
  | wasRefused other wanted found before inside refused inductionHypothesis =>
    obtain ⟨rfl, rfl, _⟩ | ⟨shorter, rfl, rfl⟩ := history_concat_iff.mp split
    · rw [List.append_nil]
      exact before
    · rw [← List.append_assoc]
      exact .wasRefused other wanted found (inductionHypothesis rfl) inside refused
  | gaveUp other given before last gives inductionHypothesis =>
    obtain ⟨_, _, same⟩ | ⟨shorter, rfl, rfl⟩ := history_concat_iff.mp split
    · cases same
    · rw [towerOf_wasRefused] at last
      rw [← List.append_assoc]
      exact .gaveUp other given (inductionHypothesis rfl) last gives
  | changed other changed update before inductionHypothesis =>
    exact .changed other changed update (inductionHypothesis split)

/-- What the level of a thread says where its tower is `tower`, and what becomes of the locks that
the thread asks for or gives up. -/
structure Exact (levels : List LockLevel) (table : LockTable Content) (thread : Nat)
    (tower : List Nat) : Prop where
  /-- The locks of the tower are those that the thread owns. -/
  owner : ∀ lock, table.ownerOf lock = some thread ↔ lock ∈ tower
  /-- The levels ascend in the order in which the locks were taken. -/
  ascending : tower.reverse.Pairwise fun earlier later =>
    LockLevel.rankAt levels earlier < LockLevel.rankAt levels later
  /-- The thread is at the level of the last lock of the tower. -/
  last : (table.thread thread).held = tower.head?.bind (levels[·]?)
  /-- The thread is at no level exactly when the tower is empty. -/
  none_iff : (table.thread thread).held = none ↔ tower = []
  /-- No lock of the tower is above the level of the thread. -/
  highest : ∀ lock ∈ tower,
    LockLevel.rankAt levels lock ≤ LockLevel.heldRank (table.thread thread).held
  /-- The thread is refused a lock exactly when it holds one that is not below. The fault names the
  level that was asked for and the one that the thread is at. -/
  refused_iff : ∀ lock level fault, levels[lock]? = some level →
    (table.acquire thread lock = some (.refused fault) ↔
      fault = .lockOrder level (table.thread thread).held ∧
        ∃ other ∈ tower, level.rank ≤ LockLevel.rankAt levels other)
  /-- A free lock that the thread is not refused is taken. -/
  takes : ∀ lock level, levels[lock]? = some level → table.ownerOf lock = none →
    (∀ other ∈ tower, LockLevel.rankAt levels other < level.rank) →
      ∃ found next, table.acquire thread lock = some (.taken found next)
  /-- The last lock of the tower can be given up. -/
  givesUp : ∀ lock, tower.head? = some lock → ∃ next, table.release thread lock = some next

namespace Accounts

/-- The level of a thread is exact where all that happened is accounted for. -/
theorem exact (accounts : Accounts levels threads history table) (thread : Nat) :
    Exact levels table thread (towerOf history thread) := by
  obtain ⟨towering, _, towers⟩ := accounts
  have holder := towering.holder thread
  have ascending := towering.ascending thread
  rw [towers] at holder ascending
  have last : (table.thread thread).held = (towerOf history thread).head?.bind (levels[·]?) := by
    rw [holder]
    exact LockHolder.held_holding _
  constructor
  · intro lock
    rw [← towers]
    exact towering.owner thread lock
  · exact List.pairwise_reverse.mpr ascending
  · exact last
  · rw [last]
    cases tower : towerOf history thread with
    | nil => exact iff_of_true rfl rfl
    | cons top held =>
      have member : top ∈ (table.thread thread).locks := by
        rw [towers, tower]
        exact List.mem_cons_self
      obtain ⟨level, known⟩ := towering.exists_level member
      simp [known]
  · rw [holder]
    exact LockHolder.rankAt_le_heldRank ascending
  · intro lock level fault known
    obtain ⟨found, there, rfl⟩ := towering.there_of_level known
    rw [← towering.rankAt_of_there there, ← towers]
    obtain ⟨notBelow, refused⟩ | ⟨above, answered⟩ := towering.acquire_cases thread there
    · simp only [refused, Option.some.injEq, Attempt.refused.injEq, notBelow, and_true, eq_comm]
    · have noneAbove : ¬ ∃ other ∈ (table.thread thread).locks,
          LockLevel.rankAt levels lock ≤ LockLevel.rankAt levels other := by
        rintro ⟨other, member, low⟩
        exact Nat.not_lt_of_le low (above other member)
      obtain ⟨_, waits⟩ | ⟨_, takes⟩ := answered
      · simp [waits, noneAbove]
      · simp [takes, noneAbove]
  · intro lock level known free above
    obtain ⟨found, there, rfl⟩ := towering.there_of_level known
    rw [← towering.rankAt_of_there there, ← towers] at above
    obtain ⟨⟨other, member, low⟩, _⟩ | ⟨_, ⟨⟨owner, owned⟩, _⟩ | ⟨_, takes⟩⟩ :=
      towering.acquire_cases thread there
    · exact absurd (above other member) (Nat.not_lt_of_le low)
    · simp [ownerOf, there, owned] at free
    · exact ⟨_, _, takes⟩
  · intro lock top
    obtain ⟨held, tower⟩ := List.head?_eq_some_iff.mp top
    rw [← towers] at tower
    exact ⟨_, towering.release_eq tower⟩

end Accounts

/-- Whatever threads do with their locks, the level that a thread is at is exact. It is the level of
the lock that the thread took last and has not given up, which is the highest of those that it
holds; and the thread is refused a lock exactly when this is not below the lock. An attempt that was
refused can be left out, and all else happens as it did. -/
theorem level_is_exact (levels : List LockLevel) (content : Content) (threads : Nat)
    (history : List LockEvent) (table : LockTable Content)
    (happened : Happened levels content threads history table) :
    (∀ thread, Exact levels table thread (towerOf history thread)) ∧
      ∀ earlier thread lock fault later,
        history = earlier ++ .wasRefused thread lock fault :: later →
          Happened levels content threads (earlier ++ later) table := by
  constructor
  · exact (Accounts.of_happened happened).exact
  · intro earlier thread lock fault later split
    exact happened.without_refusal split

/-- Two threads with a lock each, one of which is refused a shard because it holds another. When it
has given this one up, it takes the shard that it was refused. -/
theorem level_around_refusal :
    ∃ table : LockTable Unit,
      Happened [.allSockets, .processing, .shard, .shard] () 2
        [.took 0 0, .took 1 1, .took 0 2, .wasRefused 0 3 (.lockOrder .shard (some .shard)),
          .gaveUp 0 2, .took 0 3] table ∧
      Exact [.allSockets, .processing, .shard, .shard] table 0 [3, 0] ∧
      Exact [.allSockets, .processing, .shard, .shard] table 1 [1] ∧
      Happened [.allSockets, .processing, .shard, .shard] () 2
        [.took 0 0, .took 1 1, .took 0 2, .gaveUp 0 2, .took 0 3] table := by
  have first : Happened [.allSockets, .processing, .shard, .shard] () 2 [.took 0 0] _ :=
    .took 0 0 () .start (by decide) rfl
  have second : Happened [.allSockets, .processing, .shard, .shard] () 2
      [.took 0 0, .took 1 1] _ := .took 1 1 () first (by decide) rfl
  have third : Happened [.allSockets, .processing, .shard, .shard] () 2
      [.took 0 0, .took 1 1, .took 0 2] _ := .took 0 2 () second (by decide) rfl
  have refused : Happened [.allSockets, .processing, .shard, .shard] () 2
      [.took 0 0, .took 1 1, .took 0 2, .wasRefused 0 3 (.lockOrder .shard (some .shard))] _ :=
    .wasRefused 0 3 _ third (by decide) rfl
  have given : Happened [.allSockets, .processing, .shard, .shard] () 2
      [.took 0 0, .took 1 1, .took 0 2, .wasRefused 0 3 (.lockOrder .shard (some .shard)),
        .gaveUp 0 2] _ := .gaveUp 0 2 refused rfl rfl
  have last : Happened [.allSockets, .processing, .shard, .shard] () 2
      [.took 0 0, .took 1 1, .took 0 2, .wasRefused 0 3 (.lockOrder .shard (some .shard)),
        .gaveUp 0 2, .took 0 3] _ := .took 0 3 () given (by decide) rfl
  obtain ⟨exact_, without⟩ := level_is_exact _ _ _ _ _ last
  exact ⟨_, last, exact_ 0, exact_ 1, without [.took 0 0, .took 1 1, .took 0 2] 0 3 _ _ rfl⟩

end LockTable

end KeyValueServer
