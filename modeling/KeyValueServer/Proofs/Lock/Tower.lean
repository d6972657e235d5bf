import Mathlib.Data.List.Basic
import Mathlib.Logic.Function.Basic
import KeyValueServer.Proofs.Lock.Nesting

/-!
# Towers of locks

What a thread holds is a tower of locks, each above those that it took before, and the level that
the thread is at is that of the lock on top. A lock has an owner exactly while it is in the tower of
this thread. Taking a lock puts it on top of a tower and giving back the last one takes it off, so
this stays true; and the lock on top being the highest, the order of levels refuses a lock exactly
when some lock of the tower is not below it.
-/

namespace KeyValueServer

/-- No lock is at the bottom of the order of levels. -/
theorem LockLevel.rank_pos (level : LockLevel) : 0 < level.rank := by
  cases level <;> decide

/-- A thread is as high as the lock whose level it is at. -/
theorem LockLevel.heldRank_getElem? (levels : List LockLevel) (lock : Nat) :
    LockLevel.heldRank levels[lock]? = LockLevel.rankAt levels lock := by
  unfold LockLevel.rankAt
  cases levels[lock]? <;> rfl

namespace LockHolder

/-- The locks that a thread holds, last one first. -/
def locks (holder : LockHolder) : List Nat := holder.guards.map Guard.lock

/-- A thread that took the given locks, last one first. It is at the level of the last one, and
every guard remembers the level of the lock before. -/
def holding (levels : List LockLevel) : List Nat → LockHolder
  | [] => .free
  | lock :: held =>
    ⟨levels[lock]?, ⟨lock, (holding levels held).held⟩ :: (holding levels held).guards⟩

variable {levels : List LockLevel} {held : List Nat} {lock : Nat}

@[simp]
theorem locks_holding (held : List Nat) : (holding levels held).locks = held := by
  induction held with
  | nil => rfl
  | cons lock held inductionHypothesis =>
    simp only [locks, holding, List.map_cons, List.cons.injEq, true_and]
    exact inductionHypothesis

/-- A thread is at the level of the lock that it took last. -/
theorem held_holding (held : List Nat) :
    (holding levels held).held = held.head?.bind (levels[·]?) := by
  cases held with
  | nil => rfl
  | cons lock held => rfl

/-- The lock on top of a tower is the highest. -/
theorem rankAt_le_heldRank
    (ascending : held.Pairwise fun upper lower =>
      LockLevel.rankAt levels lower < LockLevel.rankAt levels upper) :
    ∀ other ∈ held,
      LockLevel.rankAt levels other ≤ LockLevel.heldRank (holding levels held).held := by
  cases held with
  | nil => nofun
  | cons top held =>
    obtain ⟨below, _⟩ := List.pairwise_cons.mp ascending
    simp only [holding, LockLevel.heldRank_getElem?, List.mem_cons, forall_eq_or_imp]
    exact ⟨Nat.le_refl _, fun other member => Nat.le_of_lt (below other member)⟩

/-- A thread is below a level exactly when all locks of its tower are. -/
theorem heldRank_holding_lt_iff
    (ascending : held.Pairwise fun upper lower =>
      LockLevel.rankAt levels lower < LockLevel.rankAt levels upper) (level : LockLevel) :
    LockLevel.heldRank (holding levels held).held < level.rank ↔
      ∀ other ∈ held, LockLevel.rankAt levels other < level.rank := by
  constructor
  · intro below other member
    exact Nat.lt_of_le_of_lt (rankAt_le_heldRank ascending other member) below
  · intro above
    cases held with
    | nil => exact level.rank_pos
    | cons top held =>
      simp only [holding, LockLevel.heldRank_getElem?]
      exact above top List.mem_cons_self

/-- The guard of the last lock is the first that is found. -/
theorem find?_holding (lock : Nat) (held : List Nat) :
    (holding levels (lock :: held)).guards.find? (·.lock = lock) =
      some ⟨lock, (holding levels held).held⟩ := by
  simp [holding]

/-- Without the guard of the last lock the thread holds the others as before. -/
theorem filter_holding (fresh : lock ∉ held) :
    (holding levels (lock :: held)).guards.filter (·.lock ≠ lock) =
      (holding levels held).guards := by
  have others : ∀ guard ∈ (holding levels held).guards, guard.lock ≠ lock := by
    intro guard member same
    apply fresh
    have named := @locks_holding levels held
    rw [← named, ← same]
    exact List.mem_map_of_mem member
  simp only [holding, ne_eq, not_true_eq_false, decide_false, Bool.false_eq_true,
    not_false_eq_true, List.filter_cons_of_neg]
  apply List.filter_eq_self.mpr
  intro guard member
  exact decide_eq_true (others guard member)

end LockHolder

namespace LockTable

variable {Content : Type} {table : LockTable Content}

/-- The thread that holds a lock. -/
def ownerOf (table : LockTable Content) (lock : Nat) : Option Nat :=
  table.locks[lock]?.bind Lock.owner

/-- The level of a lock. -/
def levelOf (table : LockTable Content) (lock : Nat) : Option LockLevel :=
  table.locks[lock]?.map Lock.level

/-- Another state of a thread is seen by that thread alone. -/
theorem thread_set {place : Nat} (inside : place < table.threads.length) (holder : LockHolder)
    (locks : List (Lock Content)) (other : Nat) :
    thread ⟨locks, table.threads.set place holder⟩ other =
      Function.update table.thread place holder other := by
  by_cases same : other = place
  · subst same
    simp [thread, inside]
  · simp [thread, Function.update_of_ne same, List.getElem?_set_ne (Ne.symm same)]

/-- A change of what a lock protects leaves the locks' levels and owners, and the threads. -/
theorem change_frame (place lock : Nat) (update : Content → Content) :
    (table.change place lock update).locks.map Lock.level = table.locks.map Lock.level ∧
      (∀ other, (table.change place lock update).ownerOf other = table.ownerOf other) ∧
      (table.change place lock update).threads = table.threads := by
  unfold change
  cases table.content? place lock with
  | none => exact ⟨rfl, fun _ => rfl, rfl⟩
  | some content =>
    refine ⟨?_, ?_, rfl⟩
    · apply List.ext_getElem?
      intro other
      by_cases same : lock = other <;> cases found : table.locks[other]? <;>
        simp [same, found]
    · intro other
      by_cases same : lock = other <;> cases found : table.locks[other]? <;>
        simp [ownerOf, same, found]

/-- The table after a thread took a lock. -/
def taken (table : LockTable Content) (levels : List LockLevel) (thread lock : Nat)
    (found : Lock Content) : LockTable Content :=
  ⟨table.locks.set lock { found with owner := some thread },
    table.threads.set thread (.holding levels (lock :: (table.thread thread).locks))⟩

/-- The table after a thread gave a lock back and holds the others. -/
def givenBack (table : LockTable Content) (levels : List LockLevel) (thread lock : Nat)
    (held : List Nat) : LockTable Content :=
  ⟨table.locks.modify lock fun found => { found with owner := none },
    table.threads.set thread (.holding levels held)⟩

/-- What holds of locks and threads between any two steps. -/
structure Towering (levels : List LockLevel) (table : LockTable Content) : Prop where
  levelled : table.locks.map Lock.level = levels
  holder : ∀ thread, table.thread thread = .holding levels (table.thread thread).locks
  ascending : ∀ thread, (table.thread thread).locks.Pairwise fun upper lower =>
    LockLevel.rankAt levels lower < LockLevel.rankAt levels upper
  owner : ∀ thread lock, table.ownerOf lock = some thread ↔ lock ∈ (table.thread thread).locks

/-- In the beginning no thread holds a lock. -/
theorem thread_create (levels : List LockLevel) (content : Content) (threads thread : Nat) :
    (create levels content threads).thread thread = .free := by
  simp only [create, LockTable.thread, List.getElem?_replicate]
  split <;> rfl

/-- In the beginning all towers are empty. -/
theorem towering_create (levels : List LockLevel) (content : Content) (threads : Nat) :
    (create levels content threads).Towering levels := by
  constructor
  · simp [create, Function.comp_def]
  · intro thread
    rw [thread_create]
    rfl
  · intro thread
    rw [thread_create]
    exact .nil
  · intro thread lock
    rw [thread_create]
    simp only [create, ownerOf, List.getElem?_map, LockHolder.free, LockHolder.locks, List.map_nil,
      List.not_mem_nil, iff_false]
    cases levels[lock]? <;> simp

namespace Towering

variable {levels : List LockLevel} {thread lock : Nat} {held : List Nat} {found : Lock Content}

/-- A lock that is there has the level that it is known by. -/
theorem level_of_there (towering : table.Towering levels)
    (there : table.locks[lock]? = some found) : levels[lock]? = some found.level := by
  rw [← towering.levelled, List.getElem?_map, there]
  rfl

/-- A lock that is there has the rank of its level. -/
theorem rankAt_of_there (towering : table.Towering levels)
    (there : table.locks[lock]? = some found) :
    LockLevel.rankAt levels lock = found.level.rank := by
  simp [LockLevel.rankAt, towering.level_of_there there]

/-- A lock that is known by its level is there. -/
theorem there_of_level {level : LockLevel} (towering : table.Towering levels)
    (known : levels[lock]? = some level) :
    ∃ found, table.locks[lock]? = some found ∧ found.level = level := by
  rw [← towering.levelled, List.getElem?_map] at known
  exact Option.map_eq_some_iff.mp known

/-- A lock in a tower has a level. -/
theorem exists_level (towering : table.Towering levels)
    (member : lock ∈ (table.thread thread).locks) : ∃ level, levels[lock]? = some level := by
  obtain ⟨found, there, _⟩ := Option.bind_eq_some_iff.mp ((towering.owner thread lock).mpr member)
  exact ⟨_, towering.level_of_there there⟩

/-- A thread that holds something is one of the threads. -/
theorem inside (tower : (table.thread thread).locks = lock :: held) :
    thread < table.threads.length := by
  apply Nat.lt_of_not_le
  intro beyond
  rw [LockTable.thread, List.getElem?_eq_none beyond] at tower
  cases tower

/-- No lock is twice in a tower. -/
theorem fresh_of_tower (towering : table.Towering levels)
    (tower : (table.thread thread).locks = lock :: held) : lock ∉ held := by
  have ascending := towering.ascending thread
  rw [tower] at ascending
  intro member
  exact Nat.lt_irrefl _ ((List.pairwise_cons.mp ascending).1 lock member)

/-- All towers are in order after a thread has another one, if every lock is owned by the thread in
whose tower it is. -/
theorem moved (towering : table.Towering levels) (inside : thread < table.threads.length)
    {locks : List (Lock Content)} (levelled : locks.map Lock.level = levels)
    (ascending : held.Pairwise fun upper lower =>
      LockLevel.rankAt levels lower < LockLevel.rankAt levels upper)
    (own : ∀ lock, locks[lock]?.bind Lock.owner = some thread ↔ lock ∈ held)
    (others : ∀ other ≠ thread, ∀ lock,
      locks[lock]?.bind Lock.owner = some other ↔ table.ownerOf lock = some other) :
    Towering levels ⟨locks, table.threads.set thread (.holding levels held)⟩ := by
  have seen := thread_set inside (.holding levels held) locks
  constructor
  · exact levelled
  · intro other
    rw [seen]
    by_cases same : other = thread
    · subst same
      simp
    · rw [Function.update_of_ne same]
      exact towering.holder other
  · intro other
    rw [seen]
    by_cases same : other = thread
    · subst same
      simpa using ascending
    · rw [Function.update_of_ne same]
      exact towering.ascending other
  · intro other lock
    rw [seen]
    by_cases same : other = thread
    · subst same
      simpa [ownerOf] using own lock
    · rw [Function.update_of_ne same, ← towering.owner other lock]
      exact others other same lock

/-- A thread takes a free lock above those that it holds. -/
theorem acquired (towering : table.Towering levels) (inside : thread < table.threads.length)
    (there : table.locks[lock]? = some found) (free : found.owner = none)
    (above : ∀ other ∈ (table.thread thread).locks,
      LockLevel.rankAt levels other < LockLevel.rankAt levels lock) :
    (table.taken levels thread lock found).Towering levels := by
  obtain ⟨lockInside, same⟩ := List.getElem?_eq_some_iff.mp there
  have unowned : table.ownerOf lock = none := by
    simp [ownerOf, there, free]
  apply towering.moved inside
  · apply List.ext_getElem?
    intro place
    rw [← towering.levelled, List.getElem?_map, List.getElem?_map, List.getElem?_set]
    by_cases at_lock : lock = place
    · subst at_lock
      simp [lockInside, same]
    · simp [at_lock]
  · exact List.pairwise_cons.mpr ⟨above, towering.ascending thread⟩
  · intro other
    rw [List.mem_cons, ← towering.owner thread other, List.getElem?_set]
    by_cases same : lock = other
    · subst same
      simp [lockInside]
    · simp [same, Ne.symm same, ownerOf]
  · intro other different place
    rw [List.getElem?_set]
    by_cases same : lock = place
    · subst same
      simp [lockInside, unowned, Ne.symm different]
    · simp [same, ownerOf]

/-- A thread gives back the lock that it took last. -/
theorem released (towering : table.Towering levels)
    (tower : (table.thread thread).locks = lock :: held) :
    (table.givenBack levels thread lock held).Towering levels := by
  have ascending := towering.ascending thread
  rw [tower] at ascending
  have fresh := towering.fresh_of_tower tower
  have owned : table.ownerOf lock = some thread :=
    (towering.owner thread lock).mpr (by simp [tower])
  have owners : ∀ place, ((table.locks.modify lock fun found =>
      { found with owner := none })[place]?.bind Lock.owner) =
        if lock = place then none else table.ownerOf place := by
    intro place
    rw [List.getElem?_modify, ownerOf]
    by_cases same : lock = place
    · cases table.locks[place]? <;> simp [same]
    · simp [same]
  apply towering.moved (inside tower)
  · apply List.ext_getElem?
    intro place
    rw [← towering.levelled, List.getElem?_map, List.getElem?_map, List.getElem?_modify]
    by_cases same : lock = place
    · cases table.locks[place]? <;> simp [same]
    · simp [same]
  · exact (List.pairwise_cons.mp ascending).2
  · intro place
    rw [owners]
    by_cases same : lock = place
    · subst same
      simp [fresh]
    · simp only [if_neg same, towering.owner, tower, List.mem_cons, Ne.symm same, false_or]
  · intro other different place
    rw [owners]
    by_cases same : lock = place
    · subst same
      simp [owned, Ne.symm different]
    · simp [same]

/-- What a lock protects can change at any time. -/
theorem changed (towering : table.Towering levels) (place lock : Nat)
    (update : Content → Content) : (table.change place lock update).Towering levels := by
  obtain ⟨levelled, owners, threads⟩ := table.change_frame place lock update
  have seen : (table.change place lock update).thread = table.thread := by
    funext other
    simp only [LockTable.thread, threads]
  constructor
  · exact levelled.trans towering.levelled
  · simpa only [seen] using towering.holder
  · simpa only [seen] using towering.ascending
  · simpa only [seen, owners] using towering.owner

/-- A thread that asks for a lock is refused it when it holds a lock that is not below, and else
waits while the lock is held, and takes it when it is free. -/
theorem acquire_cases (towering : table.Towering levels) (thread : Nat)
    (there : table.locks[lock]? = some found) :
    ((∃ other ∈ (table.thread thread).locks,
          LockLevel.rankAt levels lock ≤ LockLevel.rankAt levels other) ∧
        table.acquire thread lock =
          some (.refused (.lockOrder found.level (table.thread thread).held))) ∨
      ((∀ other ∈ (table.thread thread).locks,
          LockLevel.rankAt levels other < LockLevel.rankAt levels lock) ∧
        ((∃ owner, found.owner = some owner) ∧ table.acquire thread lock = some .blocked ∨
          found.owner = none ∧ table.acquire thread lock =
            some (.taken found.content (table.taken levels thread lock found)))) := by
  have holder := towering.holder thread
  have level := towering.level_of_there there
  have height := LockHolder.heldRank_holding_lt_iff (towering.ascending thread) found.level
  rw [← holder] at height
  rw [towering.rankAt_of_there there]
  by_cases above : ∀ other ∈ (table.thread thread).locks,
      LockLevel.rankAt levels other < found.level.rank
  · have below := Nat.not_le_of_lt (height.mpr above)
    refine .inr ⟨above, ?_⟩
    cases owner : found.owner with
    | some other =>
      refine .inl ⟨⟨other, rfl⟩, ?_⟩
      simp [acquire, there, below, owner]
    | none =>
      have last : LockHolder.holding levels (lock :: (table.thread thread).locks) =
          ⟨some found.level, ⟨lock, (table.thread thread).held⟩ ::
            (table.thread thread).guards⟩ := by
        rw [LockHolder.holding, level, ← holder]
      refine .inr ⟨rfl, ?_⟩
      simp [acquire, there, below, owner, taken, last]
  · have notBelow := Nat.le_of_not_lt (mt height.mp above)
    simp only [not_forall, Nat.not_lt] at above
    obtain ⟨other, member, low⟩ := above
    refine .inl ⟨⟨other, member, low⟩, ?_⟩
    simp [acquire, there, notBelow]

/-- A thread can give back the lock that it took last, and holds the others then. -/
theorem release_eq (towering : table.Towering levels)
    (tower : (table.thread thread).locks = lock :: held) :
    table.release thread lock = some (table.givenBack levels thread lock held) := by
  have holder := towering.holder thread
  rw [tower] at holder
  simp only [release, holder, LockHolder.find?_holding,
    LockHolder.filter_holding (towering.fresh_of_tower tower)]
  rfl

end Towering

end LockTable

end KeyValueServer
