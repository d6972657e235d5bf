import Mathlib.Logic.Relation
import KeyValueServer.Proofs.Lock.Tower
import KeyValueServer.Store

/-!
# Freedom from deadlock

Any number of threads work on the registries and on the shards at the same time, one operation after
the other each. They meet where a lock is taken or given back, in any order.

What a thread holds is a tower of locks, the last one on top, and the level that it is at is that of
the top. A thread that waits is therefore below the lock that it waits for, and the one that has it
can only wait for a lock above. Along a chain of waiting threads the locks rise; there are but five
levels, so a chain ends with a thread that goes on.
-/

namespace KeyValueServer

/-- Threads at work on the locks of a server, and what each of them still does in the operation that
it is in. -/
structure Crew (Content : Type) where
  table : LockTable Content
  ahead : Nat → List LockAction

namespace Crew

variable {Content : Type}

/-- What can happen next among the threads. -/
inductive Move (Content : Type) where
  /-- A thread starts with an operation. -/
  | starts (thread : Nat) (operation : LockedOperation)
  /-- A thread goes on to the next lock that it takes or gives back. -/
  | acts (thread : Nat)
  /-- A thread changes what a lock protects. -/
  | changes (thread lock : Nat) (update : Content → Content)

/-- What comes of a thread that tries to go on. -/
inductive Going (Content : Type) where
  /-- It is in no operation. -/
  | idle
  | on (crew : Crew Content)
  /-- The lock that comes next is held. -/
  | waits
  /-- The thread may not take the lock, or there is nothing to take or to give back. -/
  | fails (fault : Option Fault)

/-- All threads without a lock and in no operation. -/
def create (shards : Nat) (content : Content) (threads : Nat) : Crew Content :=
  ⟨.create (LockedOperation.levels shards) content threads, fun _ => []⟩

/-- A thread tries to go on in its operation. -/
def go (crew : Crew Content) (thread : Nat) : Going Content :=
  match crew.ahead thread with
  | [] => .idle
  | .acquire lock :: rest =>
    match crew.table.acquire thread lock with
    | none => .fails none
    | some (.refused fault) => .fails (some fault)
    | some .blocked => .waits
    | some (.taken _ table) => .on ⟨table, Function.update crew.ahead thread rest⟩
  | .release lock :: rest =>
    match crew.table.release thread lock with
    | none => .fails none
    | some table => .on ⟨table, Function.update crew.ahead thread rest⟩

/-- One move, if it can be made. A thread starts with an operation after the one before, and names
no shard that does not exist. -/
def step (shards : Nat) (crew : Crew Content) : Move Content → Crew Content
  | .starts thread operation =>
    if thread < crew.table.threads.length ∧ crew.ahead thread = [] ∧ operation.Exists shards then
      { crew with ahead := Function.update crew.ahead thread (operation.actions shards) }
    else crew
  | .acts thread =>
    match crew.go thread with
    | .on next => next
    | .idle | .waits | .fails _ => crew
  | .changes thread lock update => { crew with table := crew.table.change thread lock update }

/-- The threads after the moves, in order. -/
def run (shards : Nat) (crew : Crew Content) (moves : List (Move Content)) : Crew Content :=
  moves.foldl (step shards) crew

/-- A thread is about to take a lock that another one holds. -/
def WaitsFor (crew : Crew Content) (thread other : Nat) : Prop :=
  ∃ lock rest, crew.ahead thread = .acquire lock :: rest ∧ crew.table.ownerOf lock = some other

/-- What holds of the threads between any two moves. -/
structure Sound (levels : List LockLevel) (crew : Crew Content) : Prop where
  levelled : crew.table.locks.map Lock.level = levels
  holder : ∀ thread, crew.table.thread thread = .holding levels (crew.table.thread thread).locks
  ascending : ∀ thread, (crew.table.thread thread).locks.Pairwise fun upper lower =>
    LockLevel.rankAt levels lower < LockLevel.rankAt levels upper
  nests : ∀ thread, Nests levels (crew.table.thread thread).locks (crew.ahead thread)
  owner : ∀ thread lock,
    crew.table.ownerOf lock = some thread ↔ lock ∈ (crew.table.thread thread).locks
  outside : ∀ thread, crew.table.threads.length ≤ thread → crew.ahead thread = []

variable {levels : List LockLevel} {crew : Crew Content} {thread lock : Nat}
  {rest : List LockAction}

/-- Threads that have done nothing yet are in order. -/
theorem sound_create (shards : Nat) (content : Content) (threads : Nat) :
    (create shards content threads).Sound (LockedOperation.levels shards) := by
  obtain ⟨levelled, holder, ascending, owner⟩ :=
    LockTable.towering_create (LockedOperation.levels shards) content threads
  refine ⟨levelled, holder, ascending, ?_, owner, fun _ _ => rfl⟩
  intro thread
  rw [create, LockTable.thread_create]
  exact .done

namespace Sound

/-- The locks of threads in order are in towers. -/
theorem towering (sound : crew.Sound levels) : crew.table.Towering levels :=
  ⟨sound.levelled, sound.holder, sound.ascending, sound.owner⟩

/-- A thread in an operation is one of the crew. -/
theorem inside (sound : crew.Sound levels) (busy : crew.ahead thread ≠ []) :
    thread < crew.table.threads.length :=
  Nat.lt_of_not_le fun beyond => busy (sound.outside thread beyond)

/-- The crew is in order after a thread went on and has another tower of locks, if what the thread
still does fits this tower. -/
theorem moved (sound : crew.Sound levels) (inside : thread < crew.table.threads.length)
    {locks : List (Lock Content)} {held : List Nat}
    (towering : LockTable.Towering levels
      ⟨locks, crew.table.threads.set thread (.holding levels held)⟩)
    (nests : Nests levels held rest) :
    Sound levels ⟨⟨locks, crew.table.threads.set thread (.holding levels held)⟩,
      Function.update crew.ahead thread rest⟩ := by
  obtain ⟨levelled, holder, ascending, owner⟩ := towering
  refine ⟨levelled, holder, ascending, ?_, owner, ?_⟩
  · intro other
    rw [LockTable.thread_set inside]
    by_cases same : other = thread
    · subst same
      simpa using nests
    · simp only [Function.update_of_ne same]
      exact sound.nests other
  · intro other beyond
    simp only [List.length_set] at beyond
    have same : other ≠ thread := by omega
    simp only [Function.update_of_ne same]
    exact sound.outside other beyond

/-- A thread in order is in no operation, goes on, or waits for a lock that some thread holds. -/
theorem go_cases (sound : crew.Sound levels) (thread : Nat) :
    (crew.ahead thread = [] ∧ crew.go thread = .idle) ∨
      (∃ next, (∀ other, ¬ crew.WaitsFor thread other) ∧ crew.go thread = .on next ∧
        next.Sound levels) ∨
      (∃ other, crew.WaitsFor thread other) ∧ crew.go thread = .waits := by
  have nests := sound.nests thread
  cases next : crew.ahead thread with
  | nil => exact .inl ⟨rfl, by simp [go, next]⟩
  | cons action rest =>
    rw [next] at nests
    have inside : thread < crew.table.threads.length := sound.inside (by simp [next])
    right
    cases action with
    | acquire lock =>
      obtain ⟨known, above, nests⟩ := nests.of_acquire
      obtain ⟨found, there, _⟩ :=
        sound.towering.there_of_level (List.getElem?_eq_getElem known)
      obtain ⟨⟨other, member, low⟩, _⟩ | ⟨_, ⟨⟨other, owner⟩, waits⟩ | ⟨free, takes⟩⟩ :=
        sound.towering.acquire_cases thread there
      · exact absurd (above other member) (Nat.not_lt_of_le low)
      · right
        refine ⟨⟨other, lock, rest, next, by simp [LockTable.ownerOf, there, owner]⟩, ?_⟩
        simp [go, next, waits]
      · left
        have taken := sound.towering.acquired inside there free above
        refine ⟨_, ?_, ?_, sound.moved inside taken nests⟩
        · rintro other ⟨wanted, later, ahead, owned⟩
          rw [next] at ahead
          cases ahead
          simp [LockTable.ownerOf, there, free] at owned
        · simp [go, next, takes, LockTable.taken]
    | release lock =>
      obtain ⟨held, tower, nests⟩ := nests.of_release
      left
      refine ⟨_, ?_, ?_, sound.moved inside (sound.towering.released tower) nests⟩
      · rintro other ⟨wanted, later, ahead, _⟩
        rw [next] at ahead
        cases ahead
      · simp [go, next, sound.towering.release_eq tower, LockTable.givenBack]

/-- What a lock protects can change at any time. -/
theorem changed (sound : crew.Sound levels) (place lock : Nat) (update : Content → Content) :
    Sound levels { crew with table := crew.table.change place lock update } := by
  obtain ⟨levelled, holder, ascending, owner⟩ := sound.towering.changed place lock update
  obtain ⟨_, _, threads⟩ := crew.table.change_frame place lock update
  refine ⟨levelled, holder, ascending, ?_, owner, ?_⟩
  · simpa only [LockTable.thread, threads] using sound.nests
  · simpa only [threads] using sound.outside

/-- A thread without locks starts with actions that fit it. -/
theorem started (sound : crew.Sound levels) (inside : thread < crew.table.threads.length)
    (idle : crew.ahead thread = []) {actions : List LockAction} (fits : Nests levels [] actions) :
    Sound levels { crew with ahead := Function.update crew.ahead thread actions } := by
  constructor
  · exact sound.levelled
  · exact sound.holder
  · exact sound.ascending
  · intro other
    have nests := sound.nests other
    by_cases same : other = thread
    · subst same
      rw [idle] at nests
      simpa [nests.of_nil] using fits
    · simpa [Function.update_of_ne same] using nests
  · exact sound.owner
  · intro other beyond
    have same : other ≠ thread := Nat.ne_of_gt (Nat.lt_of_lt_of_le inside beyond)
    simpa [Function.update_of_ne same] using sound.outside other beyond

/-- Moves keep the crew in order. -/
theorem step {shards : Nat} (positive : 0 < shards)
    (sound : crew.Sound (LockedOperation.levels shards)) (move : Move Content) :
    (crew.step shards move).Sound (LockedOperation.levels shards) := by
  cases move with
  | starts thread operation =>
    rw [Crew.step]
    split
    · obtain ⟨inside, idle, existing⟩ := ‹_ ∧ _›
      exact sound.started inside idle (LockedOperation.nests_actions positive operation existing)
    · exact sound
  | acts thread =>
    rw [Crew.step]
    obtain ⟨_, idle⟩ | ⟨next, _, on, sound⟩ | ⟨_, waits⟩ := sound.go_cases thread
    · rw [idle]
      exact sound
    · rw [on]
      exact sound
    · rw [waits]
      exact sound
  | changes thread lock update => exact sound.changed thread lock update

/-- The crew stays in order through any moves. -/
theorem run {shards : Nat} (positive : 0 < shards)
    (sound : crew.Sound (LockedOperation.levels shards)) (moves : List (Move Content)) :
    (crew.run shards moves).Sound (LockedOperation.levels shards) := by
  induction moves generalizing crew with
  | nil => exact sound
  | cons move moves inductionHypothesis =>
    exact inductionHypothesis (sound.step positive move)

end Sound

/-- How high a thread is about to reach: to the lock that it takes next, or above all locks when it
takes none. -/
def reach (levels : List LockLevel) (crew : Crew Content) (thread : Nat) : Nat :=
  match crew.ahead thread with
  | .acquire lock :: _ => LockLevel.rankAt levels lock
  | _ => LockLevel.shard.rank + 1

namespace Sound

variable {other : Nat}

/-- The one that a thread waits for reaches higher. -/
theorem reach_lt (sound : crew.Sound levels) (waits : crew.WaitsFor thread other) :
    crew.reach levels thread < crew.reach levels other := by
  obtain ⟨lock, rest, next, owned⟩ := waits
  have member := (sound.owner other lock).mp owned
  have nests := sound.nests other
  have bound := LockLevel.rankAt_le levels lock
  simp only [reach, next]
  split
  · rename_i wanted later next
    rw [next] at nests
    exact nests.of_acquire.2.1 lock member
  · omega

/-- Along a chain of threads, each waiting for the next, the reach rises. -/
theorem reach_lt_of_chain (sound : crew.Sound levels)
    (chain : Relation.TransGen crew.WaitsFor thread other) :
    crew.reach levels thread < crew.reach levels other := by
  induction chain with
  | single waits => exact sound.reach_lt waits
  | tail _ waits inductionHypothesis =>
    exact Nat.lt_trans inductionHypothesis (sound.reach_lt waits)

/-- A thread that holds a lock is in an operation. -/
theorem busy_of_owner (sound : crew.Sound levels) (owned : crew.table.ownerOf lock = some thread) :
    crew.ahead thread ≠ [] := by
  intro idle
  have member := (sound.owner thread lock).mp owned
  have nests := sound.nests thread
  rw [idle] at nests
  rw [nests.of_nil] at member
  cases member

/-- At the end of every chain of waiting threads is one that goes on. -/
theorem chain_ends (sound : crew.Sound levels) (waits : crew.WaitsFor thread other) :
    ∃ last next, Relation.TransGen crew.WaitsFor thread last ∧ crew.go last = .on next := by
  -- by how much the reach of the thread waited for can still rise
  induction room : LockLevel.shard.rank + 1 - crew.reach levels other
    using Nat.strongRecOn generalizing thread other with
  | _ room inductionHypothesis =>
  obtain ⟨lock, rest, ahead, owned⟩ := id waits
  obtain ⟨idle, _⟩ | ⟨next, _, on, _⟩ | ⟨⟨third, onward⟩, _⟩ := sound.go_cases other
  · exact absurd idle (sound.busy_of_owner owned)
  · exact ⟨other, next, .single waits, on⟩
  · have rises := sound.reach_lt onward
    have bound : crew.reach levels other ≤ LockLevel.shard.rank := by
      obtain ⟨wanted, later, next, _⟩ := onward
      simpa only [reach, next] using LockLevel.rankAt_le levels wanted
    obtain ⟨last, next, chain, on⟩ := inductionHypothesis _ (by omega) onward rfl
    exact ⟨last, next, .head waits chain, on⟩

/-- A thread does not fail, and waits only when another one has the lock that it takes next. -/
theorem waits_iff (sound : crew.Sound levels) (thread : Nat) :
    (∀ fault, crew.go thread ≠ .fails fault) ∧
      (crew.go thread = .waits ↔ ∃ other, crew.WaitsFor thread other) := by
  obtain ⟨idle, stays⟩ | ⟨next, free, on, _⟩ | ⟨waitsFor, waits⟩ := sound.go_cases thread
  · have free : ¬ ∃ other, crew.WaitsFor thread other := by
      rintro ⟨other, lock, rest, next, _⟩
      rw [idle] at next
      cases next
    simp [stays, free]
  · simp [on, free]
  · simp [waits, waitsFor]

/-- Two shards are never in one tower, since they are at the same level. -/
theorem oneShard (sound : crew.Sound levels) (thread : Nat) :
    ((crew.table.thread thread).locks.filter fun lock =>
      crew.table.levelOf lock = some .shard).length ≤ 1 := by
  have height : ∀ lock, crew.table.levelOf lock = some .shard →
      LockLevel.rankAt levels lock = LockLevel.shard.rank := by
    intro lock level
    rw [LockTable.levelOf, ← List.getElem?_map, sound.levelled] at level
    simp [LockLevel.rankAt, level]
  have ascending := (sound.ascending thread).filter fun lock =>
    crew.table.levelOf lock = some .shard
  have shards : ∀ lock ∈ (crew.table.thread thread).locks.filter fun lock =>
      crew.table.levelOf lock = some .shard, LockLevel.rankAt levels lock =
        LockLevel.shard.rank := by
    intro lock member
    exact height lock (by simpa using (List.mem_filter.mp member).2)
  cases both : (crew.table.thread thread).locks.filter fun lock =>
      crew.table.levelOf lock = some .shard with
  | nil => exact Nat.zero_le _
  | cons upper others =>
    rw [both] at ascending shards
    cases others with
    | nil => exact Nat.le_refl _
    | cons lower others =>
      have rises := (List.pairwise_cons.mp ascending).1 lower List.mem_cons_self
      rw [shards upper (by simp), shards lower (by simp)] at rises
      exact absurd rises (Nat.lt_irrefl _)

end Sound

/-- What is promised of threads that share the locks of a server. -/
structure Live (crew : Crew Content) : Prop where
  /-- No thread is refused a lock for its level, or gives back what it does not hold. -/
  ordered : ∀ thread fault, crew.go thread ≠ .fails fault
  /-- A lock has an owner exactly while a thread has a guard of it. -/
  owner : ∀ lock thread,
    crew.table.ownerOf lock = some thread ↔ lock ∈ (crew.table.thread thread).locks
  /-- No two threads hold a lock together. -/
  exclusive : ∀ lock thread other, lock ∈ (crew.table.thread thread).locks →
    lock ∈ (crew.table.thread other).locks → thread = other
  /-- A thread holds no two shards. -/
  oneShard : ∀ thread, ((crew.table.thread thread).locks.filter fun lock =>
    crew.table.levelOf lock = some .shard).length ≤ 1
  /-- A thread waits when another one has the lock that it takes next. -/
  waits_iff : ∀ thread, crew.go thread = .waits ↔ ∃ other, crew.WaitsFor thread other
  /-- No threads wait for each other in a circle. -/
  acyclic : ∀ thread, ¬ Relation.TransGen crew.WaitsFor thread thread
  /-- Whoever waits, waits in the end for a thread that goes on. -/
  progress : ∀ thread, crew.go thread = .waits →
    ∃ last next, Relation.TransGen crew.WaitsFor thread last ∧ crew.go last = .on next
  /-- Between two operations a thread is at no level and holds nothing. -/
  clear : ∀ thread, crew.ahead thread = [] →
    crew.table.thread thread = .free ∧ ∀ lock, crew.table.ownerOf lock ≠ some thread

/-- Threads in order keep what is promised. -/
theorem Sound.live (sound : crew.Sound levels) : crew.Live := by
  constructor
  · intro thread
    exact (sound.waits_iff thread).1
  · intro lock thread
    exact sound.owner thread lock
  · intro lock thread other member memberToo
    have owned := (sound.owner thread lock).mpr member
    rw [(sound.owner other lock).mpr memberToo] at owned
    exact (Option.some.inj owned).symm
  · exact sound.oneShard
  · intro thread
    exact (sound.waits_iff thread).2
  · intro thread circle
    exact Nat.lt_irrefl _ (sound.reach_lt_of_chain circle)
  · intro thread waits
    obtain ⟨other, waitsFor⟩ := (sound.waits_iff thread).2.mp waits
    exact sound.chain_ends waitsFor
  · intro thread idle
    have nests := sound.nests thread
    rw [idle] at nests
    refine ⟨?_, ?_⟩
    · rw [sound.holder thread, nests.of_nil]
      rfl
    · intro lock owned
      exact sound.busy_of_owner owned idle

/-- Any number of threads can do any operations on the registries and on the shards of a store, in
any order of their acquisitions and releases: none is refused a lock, and they never block each
other. -/
theorem live_in_every_run (store : Store) (content : Content) (threads : Nat)
    (moves : List (Move Content)) :
    ((create store.shardCount content threads).run store.shardCount moves).Live :=
  ((sound_create store.shardCount content threads).run store.shards_pos moves).live

example : ((create 1 () 2).run 1
    [.starts 0 .countConnections, .starts 1 .stageOf, .acts 0]).go 1 = .waits := rfl

end Crew

end KeyValueServer
