import Mathlib.Data.List.Perm.Basic
import KeyValueServer.Proofs.JobPool

/-!
# The workers of a pool

Several threads share a pool: those that submit jobs, its workers, and the one that destroys it. A
worker takes the oldest job, runs it to its return or its panic, and comes back for another. When
the pool is closed and no job waits, the worker leaves. Whoever closed the pool waits for that.

A workforce is a pool together with this and with a record of what happened to each job. The events
come in any order; one that is not possible when it comes changes nothing. The invariant ties the
counters of the pool to the record, and everything that the pool promises is read off it. The record
holds the true numbers; a counter has them until it starts again behind 64 bits.
-/

namespace KeyValueServer

/-- What can happen to a pool that threads share. -/
inductive PoolEvent (Job : Type) where
  /-- A thread submits a job. -/
  | submit (job : Job)
  /-- An idle worker takes the oldest job. -/
  | start
  /-- A running job returns, or panics. -/
  | finish (index : Nat) (panics : Bool)
  /-- An idle worker finds the pool closed and no job waiting, and leaves. -/
  | leave
  /-- A thread destroys the pool. If it is closed already, the call returns at once. -/
  | destroy
  /-- All workers have left, and the call that closed the pool returns. -/
  | join
  deriving DecidableEq, Repr

/-- A pool with its workers, and with a record of its jobs, each list oldest first. -/
structure Workforce (Job : Type) where
  pool : JobPool Job
  /-- How many workers have left. -/
  left : Nat
  /-- Whether the call that closed the pool has returned. -/
  destroyed : Bool
  accepted : List Job
  refused : List (Job × PoolError)
  started : List Job
  /-- The jobs that ended, and which of them panicked. -/
  ended : List (Job × Bool)

/-- Whether an event is an act of a worker. -/
def PoolEvent.byWorker {Job : Type} : PoolEvent Job → Bool
  | .start | .finish _ _ | .leave => true
  | .submit _ | .destroy | .join => false

/-- The same event with a job that returns where one panicked. -/
def PoolEvent.calm {Job : Type} : PoolEvent Job → PoolEvent Job
  | .finish index _ => .finish index false
  | event => event

namespace Workforce

variable {Job : Type} {team : Workforce Job} {name : String} {size : Nat}

/-- An open pool with all its workers and no jobs. -/
def fresh (name : String) (size : Nat) : Workforce Job :=
  ⟨JobPool.fresh name size, 0, false, [], [], [], []⟩

/-- Whether an idle worker may leave. -/
def mayLeave (team : Workforce Job) : Bool :=
  !team.pool.isOpen && team.pool.queue.isEmpty &&
    decide (team.left + team.pool.running.length < team.pool.size)

/-- Whether the call that closed the pool may return. -/
def mayReturn (team : Workforce Job) : Bool :=
  !team.pool.isOpen && decide (team.left = team.pool.size)

/-- A job is accepted or refused. -/
def submit (team : Workforce Job) (job : Job) : Workforce Job :=
  match team.pool.submit job with
  | .ok pool => { team with pool := pool, accepted := team.accepted ++ [job] }
  | .error failure => { team with refused := team.refused ++ [(job, failure)] }

/-- The oldest job starts, if there is one and a worker for it. -/
def start (team : Workforce Job) : Workforce Job :=
  match team.pool.start? with
  | some pool => { team with pool := pool, started := team.started ++ team.pool.queue.take 1 }
  | none => team

/-- A running job ends, if there is one at the index. -/
def finish (team : Workforce Job) (index : Nat) (panics : Bool) : Workforce Job :=
  match team.pool.finish? index panics with
  | some (job, pool) => { team with pool := pool, ended := team.ended ++ [(job, panics)] }
  | none => team

/-- An idle worker leaves, if it may. -/
def leave (team : Workforce Job) : Workforce Job :=
  if team.mayLeave then { team with left := team.left + 1 } else team

/-- The pool takes no further jobs. -/
def destroy (team : Workforce Job) : Workforce Job := { team with pool := team.pool.close }

/-- The call that closed the pool returns, if it may. -/
def join (team : Workforce Job) : Workforce Job :=
  if team.mayReturn then { team with destroyed := true } else team

/-- One event. -/
def step (team : Workforce Job) : PoolEvent Job → Workforce Job
  | .submit job => team.submit job
  | .start => team.start
  | .finish index panics => team.finish index panics
  | .leave => team.leave
  | .destroy => team.destroy
  | .join => team.join

/-- One event after the other. -/
def run (team : Workforce Job) (events : List (PoolEvent Job)) : Workforce Job :=
  events.foldl step team

/-- An open pool accepts a job, a closed one refuses it. -/
theorem submit_cases (team : Workforce Job) (job : Job) :
    (team.pool.isOpen = true ∧ team.submit job = { team with
      pool := { team.pool with
        queue := team.pool.queue ++ [job], submitted := team.pool.submitted + 1 }
      accepted := team.accepted ++ [job] }) ∨
    (team.pool.isOpen = false ∧ team.submit job =
      { team with refused := team.refused ++ [(job, .shutDown team.pool.name)] }) := by
  cases isOpen : team.pool.isOpen with
  | true =>
    refine .inl ⟨rfl, ?_⟩
    simp only [submit, JobPool.submit, isOpen, ↓reduceIte]
  | false =>
    refine .inr ⟨rfl, ?_⟩
    simp only [submit, JobPool.submit, isOpen, Bool.false_eq_true, ↓reduceIte]

/-- The oldest job starts, unless none waits or no worker is free. -/
theorem start_cases (team : Workforce Job) :
    (∃ job later, team.pool.queue = job :: later ∧ team.pool.running.length < team.pool.size ∧
      team.start = { team with
        pool := { team.pool with queue := later, running := team.pool.running ++ [job] }
        started := team.started ++ [job] }) ∨
    ((team.pool.queue = [] ∨ team.pool.size ≤ team.pool.running.length) ∧ team.start = team) := by
  unfold start
  cases started : team.pool.start? with
  | some pool =>
    obtain ⟨job, later, queue, room, rfl⟩ := JobPool.eq_of_start? started
    refine .inl ⟨job, later, queue, room, ?_⟩
    simp only [queue, List.take_succ_cons, List.take_zero]
  | none =>
    refine .inr ⟨?_, rfl⟩
    unfold JobPool.start? at started
    split at started
    · next queue => exact .inl queue
    · split at started
      · cases started
      · next room => exact .inr (Nat.le_of_not_lt room)

/-- A job ends if it runs. -/
theorem finish_cases (team : Workforce Job) (index : Nat) (panics : Bool) :
    (∃ inside : index < team.pool.running.length, team.finish index panics = { team with
      pool := { team.pool with
        running := team.pool.running.eraseIdx index
        completed := team.pool.completed + 1
        panicked := if panics then team.pool.panicked + 1 else team.pool.panicked }
      ended := team.ended ++ [(team.pool.running[index], panics)] }) ∨
    (team.pool.running.length ≤ index ∧ team.finish index panics = team) := by
  unfold finish
  cases ended : team.pool.finish? index panics with
  | some result =>
    obtain ⟨job, pool⟩ := result
    obtain ⟨found, rfl⟩ := JobPool.eq_of_finish? ended
    obtain ⟨inside, rfl⟩ := List.getElem?_eq_some_iff.mp found
    exact .inl ⟨inside, rfl⟩
  | none =>
    refine .inr ⟨?_, rfl⟩
    unfold JobPool.finish? at ended
    split at ended
    · next absent => exact List.getElem?_eq_none_iff.mp absent
    · cases ended

/-- A worker leaves if the pool is closed, no job waits and it runs none. -/
theorem leave_cases (team : Workforce Job) :
    (team.pool.isOpen = false ∧ team.pool.queue = [] ∧
      team.left + team.pool.running.length < team.pool.size ∧
      team.leave = { team with left := team.left + 1 }) ∨
    ((team.pool.isOpen = true ∨ team.pool.queue ≠ [] ∨
      team.pool.size ≤ team.left + team.pool.running.length) ∧ team.leave = team) := by
  unfold leave
  have may : team.mayLeave = true ↔ team.pool.isOpen = false ∧ team.pool.queue = [] ∧
      team.left + team.pool.running.length < team.pool.size := by
    simp only [mayLeave, Bool.and_eq_true, Bool.not_eq_true', List.isEmpty_iff, decide_eq_true_eq,
      and_assoc]
  by_cases leaves : team.mayLeave = true
  · obtain ⟨closed, nothingWaits, idle⟩ := may.mp leaves
    exact .inl ⟨closed, nothingWaits, idle, if_pos leaves⟩
  · refine .inr ⟨?_, if_neg leaves⟩
    rw [may, not_and_or, not_and_or, Bool.not_eq_false, Nat.not_lt] at leaves
    exact leaves

/-- The call that closed the pool returns if all workers have left. -/
theorem join_cases (team : Workforce Job) :
    (team.pool.isOpen = false ∧ team.left = team.pool.size ∧
      team.join = { team with destroyed := true }) ∨
    ((team.pool.isOpen = true ∨ team.left ≠ team.pool.size) ∧ team.join = team) := by
  unfold join
  have may : team.mayReturn = true ↔ team.pool.isOpen = false ∧ team.left = team.pool.size := by
    simp only [mayReturn, Bool.and_eq_true, Bool.not_eq_true', decide_eq_true_eq]
  by_cases returns : team.mayReturn = true
  · obtain ⟨closed, allLeft⟩ := may.mp returns
    exact .inl ⟨closed, allLeft, if_pos returns⟩
  · refine .inr ⟨?_, if_neg returns⟩
    rw [may, not_and_or, Bool.not_eq_false] at returns
    exact returns

/-- The jobs, workers and counters of a pool agree with the record of its jobs. -/
structure Kept (name : String) (size : Nat) (team : Workforce Job) : Prop where
  named : team.pool.name = name
  sized : team.pool.size = size
  /-- The jobs that started are the first that were accepted. -/
  order : team.accepted = team.started ++ team.pool.queue
  /-- A job that started runs or has ended. -/
  once : team.started.Perm (team.ended.map Prod.fst ++ team.pool.running)
  /-- A single worker ends jobs in the order in which it takes them. -/
  turns : size = 1 → team.started = team.ended.map Prod.fst ++ team.pool.running
  /-- The counters are the numbers in the record, as far as 64 bits can tell. -/
  submitted : team.pool.submitted = UInt64.ofNat team.accepted.length
  completed : team.pool.completed = UInt64.ofNat team.ended.length
  panicked : team.pool.panicked = UInt64.ofNat (team.ended.countP Prod.snd)
  /-- A worker that runs a job has not left. -/
  workers : team.left + team.pool.running.length ≤ size
  /-- No worker leaves while jobs can come. -/
  leaving : team.left ≠ 0 → team.pool.isOpen = false ∧ team.pool.queue = []
  /-- Whoever closed the pool waits for all workers. -/
  returning : team.destroyed = true → team.pool.isOpen = false ∧ team.left = size

/-- As long as the pool is open, no worker has left. -/
theorem Kept.full_of_open (kept : team.Kept name size) (isOpen : team.pool.isOpen = true) :
    team.left = 0 := by
  cases left : team.left with
  | zero => rfl
  | succ others =>
    have closed := (kept.leaving (by rw [left]; exact Nat.succ_ne_zero _)).1
    rw [isOpen] at closed
    cases closed

/-- As long as a job waits, no worker has left. -/
theorem Kept.full_of_waiting (kept : team.Kept name size) {job : Job} {later : List Job}
    (queue : team.pool.queue = job :: later) : team.left = 0 := by
  cases left : team.left with
  | zero => rfl
  | succ others =>
    have empty := (kept.leaving (by rw [left]; exact Nat.succ_ne_zero _)).2
    rw [queue] at empty
    cases empty

/-- A job that is accepted waits behind the others. -/
theorem Kept.submit (kept : team.Kept name size) (job : Job) :
    (team.submit job).Kept name size := by
  obtain ⟨isOpen, taken⟩ | ⟨_, refused⟩ := submit_cases team job
  · have nobodyLeft := kept.full_of_open isOpen
    rw [taken]
    refine { kept with order := ?_, submitted := ?_, leaving := ?_ }
    · simp only [kept.order, List.append_assoc]
    · simp only [List.length_append, List.length_singleton, kept.submitted, UInt64.ofNat_add,
        UInt64.ofNat_one]
    · exact fun some => absurd nobodyLeft some
  · rw [refused]
    exact { kept with }

/-- A job that starts is the oldest that waits, and there is a worker for it. -/
theorem Kept.start (kept : team.Kept name size) : team.start.Kept name size := by
  obtain ⟨job, later, queue, room, started⟩ | ⟨_, same⟩ := start_cases team
  · have nobodyLeft := kept.full_of_waiting queue
    rw [started]
    refine { kept with order := ?_, once := ?_, turns := ?_, workers := ?_, leaving := ?_ }
    · simp only [kept.order, queue, List.append_assoc, List.singleton_append]
    · simp only [← List.append_assoc]
      exact kept.once.append_right [job]
    · intro alone
      simp only [kept.turns alone, List.append_assoc]
    · rw [kept.sized] at room
      simp only [List.length_append, List.length_singleton, nobodyLeft]
      omega
    · exact fun some => absurd nobodyLeft some
  · rw [same]
    exact kept

/-- A job that ends leaves its worker free, whether it returns or panics. -/
theorem Kept.finish (kept : team.Kept name size) (index : Nat) (panics : Bool) :
    (team.finish index panics).Kept name size := by
  obtain ⟨inside, ended⟩ | ⟨_, same⟩ := finish_cases team index panics
  · have workers := kept.workers
    rw [ended]
    refine { kept with once := ?_, turns := ?_, completed := ?_, panicked := ?_, workers := ?_ }
    · simp only [List.map_append, List.map_cons, List.map_nil, List.append_assoc,
        List.singleton_append]
      exact kept.once.trans ((List.getElem_cons_eraseIdx_perm inside).symm.append_left _)
    · intro alone
      -- A single worker runs one job at most, so the job that ends is the only one.
      have one : team.pool.running.length = 1 := by omega
      obtain ⟨job, running⟩ := List.length_eq_one_iff.mp one
      have first : index = 0 := by omega
      simp only [kept.turns alone, running, first, List.map_append, List.map_cons, List.map_nil,
        List.getElem_cons_zero, List.eraseIdx_cons_zero, List.append_nil]
    · simp only [List.length_append, List.length_singleton, kept.completed, UInt64.ofNat_add,
        UInt64.ofNat_one]
    · rw [List.countP_append, List.countP_singleton, UInt64.ofNat_add, ← kept.panicked]
      cases panics with
      | true => rfl
      | false => exact (UInt64.add_zero _).symm
    · simp only [List.length_eraseIdx_of_lt inside]
      omega
  · rw [same]
    exact kept

/-- A worker that leaves was idle. -/
theorem Kept.leave (kept : team.Kept name size) : team.leave.Kept name size := by
  obtain ⟨closed, nothingWaits, idle, left⟩ | ⟨_, same⟩ := leave_cases team
  · rw [kept.sized] at idle
    rw [left]
    refine { kept with workers := ?_, leaving := ?_, returning := ?_ }
    · change team.left + 1 + team.pool.running.length ≤ size
      omega
    · exact fun _ => ⟨closed, nothingWaits⟩
    · intro destroyed
      have allLeft := (kept.returning destroyed).2
      omega
  · rw [same]
    exact kept

/-- A call that destroys the pool takes no job from it. -/
theorem Kept.destroy (kept : team.Kept name size) : team.destroy.Kept name size :=
  { kept with
    leaving := fun some => ⟨rfl, (kept.leaving some).2⟩
    returning := fun destroyed => ⟨rfl, (kept.returning destroyed).2⟩ }

/-- A call that returns found all workers gone. -/
theorem Kept.join (kept : team.Kept name size) : team.join.Kept name size := by
  obtain ⟨closed, allLeft, returned⟩ | ⟨_, same⟩ := join_cases team
  · rw [returned]
    exact { kept with returning := fun _ => ⟨closed, allLeft.trans kept.sized⟩ }
  · rw [same]
    exact kept

/-- Every event keeps the record right. -/
theorem Kept.step (kept : team.Kept name size) (event : PoolEvent Job) :
    (team.step event).Kept name size := by
  cases event with
  | submit job => exact kept.submit job
  | start => exact kept.start
  | finish index panics => exact kept.finish index panics
  | leave => exact kept.leave
  | destroy => exact kept.destroy
  | join => exact kept.join

/-- Every run keeps the record right. -/
theorem Kept.run (kept : team.Kept name size) (events : List (PoolEvent Job)) :
    (team.run events).Kept name size := by
  induction events generalizing team with
  | nil => exact kept
  | cons event later inductionHypothesis => exact inductionHypothesis (kept.step event)

/-- Every job that was accepted waits, runs or has ended. -/
theorem Kept.conserved (kept : team.Kept name size) :
    team.accepted.length =
      team.pool.queue.length + team.pool.running.length + team.ended.length := by
  have order := congrArg List.length kept.order
  have once := kept.once.length_eq
  rw [List.length_append] at order
  rw [List.length_append, List.length_map] at once
  omega

/-- The counters cannot be told from the numbers in the record before one of them starts again. -/
theorem Kept.counted (kept : team.Kept name size)
    (few : team.accepted.length < UInt64.size) :
    team.pool.submitted.toNat = team.accepted.length ∧
      team.pool.completed.toNat = team.ended.length ∧
      team.pool.panicked.toNat = team.ended.countP Prod.snd := by
  have conserved := kept.conserved
  have panics : team.ended.countP Prod.snd ≤ team.ended.length := List.countP_le_length
  rw [kept.submitted, kept.completed, kept.panicked]
  exact ⟨UInt64.toNat_ofNat_of_lt' few, UInt64.toNat_ofNat_of_lt' (by omega),
    UInt64.toNat_ofNat_of_lt' (by omega)⟩

/-- A report tells all numbers as long as the pool is open, and again when no job waits. -/
theorem Kept.report (kept : team.Kept name size)
    (readable : team.pool.isOpen = true ∨ team.pool.queue = []) :
    team.pool.usage = ⟨size, team.pool.submitted, team.pool.completed, team.pool.panicked,
      team.pool.running.length, team.pool.queue.length⟩ := by
  unfold JobPool.usage
  rw [kept.sized]
  cases readable with
  | inl isOpen => rw [if_pos isOpen]
  | inr nothingWaits => simp only [nothingWaits, List.length_nil, ite_self]

/-- The same workforce if its jobs had returned where they panicked. -/
def calm (team : Workforce Job) : Workforce Job :=
  { team with
    pool := { team.pool with panicked := 0 }
    ended := team.ended.map fun job => (job.1, false) }

/-- What is left for the workers to do: two acts for each job that waits, one for each that runs,
and the leaving of each worker. -/
def work (team : Workforce Job) : Nat :=
  2 * team.pool.queue.length + team.pool.running.length + (team.pool.size - team.left)

/-- Where no worker can act, all jobs have ended, and if the pool is closed, the call that closed it
returns. -/
theorem Kept.rests (kept : team.Kept name size) (some : 0 < size)
    (rests : ∀ event : PoolEvent Job, event.byWorker = true → team.step event = team) :
    team.pool.queue = [] ∧ team.pool.running = [] ∧
      (team.pool.isOpen = false → team.join.destroyed = true) := by
  have nothingRuns : team.pool.running = [] := by
    obtain ⟨inside, ended⟩ | ⟨none, _⟩ := finish_cases team 0 false
    · have same := ended.symm.trans (rests (.finish 0 false) rfl)
      have more := congrArg (fun after => after.ended.length) same
      simp only [List.length_append, List.length_singleton] at more
      omega
    · exact List.eq_nil_of_length_eq_zero (Nat.le_zero.mp none)
  have nothingWaits : team.pool.queue = [] := by
    obtain ⟨job, later, _, _, started⟩ | ⟨empty | full, _⟩ := start_cases team
    · have same := started.symm.trans (rests .start rfl)
      have more := congrArg (fun after => after.started.length) same
      simp only [List.length_append, List.length_singleton] at more
      omega
    · exact empty
    · rw [nothingRuns, kept.sized, List.length_nil] at full
      omega
  refine ⟨nothingWaits, nothingRuns, ?_⟩
  intro closed
  have allLeft : team.left = team.pool.size := by
    have workers := kept.workers
    rw [nothingRuns, List.length_nil, ← kept.sized] at workers
    obtain ⟨_, _, _, left⟩ | ⟨isOpen | waits | gone, _⟩ := leave_cases team
    · have more := congrArg Workforce.left (left.symm.trans (rests .leave rfl))
      simp only at more
      omega
    · rw [closed] at isOpen
      cases isOpen
    · exact absurd nothingWaits waits
    · rw [nothingRuns, List.length_nil] at gone
      omega
  obtain ⟨_, _, returned⟩ | ⟨isOpen | some, _⟩ := join_cases team
  · rw [returned]
  · rw [closed] at isOpen
    cases isOpen
  · exact absurd allLeft some

end Workforce

end KeyValueServer
