import Mathlib.Logic.Relation
import KeyValueServer.JobPool

/-!
# The jobs of a pool

A pool moves when a job is submitted, when a worker starts with one, and when a job ends. Whatever
the order of its moves, every job that was submitted waits, runs or has ended, and no more jobs run
than there are workers. A pool without jobs has then completed all that were submitted to it.
-/

namespace KeyValueServer.JobPool

variable {Job : Type} {pool next : JobPool Job}

/-- One move of a pool that is in use. -/
inductive Move (pool next : JobPool Job) : Prop
  | submits (job : Job) (taken : pool.submit job = .ok next)
  | starts (started : pool.start? = some next)
  | finishes (index : Nat) (panics : Bool) (job : Job)
      (ended : pool.finish? index panics = some (job, next))

/-- Any number of moves of a pool. -/
def Moves : JobPool Job → JobPool Job → Prop := Relation.ReflTransGen Move

/-- The jobs of a pool are accounted for. -/
structure Sound (pool : JobPool Job) : Prop where
  /-- A job that was submitted waits, runs or has ended, as far as 64 bits can tell. -/
  jobs : pool.submitted =
    pool.completed + UInt64.ofNat pool.running.length + UInt64.ofNat pool.queue.length
  /-- No worker runs two jobs. -/
  workers : pool.running.length ≤ pool.size

/-- A pool that takes a job has one more that waits. -/
theorem eq_of_submit {job : Job} (taken : pool.submit job = .ok next) :
    pool.isOpen = true ∧
      next = { pool with queue := pool.queue ++ [job], submitted := pool.submitted + 1 } := by
  unfold submit at taken
  split at taken
  · next isOpen => exact ⟨isOpen, (Except.ok.inj taken).symm⟩
  · cases taken

/-- A worker that starts takes the oldest job that waits. -/
theorem eq_of_start? (started : pool.start? = some next) :
    ∃ job jobs, pool.queue = job :: jobs ∧ pool.running.length < pool.size ∧
      next = { pool with queue := jobs, running := pool.running ++ [job] } := by
  unfold start? at started
  split at started
  · cases started
  · next job jobs queue =>
    split at started
    · next room => exact ⟨job, jobs, queue, room, (Option.some.inj started).symm⟩
    · cases started

/-- A job that ends is one that ran. -/
theorem eq_of_finish? {index : Nat} {panics : Bool} {job : Job}
    (ended : pool.finish? index panics = some (job, next)) :
    pool.running[index]? = some job ∧
      next = { pool with
        running := pool.running.eraseIdx index
        completed := pool.completed + 1
        panicked := if panics then pool.panicked + 1 else pool.panicked } := by
  unfold finish? at ended
  split at ended
  · cases ended
  · next found =>
    obtain ⟨rfl, rfl⟩ := Prod.mk.inj (Option.some.inj ended)
    exact ⟨found, rfl⟩

/-- A pool that is in use keeps its workers, and neither opens nor closes. -/
theorem Moves.frame (moves : Moves pool next) :
    next.name = pool.name ∧ next.size = pool.size ∧ next.isOpen = pool.isOpen := by
  induction moves with
  | refl => exact ⟨rfl, rfl, rfl⟩
  | tail _ move inductionHypothesis =>
    cases move with
    | submits job taken =>
      obtain ⟨_, rfl⟩ := eq_of_submit taken
      exact inductionHypothesis
    | starts started =>
      obtain ⟨_, _, _, _, rfl⟩ := eq_of_start? started
      exact inductionHypothesis
    | finishes index panics job ended =>
      obtain ⟨_, rfl⟩ := eq_of_finish? ended
      exact inductionHypothesis

/-- A pool without jobs is sound. -/
theorem sound_fresh (name : String) (size : Nat) : (fresh name size : JobPool Job).Sound :=
  ⟨rfl, Nat.zero_le _⟩

/-- A pool that closes keeps its jobs. -/
theorem Sound.close (sound : pool.Sound) : pool.close.Sound :=
  ⟨sound.jobs, sound.workers⟩

/-- A move loses no job. -/
theorem Sound.move (sound : pool.Sound) (move : Move pool next) : next.Sound := by
  have jobs := sound.jobs
  have workers := sound.workers
  cases move with
  | submits job taken =>
    obtain ⟨_, rfl⟩ := eq_of_submit taken
    constructor
    · simp only [List.length_append, List.length_singleton, UInt64.ofNat_add, jobs]
      exact UInt64.add_assoc _ _ _
    · exact workers
  | starts started =>
    obtain ⟨job, later, queue, room, rfl⟩ := eq_of_start? started
    rw [queue] at jobs
    constructor
    · simp only [List.length_append, List.length_cons, List.length_nil, UInt64.ofNat_add] at jobs ⊢
      rw [jobs]
      ac_rfl
    · simp only [List.length_append, List.length_singleton]
      omega
  | finishes index panics job ended =>
    obtain ⟨found, rfl⟩ := eq_of_finish? ended
    obtain ⟨inside, _⟩ := List.getElem?_eq_some_iff.mp found
    have fewer : (pool.running.eraseIdx index).length + 1 = pool.running.length := by
      rw [List.length_eraseIdx_of_lt inside]
      omega
    rw [← fewer] at jobs workers
    constructor
    · rw [UInt64.ofNat_add, UInt64.ofNat_one] at jobs
      simp only [jobs]
      ac_rfl
    · exact Nat.le_of_succ_le workers

/-- No number of moves loses a job. -/
theorem Sound.moves (sound : pool.Sound) (moves : Moves pool next) : next.Sound := by
  induction moves with
  | refl => exact sound
  | tail _ move inductionHypothesis => exact inductionHypothesis.move move

end KeyValueServer.JobPool
