import KeyValueServer.Fault
import KeyValueServer.Network.Failure
import KeyValueServer.Text.Quoted
import KeyValueServer.Text.Utf8

/-!
# Job pools

A pool is a queue of jobs and a fixed number of workers. A worker that has nothing to do takes the
oldest job of the queue; a job that it runs ends in one of two ways, by returning or by a panic,
and the worker goes on either way. A closed pool takes no new jobs and finishes those it has.

The operations are the single steps of a pool. Which step comes next, and how a job ends, is for
the user of this module to say, so that every order of steps can be considered.
-/

namespace KeyValueServer

/-- Why a pool was not made or a job not taken. -/
inductive PoolError where
  | shutDown (name : String)
  | noWorkers (name : String)
  | spawn (name : String) (failure : Failure)
  deriving DecidableEq, Repr

/-- The wording of a pool error. -/
def PoolError.message : PoolError → String
  | .shutDown name => "pool '" ++ name ++ "' is shut down"
  | .noWorkers name => "pool '" ++ name ++ "' needs at least one worker"
  | .spawn name failure => "failed to spawn worker for pool '" ++ name ++ "': " ++ failure.text

/-- A pool with its waiting jobs, oldest first, and the jobs its workers are running. The counters
of the jobs that were submitted, that ended and that panicked start again behind 64 bits. -/
structure JobPool (Job : Type) where
  name : String
  size : Nat
  isOpen : Bool
  queue : List Job
  running : List Job
  submitted : UInt64
  completed : UInt64
  panicked : UInt64
  deriving Repr

namespace JobPool

variable {Job : Type}

/-- How many bytes a pool keeps for each of its workers. -/
def workerWidth : Nat := 24

/-- The name of a worker's thread. -/
def workerName (name : String) (index : Nat) : String :=
  "pipekv-" ++ name ++ "-" ++ toString index

/-- An open pool without jobs. -/
def fresh (name : String) (size : Nat) : JobPool Job := ⟨name, size, true, [], [], 0, 0, 0⟩

/-- Makes a pool, if it can have the workers. The machine lets it have `most` of them. -/
def create (name : String) (size most : Nat) : Except (Obstacle PoolError) (JobPool Job) :=
  if size = 0 then .error (.refused (.noWorkers name))
  else
    match Fault.checkRoom size workerWidth with
    | .error fault => .error (.fault fault)
    | .ok _ =>
      match Fault.checkThreadName (Utf8.encode (workerName name 0)) with
      | .error fault => .error (.fault fault)
      | .ok _ =>
        if most < size then
          .error (.refused (.spawn name SystemError.noResources.failure))
        else .ok (fresh name size)

/-- Hands a job to the pool. -/
def submit (pool : JobPool Job) (job : Job) : Except PoolError (JobPool Job) :=
  if pool.isOpen then
    .ok { pool with queue := pool.queue ++ [job], submitted := pool.submitted + 1 }
  else .error (.shutDown pool.name)

/-- An idle worker takes the oldest job. -/
def start? (pool : JobPool Job) : Option (JobPool Job) :=
  match pool.queue with
  | [] => none
  | job :: jobs =>
    if pool.running.length < pool.size then
      some { pool with queue := jobs, running := pool.running ++ [job] }
    else none

/-- A running job ends. -/
def finish? (pool : JobPool Job) (index : Nat) (panicked : Bool) : Option (Job × JobPool Job) :=
  match pool.running[index]? with
  | none => none
  | some job =>
    some (job, { pool with
      running := pool.running.eraseIdx index
      completed := pool.completed + 1
      panicked := if panicked then pool.panicked + 1 else pool.panicked })

/-- Takes no further jobs. -/
def close (pool : JobPool Job) : JobPool Job := { pool with isOpen := false }

/-- Whether every job that was submitted has ended. -/
def isIdle (pool : JobPool Job) : Bool := pool.queue.isEmpty && pool.running.isEmpty

/-- What a pool reports about itself. -/
structure Usage where
  workers : Nat
  submitted : UInt64
  completed : UInt64
  panicked : UInt64
  active : Nat
  queued : Nat
  deriving DecidableEq, Repr

/-- The current report. A closed pool reports no queue. -/
def usage (pool : JobPool Job) : Usage :=
  ⟨pool.size, pool.submitted, pool.completed, pool.panicked, pool.running.length,
    if pool.isOpen then pool.queue.length else 0⟩

/-- The pool in reports on the server's own state. -/
def describe (pool : JobPool Job) : String :=
  "JobPool \x7b name: " ++ Quoted.quote pool.name ++ ", size: " ++ toString pool.size ++
    ", open: " ++ toString pool.isOpen ++ " \x7d"

end JobPool

end KeyValueServer
