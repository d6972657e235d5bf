import KeyValueServer.Server.Start

/-!
# The state in which a server starts

Starting a server can fail at each of its steps. When it succeeds, the configuration was accepted,
and the server has three open pools without jobs, an empty store and no connections.
-/

namespace KeyValueServer.Server

/-- An answer that depends on another one was given only if the other one was. -/
theorem exists_of_bind_eq_ok {Cause First Second : Type} {answer : Except Cause First}
    {followUp : First → Except Cause Second} {value : Second}
    (done : (answer >>= followUp) = .ok value) :
    ∃ first, answer = .ok first ∧ followUp first = .ok value := by
  cases answer with
  | error cause => cases done
  | ok first => exact ⟨first, rfl, done⟩

/-- An answer whose refusals were reworded is the answer. -/
theorem eq_ok_of_mapError {Cause Reworded First : Type} {answer : Except Cause First}
    {reword : Cause → Reworded} {value : First} (done : answer.mapError reword = .ok value) :
    answer = .ok value := by
  cases answer with
  | error cause => cases done
  | ok first => exact congrArg Except.ok (Except.ok.inj done)

/-- A pool that was made is open and has no jobs. -/
theorem eq_fresh_of_create {Job : Type} {name : String} {size most : Nat} {pool : JobPool Job}
    (created : JobPool.create name size most = .ok pool) : pool = JobPool.fresh name size := by
  unfold JobPool.create at created
  split at created
  · cases created
  · split at created
    · cases created
    · split at created
      · cases created
      · split at created
        · cases created
        · exact (Except.ok.inj created).symm

/-- A server that was started has an accepted configuration, an empty store with its shards, and
nothing to do yet. -/
theorem eq_fresh_of_launch {host : Host} {config : Config} {taken : Bool} {server : Server}
    (launched : launch host config taken = .ok server) :
    config.validate = .ok () ∧ ∃ store, Store.create config.shardCount.toNat = .ok store ∧
      server = fresh config store (JobPool.fresh "read" config.readWorkers.toNat)
        (JobPool.fresh "process" config.processWorkers.toNat)
        (JobPool.fresh "write" config.writeWorkers.toNat) (mayPoll host config) := by
  obtain ⟨_, accepted, launched⟩ := exists_of_bind_eq_ok launched
  obtain ⟨_, _, launched⟩ := exists_of_bind_eq_ok launched
  obtain ⟨store, stored, launched⟩ := exists_of_bind_eq_ok launched
  obtain ⟨read, readMade, launched⟩ := exists_of_bind_eq_ok launched
  obtain ⟨process, processMade, launched⟩ := exists_of_bind_eq_ok launched
  obtain ⟨write, writeMade, launched⟩ := exists_of_bind_eq_ok launched
  refine ⟨eq_ok_of_mapError accepted, store, eq_ok_of_mapError stored, ?_⟩
  rw [← eq_fresh_of_create (eq_ok_of_mapError readMade),
    ← eq_fresh_of_create (eq_ok_of_mapError processMade),
    ← eq_fresh_of_create (eq_ok_of_mapError writeMade)]
  exact (Except.ok.inj launched).symm

/-- An accepted configuration has only positive sizes. -/
theorem positive_of_validate {config : Config} (valid : config.validate = .ok ())
    (size : String × UInt64) (member : size ∈ config.sizes) : 0 < size.2.toNat := by
  have nonzero := (Config.validate_eq_ok_iff config).mp valid size member
  refine Nat.pos_of_ne_zero fun zero => nonzero ?_
  exact UInt64.toNat_inj.mp zero

/-- A server that was started has the configuration that it was started with. -/
theorem config_of_launch {host : Host} {config : Config} {taken : Bool} {server : Server}
    (launched : launch host config taken = .ok server) : server.config = config := by
  obtain ⟨_, _, _, rfl⟩ := eq_fresh_of_launch launched
  rfl

/-- A server that was started accepts requests of at least one byte. -/
theorem positive_of_launch {host : Host} {config : Config} {taken : Bool} {server : Server}
    (launched : launch host config taken = .ok server) : 0 < config.maxRequestSize.toNat :=
  positive_of_validate (eq_fresh_of_launch launched).1
    ("max_request_size", config.maxRequestSize) (by simp [Config.sizes])

/-- Every pool of a server that was started has workers. -/
theorem staffed_of_launch {host : Host} {config : Config} {taken : Bool} {server : Server}
    (launched : launch host config taken = .ok server) (stage : Stage) :
    0 < (server.pool stage).size := by
  obtain ⟨valid, store, _, rfl⟩ := eq_fresh_of_launch launched
  have positive := positive_of_validate valid
  cases stage with
  | readRegistered => exact positive ("read_workers", config.readWorkers) (by simp [Config.sizes])
  | processing =>
    exact positive ("process_workers", config.processWorkers) (by simp [Config.sizes])
  | writePending => exact positive ("write_workers", config.writeWorkers) (by simp [Config.sizes])

end KeyValueServer.Server
