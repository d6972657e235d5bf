import KeyValueServer.StartError

/-!
# Configuration

The address and the sizes a server is started with. Every size is a 64-bit number and has to be
positive.
-/

namespace KeyValueServer

/-- The settings of a server. -/
structure Config where
  address : Address
  shardCount : UInt64
  readWorkers : UInt64
  processWorkers : UInt64
  writeWorkers : UInt64
  /-- The largest number of open connections. -/
  maxConnections : UInt64
  readBufferSize : UInt64
  /-- The most unread input that a connection may accumulate without completing a request. -/
  maxRequestSize : UInt64
  /-- How many reports of ready connections there has to be room for. -/
  maxEvents : UInt64
  deriving DecidableEq, Repr

namespace Config

/-- The port of a server whose user does not choose one. -/
def defaultPort : UInt16 := 6379

/-- The host of a server whose user does not choose one. -/
def defaultHost : String := "127.0.0.1"

/-- The number of workers of each pool unless chosen otherwise. -/
def defaultWorkers : UInt64 := 8

/-- The number of shards unless chosen otherwise. -/
def defaultShards : UInt64 := 10

/-- The largest number of open connections unless chosen otherwise. -/
def defaultConnections : UInt64 := 1024

/-- The settings of a server whose user chooses nothing. -/
def standard : Config where
  address := Address.loopback defaultPort
  shardCount := defaultShards
  readWorkers := defaultWorkers
  processWorkers := defaultWorkers
  writeWorkers := defaultWorkers
  maxConnections := defaultConnections
  readBufferSize := 4 * 1024
  maxRequestSize := 64 * 1024
  maxEvents := 1024

/-- The sizes, each with its name, in the order in which they are checked. -/
def sizes (config : Config) : List (String × UInt64) :=
  [("shard_count", config.shardCount), ("read_workers", config.readWorkers),
    ("process_workers", config.processWorkers), ("write_workers", config.writeWorkers),
    ("max_connections", config.maxConnections), ("read_buffer_size", config.readBufferSize),
    ("max_request_size", config.maxRequestSize), ("max_events", config.maxEvents)]

/-- Checks that every size is positive, and names the first that is not. -/
def validate (config : Config) : Except StartError Unit :=
  match config.sizes.find? (·.2 = 0) with
  | some (name, _) => .error (.configuration (name ++ " must be positive"))
  | none => .ok ()

/-- Gives every pool the same number of workers. -/
def withWorkers (config : Config) (workers : UInt64) : Config :=
  { config with readWorkers := workers, processWorkers := workers, writeWorkers := workers }

/-- Changes the setting with a given name. -/
def setting? (config : Config) (name : String) (value : UInt64) : Option Config :=
  match name with
  | "shard_count" => some { config with shardCount := value }
  | "workers" => some (config.withWorkers value)
  | "read_workers" => some { config with readWorkers := value }
  | "process_workers" => some { config with processWorkers := value }
  | "write_workers" => some { config with writeWorkers := value }
  | "max_connections" => some { config with maxConnections := value }
  | "read_buffer_size" => some { config with readBufferSize := value }
  | "max_request_size" => some { config with maxRequestSize := value }
  | "max_events" => some { config with maxEvents := value }
  | _ => none

/-- A configuration is accepted exactly when all its sizes are positive. -/
theorem validate_eq_ok_iff (config : Config) :
    config.validate = .ok () ↔ ∀ size ∈ config.sizes, size.2 ≠ 0 := by
  unfold validate
  split
  case h_1 name value found =>
    have zero := List.find?_some found
    have member := List.mem_of_find?_eq_some found
    simp only [reduceCtorEq, false_iff]
    exact fun positive => positive _ member (by simpa using zero)
  case h_2 missing =>
    simpa using missing

end Config

end KeyValueServer
