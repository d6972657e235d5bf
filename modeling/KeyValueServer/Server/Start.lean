import KeyValueServer.Network.Host
import KeyValueServer.Server.Event

/-!
# Starting a server

A server starts when its configuration is accepted and its address is free. It starts without
connections and with the loop running that accepts them. The loop that owns the readiness set runs
when it has made room for the reports of the set.
-/

namespace KeyValueServer.Server

/-- The places of the two loops among those that the shutdown signal wakes. -/
def pollLoop : Nat := 0
def acceptLoop : Nat := 1

/-- A server that was just started; `polling` says whether the loop runs that owns the readiness
set. -/
def fresh (config : Config) (store : Store) (read process write : JobPool Session)
    (polling : Bool) : Server where
  config := config
  registries := .empty
  traffic := .zero
  store := store
  readPool := read
  processPool := process
  writePool := write
  control := []
  parked := .empty
  sockets := .empty
  nextId := 1
  signal := (ShutdownSignal.initial.register pollLoop).register acceptLoop
  accepting := true
  polling := polling
  stopped := false

/-- Makes a pool of a server. -/
def startPool (host : Host) (name : String) (size : UInt64) :
    Except (Obstacle StartError) (JobPool Session) :=
  (JobPool.create name size.toNat host.mostWorkers).mapError fun obstacle =>
    match obstacle with
    | .refused error => .refused (.pool error)
    | .fault fault => .fault fault

/-- Whether the loop that owns the readiness set runs. It begins by making room for reports, and
ends with a fault when there can be none. -/
def mayPoll (host : Host) (config : Config) : Bool :=
  (Fault.checkRoom config.maxEvents.toNat host.reportWidth).isOk

/-- Starts a server with a configuration that was accepted and an address that is its own. -/
def startPools (host : Host) (config : Config) : Except (Obstacle StartError) Server := do
  let store ← (Store.create config.shardCount.toNat).mapError .fault
  let read ← startPool host "read" config.readWorkers
  let process ← startPool host "process" config.processWorkers
  let write ← startPool host "write" config.writeWorkers
  return fresh config store read process write (mayPoll host config)

/-- Starts a server on a host; `taken` says whether its address is in use already. -/
def launch (host : Host) (config : Config) (taken : Bool) :
    Except (Obstacle StartError) Server := do
  config.validate.mapError .refused
  (host.bind config.address taken).mapError fun error =>
    .refused (.bind config.address error.failure)
  startPools host config

end KeyValueServer.Server
