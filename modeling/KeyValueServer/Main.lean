import KeyValueServer.CommandLine
import KeyValueServer.Server.Service
import Std.Async.TCP
import Std.Async.Signal

/-!
# The program

The server on real sockets. Each client has a loop that hands what it sends to the server and what
the server answers to the client; the server itself is a value that these loops share, and one
step of a client is one change of that value.
-/

namespace KeyValueServer

open Std.Async Std.Net

/-- The address as the network takes it. -/
def Address.toSocketAddress (address : Address) : SocketAddress :=
  match address.ip with
  | .v4 a b c d => .v4 ⟨.ofParts a b c d, address.port⟩
  | .v6 groups => .v6 ⟨⟨groups⟩, address.port⟩

/-- The address that the network reports. -/
def Address.ofSocketAddress : SocketAddress → Address
  | .v4 ⟨⟨octets⟩, port⟩ => ⟨.v4 octets[0] octets[1] octets[2] octets[3], port, 0⟩
  | .v6 ⟨⟨groups⟩, port⟩ => ⟨.v6 groups, port, 0⟩

/-- A failure that the network reports: negative codes are numbers of the operating system. -/
def Failure.ofReport : IO.Error → Failure
  | .unsupportedOperation code detail | .invalidArgument none code detail
  | .permissionDenied none code detail | .resourceBusy code detail | .otherError code detail =>
    let number := (0 - code).toNat
    match SystemError.ofCode? number with
    | some error => error.failure
    | none => ⟨.other, detail ++ " (os error " ++ toString number ++ ")"⟩
  | report => ⟨.other, toString report⟩

namespace Program

/-- Writes a log line that says something, if the log takes it. -/
def log (settings : CommandLine.Settings) (look : String → Option String)
    (line : LogFilter.Line) (text : String) : IO Unit := do
  if CommandLine.logs settings look line then
    let name := (LogFilter.levels.find? (·.2 = line.level)).map (·.1.toUpper)
    IO.println (name.getD "" ++ " " ++ line.source ++ ": " ++ text)

/-- Serves one client until it or the server ends the connection. -/
def converse (service : IO.Ref Service) (client : Nat) (socket : TCP.Socket.Client) :
    Async Unit := do
  try
    repeat
      let some content ← socket.recv? 65536 | break
      let some answer ← service.modifyGet (·.send client content.toList) | break
      unless answer.reply.isEmpty do
        socket.send ⟨answer.reply.toArray⟩
      if answer.closed then break
  finally
    service.modify (·.close client)

/-- Accepts the next connection. -/
def acceptNext (service : IO.Ref Service) (listener : TCP.Socket.Server) (client : Nat) :
    Async Unit := do
  let socket ← listener.accept
  let peer := Address.ofSocketAddress (← socket.getPeerName)
  let turnedAway ← service.modifyGet (·.connect client peer)
  unless turnedAway do
    background (converse service client socket)

/-- Accepts connections. One that cannot be accepted does not keep the next from being so. -/
def accept (service : IO.Ref Service) (listener : TCP.Socket.Server) : Async Unit := do
  let mut client := 0
  repeat
    try acceptNext service listener client
    catch _ => pure ()
    client := client + 1

/-- Serves until the user interrupts the program. -/
def serve (settings : CommandLine.Settings) (look : String → Option String) (server : Server)
    (listener : TCP.Socket.Server) : IO UInt32 := do
  let service ← IO.mkRef (Service.create server)
  let address := Address.ofSocketAddress (← listener.getSockName)
  log settings look CommandLine.LogLine.registering "registering a socket"
  for pool in [server.readPool, server.processPool, server.writePool] do
    log settings look CommandLine.LogLine.poolStarted (pool.name ++ " pool started")
  log settings look CommandLine.LogLine.polling "Multiplexer started"
  log settings look CommandLine.LogLine.started "Server started"
  log settings look CommandLine.LogLine.accepting "Accept loop started"
  IO.print (CommandLine.banner settings address.display)
  (← IO.getStdout).flush
  let interrupt ← Signal.Waiter.mk .sigint false
  let interrupted ← interrupt.wait
  let accepting ← (accept service listener).asTask
  discard interrupted.block
  IO.cancel accepting
  log settings look CommandLine.LogLine.interrupted "Shutdown signal received, stopping server..."
  log settings look CommandLine.LogLine.stopping "Shutting down server"
  service.modify Service.shutdown
  log settings look CommandLine.LogLine.accepting "Accept loop stopped"
  log settings look CommandLine.LogLine.polled "Multiplexer stopped"
  for pool in [server.readPool, server.processPool, server.writePool] do
    log settings look CommandLine.LogLine.workerStopped (pool.name ++ " worker exiting")
    log settings look CommandLine.LogLine.poolStopped (pool.name ++ " pool destroyed")
  log settings look CommandLine.LogLine.stopped "Server shutdown complete"
  log settings look CommandLine.LogLine.summary "Server shutdown complete"
  return 0

/-- Prints the report on a program that has ended. -/
def finish (report : CommandLine.Report) : IO UInt32 := do
  IO.print report.stdout
  IO.eprint report.stderr
  return report.code.toUInt32

/-- Opens the port of a server, if the machine has its address and the port is free. -/
def listen (address : Address) : IO (Except StartError TCP.Socket.Server) := do
  try
    let listener ← TCP.Socket.Server.mk
    listener.bind address.toSocketAddress
    listener.listen 128
    return .ok listener
  catch report => return .error (.bind address (Failure.ofReport report))

/-- Runs the server that the command line and the environment ask for. -/
def run (arguments : List String) : IO UInt32 := do
  let names := ["RUST_LOG", "NO_COLOR", "CLICOLOR_FORCE"] ++
    CommandLine.Setting.all.map (·.envName)
  let environment ← names.mapM fun name => return (name, ← IO.getEnv name)
  let look := fun name => (environment.lookup name).join
  match CommandLine.outcome .anywhere arguments look with
  | .exit report => finish report
  | .serve settings server =>
    match ← listen settings.config.address with
    | .error error => finish (CommandLine.startFailure settings look error)
    | .ok listener =>
      IO.eprint (CommandLine.filterComplaints settings look)
      serve settings look server listener

end Program

end KeyValueServer

/-- The program. -/
def main (arguments : List String) : IO UInt32 := KeyValueServer.Program.run arguments
