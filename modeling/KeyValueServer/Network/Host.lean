import KeyValueServer.Network.Address
import KeyValueServer.Network.Failure

/-!
# Hosts

What a machine offers to servers and clients that run on it: the addresses it lets a server bind
to, whether a client that connects to one of them gets through, how many workers a pool may have,
and how much room a report of the readiness set takes.
-/

namespace KeyValueServer

/-- What a machine offers. -/
structure Host where
  /-- The error with which binding to an address fails, if it does. -/
  refusal : Address → Option SystemError
  /-- Whether clients on the machine reach the servers on it. -/
  reachable : Bool
  /-- The most workers that a pool may have. -/
  mostWorkers : Nat
  /-- How many bytes the report of a ready connection takes. -/
  reportWidth : Nat

namespace Host

/-- The most workers that a pool may have unless the machine was told otherwise: a process has
65530 areas of memory, and a thread takes two of them. -/
def usualWorkers : Nat := 32765

/-- How many bytes a report takes where its token is packed behind its kind: 4 and 8. -/
def usualReport : Nat := 12

/-- A server asks for an address; `taken` says whether another one has it already. -/
def bind (host : Host) (address : Address) (taken : Bool) : Except SystemError Unit :=
  if taken then .error .addressInUse
  else
    match host.refusal address with
    | some error => .error error
    | none => .ok ()

/-- A client asks for a connection to a server that is running. -/
def connect (host : Host) : Except SystemError Unit :=
  if host.reachable then .ok () else .error .networkUnreachable

/-- A machine that has every address. -/
def anywhere : Host := ⟨fun _ => none, true, usualWorkers, usualReport⟩

/-- The number of the loopback interface, which every machine has, be it up or not. -/
def loopbackInterface : UInt32 := 1

/-- Why a machine without any interface that is up refuses an address of version 6. The unspecified
address and those that embed one of version 4 can be bound to. A multicast address is no valid
argument. A link-local one is valid on the interface that it names only: it has to name one, the
machine has to have it, and then the interface still lacks the address. -/
def isolatedRefusal6 (groups : List UInt16) (scope : UInt32) : Option SystemError :=
  match groups with
  | [0, 0, 0, 0, 0, 0, 0, 0] => none
  | 0 :: 0 :: 0 :: 0 :: 0 :: 0xffff :: _ => none
  | first :: _ =>
    if first &&& 0xff00 = 0xff00 then some .invalidArgument
    else if first &&& 0xffc0 = 0xfe80 then
      if scope = 0 then some .invalidArgument
      else if scope = loopbackInterface then some .addressNotAvailable
      else some .noSuchDevice
    else some .addressNotAvailable
  | [] => some .addressNotAvailable

/-- Why a machine without any interface that is up refuses an address. As no address of version 4
is known to it, none is known to be foreign, and a server may bind to each. -/
def isolatedRefusal (address : Address) : Option SystemError :=
  match address.ip with
  | .v4 _ _ _ _ => none
  | .v6 groups => isolatedRefusal6 groups.toList address.scope

/-- A machine without any interface that is up: clients on it do not reach the servers on it. -/
def isolated : Host := ⟨isolatedRefusal, false, usualWorkers, usualReport⟩

/-- The same machine with its loopback interface up. -/
def loopback : Host where
  refusal address :=
    match address.ip with
    | .v4 a _ _ _ => if a = 127 || a = 0 then none else some .addressNotAvailable
    | .v6 groups =>
      if groups.toList = [0, 0, 0, 0, 0, 0, 0, 1] then none else isolatedRefusal address
  reachable := true
  mostWorkers := usualWorkers
  reportWidth := usualReport

end Host

end KeyValueServer
