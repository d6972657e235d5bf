/-!
# Traffic counters

Counters over all connections of a server. They are words of 64 bits and wrap around.
-/

namespace KeyValueServer

/-- The counters. -/
structure Traffic where
  accepted : UInt64
  active : UInt64
  rejected : UInt64
  commands : UInt64
  protocolErrors : UInt64
  bytesRead : UInt64
  bytesWritten : UInt64
  deriving DecidableEq, Repr

namespace Traffic

/-- The counters of a server that was just started. -/
def zero : Traffic := ⟨0, 0, 0, 0, 0, 0, 0⟩

/-- Counts connections that were accepted and are now open. -/
def opened (traffic : Traffic) (times : UInt64) : Traffic :=
  { traffic with accepted := traffic.accepted + times, active := traffic.active + times }

/-- Counts connections that are no longer open. -/
def closed (traffic : Traffic) (times : UInt64) : Traffic :=
  { traffic with active := traffic.active - times }

/-- Counts connections that were turned away. -/
def turnedAway (traffic : Traffic) (times : UInt64) : Traffic :=
  { traffic with rejected := traffic.rejected + times }

/-- Counts requests that were answered by execution. -/
def executed (traffic : Traffic) (times : UInt64) : Traffic :=
  { traffic with commands := traffic.commands + times }

/-- Counts inputs that were no requests. -/
def refused (traffic : Traffic) (times : UInt64) : Traffic :=
  { traffic with protocolErrors := traffic.protocolErrors + times }

/-- Counts bytes that came in. -/
def received (traffic : Traffic) (bytes : UInt64) : Traffic :=
  { traffic with bytesRead := traffic.bytesRead + bytes }

/-- Counts bytes that went out. -/
def sent (traffic : Traffic) (bytes : UInt64) : Traffic :=
  { traffic with bytesWritten := traffic.bytesWritten + bytes }

/-- The counters in the order in which they are reported. -/
def toList (traffic : Traffic) : List UInt64 :=
  [traffic.accepted, traffic.active, traffic.rejected, traffic.commands, traffic.protocolErrors,
    traffic.bytesRead, traffic.bytesWritten]

end Traffic

end KeyValueServer
