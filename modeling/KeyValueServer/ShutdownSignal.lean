/-!
# The shutdown signal

A flag that is raised once, and the event loops that have to notice it. A loop that looks for
events finds out whether it was woken since its last look; several wakes are one. Raising the flag
wakes the loops registered so far, and a loop that registers later is woken at once, so whichever
comes first, no loop misses the signal.
-/

namespace KeyValueServer

/-- The flag, the registered loops, and the loops with a wake that they have not seen. -/
structure ShutdownSignal where
  triggered : Bool
  registered : List Nat
  woken : List Nat
  deriving DecidableEq, Repr

namespace ShutdownSignal

/-- The signal before anything happened. -/
def initial : ShutdownSignal := ⟨false, [], []⟩

/-- Wakes a loop. -/
def wake (woken : List Nat) (loop : Nat) : List Nat := woken.insert loop

/-- Registers a loop. -/
def register (signal : ShutdownSignal) (loop : Nat) : ShutdownSignal :=
  { signal with
    registered := loop :: signal.registered
    woken := if signal.triggered then wake signal.woken loop else signal.woken }

/-- Raises the flag; the answer is whether this is the first time. -/
def trigger (signal : ShutdownSignal) : Bool × ShutdownSignal :=
  if signal.triggered then (false, signal)
  else
    (true, { signal with
      triggered := true
      woken := signal.registered.foldl wake signal.woken })

/-- A loop looks for events; the answer is whether it was woken since its last look. -/
def poll (signal : ShutdownSignal) (loop : Nat) : Bool × ShutdownSignal :=
  (signal.woken.contains loop, { signal with woken := signal.woken.filter (· ≠ loop) })

/-- The signal in reports on the server's own state. -/
def describe (signal : ShutdownSignal) : String :=
  "ShutdownSignal \x7b triggered: " ++ toString signal.triggered ++ " \x7d"

end ShutdownSignal

end KeyValueServer
