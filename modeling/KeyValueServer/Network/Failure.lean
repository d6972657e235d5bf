/-!
# Failures of the operating system

What a call to the operating system can report instead of its result. A failure has a kind, which
decides how the server takes it, and a text, which it only passes on.
-/

namespace KeyValueServer

/-- The kinds of failure that the server tells apart. -/
inductive FailureKind where
  | connectionReset
  | connectionAborted
  | brokenPipe
  | other
  deriving DecidableEq, Repr

/-- A failed call. -/
structure Failure where
  kind : FailureKind
  text : String
  deriving DecidableEq, Repr

/-- The numbered errors of the operating system that the server can meet. -/
inductive SystemError where
  | noResources
  | noSuchDevice
  | invalidArgument
  | brokenPipe
  | addressInUse
  | addressNotAvailable
  | networkUnreachable
  deriving DecidableEq, Repr

namespace SystemError

/-- All of these errors. -/
def all : List SystemError :=
  [.noResources, .noSuchDevice, .invalidArgument, .brokenPipe, .addressInUse,
    .addressNotAvailable, .networkUnreachable]

/-- The number of an error. -/
def code : SystemError → Nat
  | .noResources => 11
  | .noSuchDevice => 19
  | .invalidArgument => 22
  | .brokenPipe => 32
  | .addressInUse => 98
  | .addressNotAvailable => 99
  | .networkUnreachable => 101

/-- The error with a number. -/
def ofCode? (code : Nat) : Option SystemError := all.find? (·.code = code)

/-- The operating system's own wording. -/
def message : SystemError → String
  | .noResources => "Resource temporarily unavailable"
  | .noSuchDevice => "No such device"
  | .invalidArgument => "Invalid argument"
  | .brokenPipe => "Broken pipe"
  | .addressInUse => "Address already in use"
  | .addressNotAvailable => "Cannot assign requested address"
  | .networkUnreachable => "Network is unreachable"

/-- The name of an error in reports on the server's own state. -/
def label : SystemError → String
  | .noResources => "WouldBlock"
  | .noSuchDevice => "Uncategorized"
  | .invalidArgument => "InvalidInput"
  | .brokenPipe => "BrokenPipe"
  | .addressInUse => "AddrInUse"
  | .addressNotAvailable => "AddrNotAvailable"
  | .networkUnreachable => "NetworkUnreachable"

/-- The failure that an error amounts to. -/
def failure (error : SystemError) : Failure where
  kind :=
    match error with
    | .brokenPipe => .brokenPipe
    | _ => .other
  text := error.message ++ " (os error " ++ toString error.code ++ ")"

/-- The whole error in reports on the server's own state. -/
def describe (error : SystemError) : String :=
  "Os \x7b code: " ++ toString error.code ++ ", kind: " ++ error.label ++ ", message: \"" ++
    error.message ++ "\" \x7d"

end SystemError

/-- Registering a socket that is registered already. -/
def Failure.alreadyRegistered : Failure :=
  ⟨.other, "I/O source already registered with a `Registry`"⟩

/-- Changing or ending a registration that does not exist. -/
def Failure.notRegistered : Failure :=
  ⟨.other, "I/O source not registered with `Registry`"⟩

end KeyValueServer
