import KeyValueServer.JobPool
import KeyValueServer.Network.Address

/-!
# Why a server does not start

Only the start of a server can fail as a whole. Each cause has a wording, and some have causes of
their own.
-/

namespace KeyValueServer

/-- A reason for a server not to start. -/
inductive StartError where
  | io (failure : Failure)
  | bind (address : Address) (failure : Failure)
  | readinessSet (failure : Failure)
  | thread (name : String) (failure : Failure)
  | pool (error : PoolError)
  | configuration (detail : String)
  deriving DecidableEq, Repr

namespace StartError

/-- The wording of a reason, where `address` is how the address to bind to is shown. -/
def messageWith (address : Address → String) : StartError → String
  | .io failure => "i/o error: " ++ failure.text
  | .bind wanted failure => "failed to bind to " ++ address wanted ++ ": " ++ failure.text
  | .readinessSet failure => "failed to create readiness set: " ++ failure.text
  | .thread name failure => "failed to spawn " ++ name ++ " thread: " ++ failure.text
  | .pool error => "worker pool error: " ++ error.message
  | .configuration detail => "invalid configuration: " ++ detail

/-- The wording of a reason. -/
def message : StartError → String := messageWith Address.display

/-- The causes behind a reason, each the cause of the one before it. -/
def causes : StartError → List String
  | .io failure | .bind _ failure | .readinessSet failure | .thread _ failure => [failure.text]
  | .pool error =>
    error.message ::
      match error with
      | .spawn _ failure => [failure.text]
      | _ => []
  | .configuration _ => []

end StartError

end KeyValueServer
