import KeyValueServer.Command
import KeyValueServer.Store
import KeyValueServer.Value.Wire
import KeyValueServer.Request.Decode

/-!
# Executing requests

What each command does to the store and what it replies. A request that is no command is answered
with an error and does not touch the store.
-/

namespace KeyValueServer.Command

/-- Executes a command. -/
def run (store : Store) : Command → Value × Store
  | .get key =>
    let (found, next) := store.get key
    ((found.map Value.bulk).getD .null, next)
  | .set key value => (.ok, (store.set key value).2)
  | .delete keys =>
    let (removed, next) := store.deleteMany keys
    (.integer (Int64.ofNat removed), next)

/-- Answers a request. -/
def execute (store : Store) (request : Value) : Value × Store :=
  match ofValue request with
  | .error failure => (.error failure.message, store)
  | .ok command => command.run store

/-- Answers requests in order; the replies stand last reply first in `replies`. -/
def executeAllFrom (replies : List Value) (store : Store) : List Value → List Value × Store
  | [] => (replies.reverse, store)
  | request :: requests =>
    let (reply, next) := execute store request
    executeAllFrom (reply :: replies) next requests

/-- Answers requests in order. -/
def executeAll (store : Store) (requests : List Value) : List Value × Store :=
  executeAllFrom [] store requests

end KeyValueServer.Command
