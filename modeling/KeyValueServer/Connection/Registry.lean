import KeyValueServer.Bindings
import KeyValueServer.Connection.Stage
import KeyValueServer.Network.Address

/-!
# Registries of connections

Where every connection is: one map of all open connections to their peers, and one set for each
stage. A connection is in at most one of the sets, and only while it is in the map.

A change of stage names the stage that the connection has to be in before; where it is in another
one, nothing changes and the answer says what was found.
-/

namespace KeyValueServer

/-- The number of a connection. -/
structure ConnId where
  number : Nat
  deriving DecidableEq, Repr

namespace ConnId

/-- A connection in messages. -/
def display (id : ConnId) : String := "#" ++ toString id.number

/-- The token under which the readiness set knows a connection. -/
def token (id : ConnId) : Nat := id.number

/-- The connection of a token. -/
def ofToken (token : Nat) : ConnId := ⟨token⟩

end ConnId

/-- Why a change of stage was refused. -/
inductive RegistryError where
  | unknown (id : ConnId)
  | wrongStage (id : ConnId) (expected found : Option Stage)
  deriving DecidableEq, Repr

/-- The wording of a refusal. -/
def RegistryError.message : RegistryError → String
  | .unknown id => "connection " ++ id.display ++ " is not registered"
  | .wrongStage id expected found =>
    "connection " ++ id.display ++ " expected in stage " ++ Stage.describe expected ++
      ", found in " ++ Stage.describe found

/-- The map of all connections and the sets of the stages. -/
structure Registries where
  all : Bindings ConnId Address
  readRegistered : List ConnId
  processing : List ConnId
  writePending : List ConnId

namespace Registries

/-- Registries without connections. -/
def empty : Registries := ⟨Bindings.empty, [], [], []⟩

/-- The set of a stage. -/
def members (registries : Registries) : Stage → List ConnId
  | .readRegistered => registries.readRegistered
  | .processing => registries.processing
  | .writePending => registries.writePending

/-- Changes the set of a stage. -/
def modify (registries : Registries) (stage : Stage) (change : List ConnId → List ConnId) :
    Registries :=
  match stage with
  | .readRegistered => { registries with readRegistered := change registries.readRegistered }
  | .processing => { registries with processing := change registries.processing }
  | .writePending => { registries with writePending := change registries.writePending }

/-- The stages whose sets hold a connection. -/
def stagesOf (registries : Registries) (id : ConnId) : List Stage :=
  [Stage.readRegistered, .processing, .writePending].filter fun stage =>
    registries.members stage |>.contains id

/-- The stage of a connection. -/
def stageOf (registries : Registries) (id : ConnId) : Option Stage :=
  (registries.stagesOf id).head?

/-- The number of connections. -/
def size (registries : Registries) : Nat := registries.all.size

/-- Whether there is no connection. -/
def isEmpty (registries : Registries) : Bool := registries.size == 0

/-- Enters a connection, without a stage if it is new; the answer is the number of connections. -/
def insert (registries : Registries) (id : ConnId) (peer : Address) : Nat × Registries :=
  let entered := { registries with all := registries.all.insert id peer }
  (entered.size, entered)

/-- Moves a connection from the stage it has to be in to another one. -/
def transition (registries : Registries) (id : ConnId) (before : Option Stage) (after : Stage) :
    Except RegistryError Registries :=
  if registries.all.contains id then
    let found := registries.stageOf id
    if found = before then
      let left :=
        match before with
        | none => registries
        | some stage => registries.modify stage (·.erase id)
      .ok (left.modify after (·.insert id))
    else .error (.wrongStage id before found)
  else .error (.unknown id)

/-- Removes a connection from the map and from every set; the answer is its peer. -/
def remove (registries : Registries) (id : ConnId) : Option Address × Registries :=
  (registries.all.find? id,
    { all := registries.all.erase id
      readRegistered := registries.readRegistered.erase id
      processing := registries.processing.erase id
      writePending := registries.writePending.erase id })

/-- Removes every connection; the answer is how many there were. -/
def clear (registries : Registries) : Nat × Registries := (registries.size, empty)

/-- The sizes of the map and of the sets. -/
structure Counts where
  total : Nat
  readRegistered : Nat
  processing : Nat
  writePending : Nat
  deriving DecidableEq, Repr

/-- The current sizes. -/
def counts (registries : Registries) : Counts :=
  ⟨registries.size, registries.readRegistered.length, registries.processing.length,
    registries.writePending.length⟩

/-- The registries in reports on the server's own state. -/
def describe (registries : Registries) : String :=
  let counts := registries.counts
  "Registries \x7b counts: RegistryCounts \x7b total: " ++ toString counts.total ++
    ", read_registered: " ++ toString counts.readRegistered ++
    ", processing: " ++ toString counts.processing ++
    ", write_pending: " ++ toString counts.writePending ++ " \x7d \x7d"

end Registries

end KeyValueServer
