import KeyValueServer.Proofs.Bindings
import KeyValueServer.Proofs.Connection.Registries
import KeyValueServer.Server.Event

/-!
# Where the sessions are

A session is in a message, in the readiness set, or with a job that waits or runs. `holdings` lists
all sessions of a server with their places. They are accounted for when the open connections are
exactly those of the sessions, one session each, every place fits the stage that the registries
give, and only sessions on their way to execution hold a request.

Accounts do not depend on the order of the list, so a session can be moved by taking it out of the
list and putting it back in another place. The rules for doing so are those of the registries.
-/

namespace KeyValueServer

/-- The places in which a session can be. -/
inductive Place where
  /-- In the message about a new connection. -/
  | added
  /-- In the message about an incomplete request. -/
  | readMore
  /-- In the message about a reply that is written. -/
  | rearm
  /-- In the message about a socket that takes no more output. -/
  | awaitWritable
  /-- In the message about a connection that is of no further use. -/
  | removed
  /-- In the readiness set, waiting for input. -/
  | parkedRead
  /-- In the readiness set, waiting to write. -/
  | parkedWrite
  /-- With a job that waits for a worker. -/
  | queued (stage : Stage)
  /-- With a job that runs. -/
  | running (stage : Stage)
  deriving DecidableEq, Repr

/-- A session in its place. -/
abbrev Holding := Place × Session

/-- The session of a message in its place. -/
def Control.holding : Control → Holding
  | .add session => (.added, session)
  | .readMore session => (.readMore, session)
  | .rearm session => (.rearm, session)
  | .awaitWritable session => (.awaitWritable, session)
  | .remove session => (.removed, session)

/-- A session of the readiness set in its place. -/
def Parked.holding : Parked → Holding
  | .read session => (.parkedRead, session)
  | .write session => (.parkedWrite, session)

namespace Server

/-- The sessions of the jobs of a stage. -/
def jobs (server : Server) (stage : Stage) : List Holding :=
  (server.pool stage).queue.map (.queued stage, ·) ++
    (server.pool stage).running.map (.running stage, ·)

/-- All sessions of a server in their places. -/
def holdings (server : Server) : List Holding :=
  server.control.map Control.holding ++ (server.parked.values.map Parked.holding ++
    (server.jobs .readRegistered ++ (server.jobs .processing ++ server.jobs .writePending)))

end Server

namespace Place

/-- The stage, or the lack of one, that goes with a place. A session that is to be removed may be
in any stage. -/
def expected : Place → Option (Option Stage)
  | .added => some none
  | .readMore | .rearm | .parkedRead => some (some .readRegistered)
  | .awaitWritable | .parkedWrite => some (some .writePending)
  | .queued stage | .running stage => some (some stage)
  | .removed => none

/-- Whether a place goes with what the registries say. -/
def Agrees (place : Place) (found : Option Stage) : Prop :=
  ∀ stage, place.expected = some stage → found = stage

/-- Whether a place is on the way to execution. -/
def executes : Place → Bool
  | .queued .processing | .running .processing => true
  | _ => false

/-- A session that is not on the way to execution holds no request. -/
theorem idle_of_stored {place : Place} {session : Session}
    (stored : session.command.isSome = place.executes) (waits : place.executes = false) :
    session.command = none := by
  rw [waits] at stored
  exact Option.isNone_iff_eq_none.mp (Option.isSome_eq_false_iff.mp stored)

end Place

/-- The open connections are those of the sessions in `holdings`, one session each. Every place
agrees with the stage of its connection, and holds a request exactly when it is on the way to
execution. Connections are numbered below `next`. -/
structure Accounted (registries : Registries) (next : Nat) (holdings : List Holding) : Prop where
  sound : registries.Sound
  distinct : (holdings.map fun holding => holding.2.id).Nodup
  registered : ∀ id, registries.all.contains id = true ↔ ∃ holding ∈ holdings, holding.2.id = id
  agreed : ∀ holding ∈ holdings, holding.1.Agrees (registries.stageOf holding.2.id)
  stored : ∀ holding ∈ holdings, holding.2.command.isSome = holding.1.executes
  numbered : ∀ holding ∈ holdings, holding.2.id.number < next

namespace Accounted

variable {registries : Registries} {next : Nat} {place : Place} {session : Session}
  {holdings others : List Holding}

/-- Without sessions no connection is open. -/
theorem empty : Accounted .empty next [] where
  sound := Registries.sound_empty
  distinct := List.nodup_nil
  registered id := by
    constructor
    · intro contained
      cases contained
    · rintro ⟨holding, member, _⟩
      cases member
  agreed holding member := absurd member List.not_mem_nil
  stored holding member := absurd member List.not_mem_nil
  numbered holding member := absurd member List.not_mem_nil

/-- The order of the holdings does not matter. -/
theorem perm (accounted : Accounted registries next holdings) (same : holdings.Perm others) :
    Accounted registries next others where
  sound := accounted.sound
  distinct := (same.map _).nodup_iff.mp accounted.distinct
  registered id := (accounted.registered id).trans
    ⟨fun ⟨holding, member, named⟩ => ⟨holding, same.mem_iff.mp member, named⟩,
      fun ⟨holding, member, named⟩ => ⟨holding, same.mem_iff.mpr member, named⟩⟩
  agreed holding member := accounted.agreed holding (same.mem_iff.mpr member)
  stored holding member := accounted.stored holding (same.mem_iff.mpr member)
  numbered holding member := accounted.numbered holding (same.mem_iff.mpr member)

/-- The connection of a session that is accounted for is open. -/
theorem opened (accounted : Accounted registries next ((place, session) :: others)) :
    registries.all.contains session.id = true :=
  (accounted.registered session.id).mpr ⟨_, List.mem_cons_self, rfl⟩

/-- A session in a place that goes with one stage is in that stage. -/
theorem stageOf (accounted : Accounted registries next ((place, session) :: others))
    (stage : Option Stage) (goesWith : place.expected = some stage) :
    registries.stageOf session.id = stage :=
  accounted.agreed (place, session) List.mem_cons_self stage goesWith

/-- All other sessions belong to other connections. -/
theorem apart (accounted : Accounted registries next ((place, session) :: others))
    (holding : Holding) (member : holding ∈ others) : holding.2.id ≠ session.id := by
  intro same
  have fresh := (List.nodup_cons.mp accounted.distinct).1
  exact fresh (List.mem_map.mpr ⟨holding, member, same⟩)

/-- A session that goes to another place of the same stage stays accounted for. -/
theorem move (accounted : Accounted registries next ((place, session) :: others))
    (destination : Place) (changed : Session) (same : changed.id = session.id)
    (agrees : destination.Agrees (registries.stageOf session.id))
    (stored : changed.command.isSome = destination.executes) :
    Accounted registries next ((destination, changed) :: others) where
  sound := accounted.sound
  distinct := by simpa only [List.map_cons, same] using accounted.distinct
  registered id := by
    simpa only [List.exists_mem_cons_iff, same] using accounted.registered id
  agreed := by
    rw [List.forall_mem_cons]
    refine ⟨?_, fun holding member => accounted.agreed holding (List.mem_cons_of_mem _ member)⟩
    simpa only [same] using agrees
  stored := by
    rw [List.forall_mem_cons]
    exact ⟨stored, fun holding member => accounted.stored holding (List.mem_cons_of_mem _ member)⟩
  numbered := by
    have bounded := List.forall_mem_cons.mp accounted.numbered
    rw [List.forall_mem_cons]
    exact ⟨by simpa only [same] using bounded.1, bounded.2⟩

/-- A session whose connection changes its stage stays accounted for, in a place of the new
stage. -/
theorem transition (accounted : Accounted registries next ((place, session) :: others))
    (before : Option Stage) (after : Stage) (found : registries.stageOf session.id = before) :
    ∃ moved, registries.transition session.id before after = .ok moved ∧
      moved.stageOf session.id = some after ∧
      ∀ (destination : Place) (changed : Session), changed.id = session.id →
        destination.Agrees (some after) → changed.command.isSome = destination.executes →
        Accounted moved next ((destination, changed) :: others) := by
  obtain ⟨moved, moves, sound, all, stages⟩ :=
    registries.transition_spec accounted.sound session.id before after accounted.opened found
  refine ⟨moved, moves, by rw [stages, if_pos rfl], ?_⟩
  intro destination changed same agrees stored
  have elsewhere : ∀ holding ∈ others,
      moved.stageOf holding.2.id = registries.stageOf holding.2.id := by
    intro holding member
    rw [stages, if_neg (accounted.apart holding member)]
  constructor
  · exact sound
  · simpa only [List.map_cons, same] using accounted.distinct
  · intro id
    rw [all]
    simpa only [List.exists_mem_cons_iff, same] using accounted.registered id
  · rw [List.forall_mem_cons]
    constructor
    · simpa only [same, stages, ↓reduceIte] using agrees
    · intro holding member
      rw [elsewhere holding member]
      exact accounted.agreed holding (List.mem_cons_of_mem _ member)
  · rw [List.forall_mem_cons]
    exact ⟨stored, fun holding member => accounted.stored holding (List.mem_cons_of_mem _ member)⟩
  · have bounded := List.forall_mem_cons.mp accounted.numbered
    rw [List.forall_mem_cons]
    exact ⟨by simpa only [same] using bounded.1, bounded.2⟩

/-- A session that is dropped together with its registration leaves the others accounted for. -/
theorem remove (accounted : Accounted registries next ((place, session) :: others)) :
    Accounted (registries.remove session.id).2 next others := by
  obtain ⟨sound, all, stages⟩ := registries.remove_spec accounted.sound session.id
  constructor
  · exact sound
  · exact (List.nodup_cons.mp accounted.distinct).2
  · intro id
    rw [all, Bool.and_eq_true, accounted.registered, List.exists_mem_cons_iff]
    simp only [Bool.not_eq_true', decide_eq_false_iff_not]
    constructor
    · rintro ⟨different, rfl | member⟩
      · exact absurd rfl different
      · exact member
    · rintro ⟨holding, member, rfl⟩
      exact ⟨accounted.apart holding member, .inr ⟨holding, member, rfl⟩⟩
  · intro holding member
    rw [stages, if_neg (accounted.apart holding member)]
    exact accounted.agreed holding (List.mem_cons_of_mem _ member)
  · exact fun holding member => accounted.stored holding (List.mem_cons_of_mem _ member)
  · exact fun holding member => accounted.numbered holding (List.mem_cons_of_mem _ member)

/-- A new connection with the next number is accounted for by its new session. -/
theorem insert (accounted : Accounted registries next holdings) (peer : Address) :
    Accounted (registries.insert ⟨next⟩ peer).2 (next + 1)
      ((.added, Session.create ⟨next⟩ peer) :: holdings) := by
  obtain ⟨sound, all, stages⟩ := registries.insert_spec accounted.sound ⟨next⟩ peer
  have fresh : ∀ holding ∈ holdings, holding.2.id ≠ ⟨next⟩ := by
    intro holding member same
    have bounded := accounted.numbered holding member
    rw [same] at bounded
    exact Nat.lt_irrefl next bounded
  have unknown : registries.stageOf ⟨next⟩ = none := by
    cases found : registries.stageOf ⟨next⟩ with
    | none => rfl
    | some stage =>
      have opened := registries.contains_of_stageOf accounted.sound ⟨next⟩ stage found
      obtain ⟨holding, member, same⟩ := (accounted.registered ⟨next⟩).mp opened
      exact absurd same (fresh holding member)
  constructor
  · exact sound
  · refine List.nodup_cons.mpr ⟨?_, accounted.distinct⟩
    rw [List.mem_map]
    rintro ⟨holding, member, same⟩
    exact fresh holding member same
  · intro id
    rw [all, Bool.or_eq_true, accounted.registered, List.exists_mem_cons_iff, decide_eq_true_eq]
    exact or_congr_left ⟨Eq.symm, Eq.symm⟩
  · rw [List.forall_mem_cons]
    constructor
    · intro stage goesWith
      have none_ : none = stage := Option.some.inj goesWith
      rw [← none_, stages]
      exact unknown
    · intro holding member
      rw [stages]
      exact accounted.agreed holding member
  · rw [List.forall_mem_cons]
    exact ⟨rfl, accounted.stored⟩
  · rw [List.forall_mem_cons]
    exact ⟨Nat.lt_succ_self next, fun holding member =>
      Nat.lt_succ_of_lt (accounted.numbered holding member)⟩

end Accounted

end KeyValueServer
