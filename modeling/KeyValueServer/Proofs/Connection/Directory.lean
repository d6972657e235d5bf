import Mathlib.Data.List.Perm.Subperm
import KeyValueServer.Proofs.Bindings
import KeyValueServer.Proofs.Connection.Registries
import KeyValueServer.Proofs.InTurn

/-!
# The registries are one map

What the four registries say of a connection is its peer and the stage it is in, if any. A directory
is one map with these two for every open connection. It has no sets that could disagree with each
other, so what it answers is easy to see. The registries answer the same, whatever is asked of them
and in whatever order.
-/

namespace KeyValueServer

/-- What is known of an open connection: its peer, and its stage if it is in one. -/
structure Directory.Entry where
  peer : Address
  stage : Option Stage

/-- One map from the open connections to what is known of them. -/
abbrev Directory := Bindings ConnId Directory.Entry

namespace Registries

/-- What can be asked of registries. -/
inductive Operation where
  | insert (id : ConnId) (peer : Address)
  | transition (id : ConnId) (before : Option Stage) (after : Stage)
  | remove (id : ConnId)
  | clear
  | stageOf (id : ConnId)
  | size
  | counts

/-- What registries answer. -/
inductive Answer where
  | number (count : Nat)
  | moved (outcome : Except RegistryError Unit)
  | peer (found : Option Address)
  | stage (found : Option Stage)
  | counts (counts : Counts)

/-- Whether an operation is about a connection. -/
def Operation.Concerns (id : ConnId) : Operation → Prop
  | .insert name _ | .transition name _ _ | .remove name | .stageOf name => name = id
  | .clear => True
  | .size | .counts => False

/-- Performs an operation. A change of stage that is refused leaves the registries as they are. -/
def perform (registries : Registries) : Operation → Answer × Registries
  | .insert id peer => (.number (registries.insert id peer).1, (registries.insert id peer).2)
  | .transition id before after =>
    match registries.transition id before after with
    | .ok moved => (.moved (.ok ()), moved)
    | .error refusal => (.moved (.error refusal), registries)
  | .remove id => (.peer (registries.remove id).1, (registries.remove id).2)
  | .clear => (.number registries.clear.1, registries.clear.2)
  | .stageOf id => (.stage (registries.stageOf id), registries)
  | .size => (.number registries.size, registries)
  | .counts => (.counts registries.counts, registries)

end Registries

namespace Directory

/-- The stage of a connection. -/
def stageOf (directory : Directory) (id : ConnId) : Option Stage :=
  (directory.find? id).bind Entry.stage

/-- The number of connections in a stage. -/
def population (directory : Directory) (stage : Stage) : Nat :=
  directory.values.countP fun entry => entry.stage = some stage

/-- Gives a connection a peer. A new connection has no stage, a known one keeps the stage it has. -/
def enter (directory : Directory) (id : ConnId) (peer : Address) : Directory :=
  directory.insert id ⟨peer, directory.stageOf id⟩

/-- Moves a connection to another stage, if it is known and in the stage it has to be in. -/
def move (directory : Directory) (id : ConnId) (before : Option Stage) (after : Stage) :
    Except RegistryError Unit × Directory :=
  match directory.find? id with
  | none => (.error (.unknown id), directory)
  | some entry =>
    if entry.stage = before then (.ok (), directory.insert id ⟨entry.peer, some after⟩)
    else (.error (.wrongStage id before entry.stage), directory)

/-- Performs an operation on a directory. -/
def perform (directory : Directory) : Registries.Operation → Registries.Answer × Directory
  | .insert id peer => (.number (directory.enter id peer).size, directory.enter id peer)
  | .transition id before after =>
    (.moved (directory.move id before after).1, (directory.move id before after).2)
  | .remove id => (.peer ((directory.find? id).map Entry.peer), directory.erase id)
  | .clear => (.number directory.size, Bindings.empty)
  | .stageOf id => (.stage (directory.stageOf id), directory)
  | .size => (.number directory.size, directory)
  | .counts =>
    (.counts ⟨directory.size, directory.population .readRegistered,
      directory.population .processing, directory.population .writePending⟩, directory)

variable (directory : Directory)

/-- A connection is in a stage when its entry says so. -/
theorem stageOf_eq_some_iff (id : ConnId) (stage : Stage) :
    directory.stageOf id = some stage ↔
      ∃ entry, (id, entry) ∈ directory.entries ∧ entry.stage = some stage := by
  simp only [stageOf, Option.bind_eq_some_iff, Bindings.find?_eq_some_iff]

/-- The stage of a connection after another entry was made. -/
theorem stageOf_insert (id other : ConnId) (entry : Entry) :
    stageOf (directory.insert id entry) other =
      if other = id then entry.stage else directory.stageOf other := by
  simp only [stageOf, Bindings.find?_insert]
  by_cases same : other = id <;> simp [same]

/-- The stage of a connection after an entry was taken away. -/
theorem stageOf_erase (id other : ConnId) :
    stageOf (directory.erase id) other =
      if other = id then none else directory.stageOf other := by
  simp only [stageOf, Bindings.find?_erase]
  by_cases same : other = id <;> simp [same]

/-- An operation leaves what is known of all other connections as it is. -/
theorem find?_perform (operation : Registries.Operation) (other : ConnId)
    (apart : ¬ operation.Concerns other) :
    (directory.perform operation).2.find? other = directory.find? other := by
  cases operation with
  | insert id peer =>
    have different : other ≠ id := fun same => apart same.symm
    simp [perform, enter, Bindings.find?_insert, different]
  | transition id before after =>
    have different : other ≠ id := fun same => apart same.symm
    simp only [perform, move]
    split
    · rfl
    · split
      · simp [Bindings.find?_insert, different]
      · rfl
  | remove id =>
    have different : other ≠ id := fun same => apart same.symm
    simp [perform, Bindings.find?_erase, different]
  | clear => exact absurd trivial apart
  | stageOf | size | counts => rfl

end Directory

namespace Registries

variable {registries : Registries} {directory : Directory}

/-- The registries say of every connection what the directory says. -/
structure Follows (registries : Registries) (directory : Directory) : Prop where
  sound : registries.Sound
  peers : ∀ id, registries.all.find? id = (directory.find? id).map Directory.Entry.peer
  stages : ∀ id, registries.stageOf id = directory.stageOf id

namespace Follows

/-- The same connections are open. -/
theorem contains (follows : registries.Follows directory) (id : ConnId) :
    registries.all.contains id = directory.contains id := by
  rw [Bindings.contains, Bindings.contains, follows.peers, Option.isSome_map]

/-- The same number of connections is open. -/
theorem size (follows : registries.Follows directory) : registries.size = directory.size :=
  Bindings.size_congr _ _ follows.contains

/-- A set has as many members as connections are in its stage. -/
theorem population (follows : registries.Follows directory) (stage : Stage) :
    (registries.members stage).length = directory.population stage := by
  let inStage := directory.entries.filter fun entry => decide (entry.2.stage = some stage)
  have nodup : (inStage.map Prod.fst).Nodup :=
    (List.filter_sublist.map Prod.fst).nodup directory.keys_nodup
  have perm : (registries.members stage).Perm (inStage.map Prod.fst) := by
    apply (List.perm_ext_iff_of_nodup (follows.sound.nodup stage) nodup).mpr
    intro id
    rw [← stageOf_eq_some_iff registries follows.sound, follows.stages,
      Directory.stageOf_eq_some_iff]
    simp [inStage]
  calc (registries.members stage).length
      = inStage.length := by rw [perm.length_eq, List.length_map]
    _ = directory.population stage := by
        rw [Directory.population, Bindings.values, List.countP_map, List.countP_eq_length_filter]
        rfl

/-- A new peer leaves all stages as they are. -/
theorem insert (follows : registries.Follows directory) (id : ConnId) (peer : Address) :
    (registries.insert id peer).2.Follows (directory.enter id peer) := by
  obtain ⟨sound, _, stages⟩ := registries.insert_spec follows.sound id peer
  refine ⟨sound, ?_, ?_⟩
  · intro other
    simp only [Registries.insert, Directory.enter, Bindings.find?_insert]
    by_cases same : other = id
    · simp [same]
    · simp [same, follows.peers]
  · intro other
    rw [stages, follows.stages, Directory.enter, Directory.stageOf_insert]
    by_cases same : other = id <;> simp [same]

/-- A change of stage is answered alike, and leads to the same stages. -/
theorem transition (follows : registries.Follows directory) (id : ConnId)
    (before : Option Stage) (after : Stage) :
    match registries.transition id before after with
    | .ok moved => (directory.move id before after).1 = .ok () ∧
        moved.Follows (directory.move id before after).2
    | .error refusal => directory.move id before after = (.error refusal, directory) := by
  cases found : directory.find? id with
  | none =>
    have unknown : registries.all.contains id = false := by
      rw [follows.contains, Bindings.contains, found]
      rfl
    simp [Registries.transition, unknown, Directory.move, found]
  | some entry =>
    have opened : registries.all.contains id = true := by
      rw [follows.contains, Bindings.contains, found]
      rfl
    have stage : registries.stageOf id = entry.stage := by
      rw [follows.stages, Directory.stageOf, found]
      rfl
    by_cases expected : entry.stage = before
    · obtain ⟨moved, moves, sound, all, stages⟩ :=
        registries.transition_spec follows.sound id before after opened (stage.trans expected)
      simp only [moves, Directory.move, found, expected, ↓reduceIte, true_and]
      refine ⟨sound, ?_, ?_⟩
      · intro other
        rw [all, follows.peers, Bindings.find?_insert]
        by_cases same : other = id
        · simp [same, found]
        · simp [same]
      · intro other
        rw [stages, Directory.stageOf_insert, follows.stages]
    · simp [Registries.transition, opened, stage, expected, Directory.move, found]

/-- A removal takes the peer and the stage away. -/
theorem remove (follows : registries.Follows directory) (id : ConnId) :
    (registries.remove id).2.Follows (directory.erase id) := by
  obtain ⟨sound, _, stages⟩ := registries.remove_spec follows.sound id
  refine ⟨sound, ?_, ?_⟩
  · intro other
    simp only [Registries.remove, Bindings.find?_erase]
    by_cases same : other = id
    · simp [same]
    · simp [same, follows.peers]
  · intro other
    rw [stages, Directory.stageOf_erase, follows.stages]

/-- Registries without connections follow the empty directory. -/
theorem empty : Registries.empty.Follows Bindings.empty where
  sound := sound_empty
  peers _ := rfl
  stages _ := rfl

/-- Every operation is answered as the directory answers it, and followed by the registries. -/
theorem perform (follows : registries.Follows directory) (operation : Operation) :
    (registries.perform operation).1 = (directory.perform operation).1 ∧
      (registries.perform operation).2.Follows (directory.perform operation).2 := by
  cases operation with
  | insert id peer =>
    have entered := follows.insert id peer
    exact ⟨congrArg Answer.number entered.size, entered⟩
  | transition id before after =>
    have moves := follows.transition id before after
    simp only [Registries.perform, Directory.perform]
    split at moves
    · next moved _ => exact ⟨congrArg Answer.moved moves.1.symm, moves.2⟩
    · next refusal _ =>
      rw [moves]
      exact ⟨rfl, follows⟩
  | remove id => exact ⟨congrArg Answer.peer (follows.peers id), follows.remove id⟩
  | clear => exact ⟨congrArg Answer.number follows.size, .empty⟩
  | stageOf id => exact ⟨congrArg Answer.stage (follows.stages id), follows⟩
  | size => exact ⟨congrArg Answer.number follows.size, follows⟩
  | counts =>
    refine ⟨congrArg Answer.counts ?_, follows⟩
    rw [← follows.size, ← follows.population, ← follows.population, ← follows.population]
    rfl

end Follows

/-- A connection is in one of the sets at most, so a look at all three finds one stage at most. -/
theorem Sound.length_stagesOf_le (sound : registries.Sound) (id : ConnId) :
    (registries.stagesOf id).length ≤ 1 := by
  cases stages : registries.stagesOf id with
  | nil => exact Nat.zero_le 1
  | cons first others =>
    have member (stage : Stage) (found : stage ∈ first :: others) :
        id ∈ registries.members stage :=
      (mem_stagesOf registries id stage).mp (stages ▸ found)
    have nodup : (first :: others).Nodup := by
      rw [← stages]
      exact List.Nodup.filter _ (by decide)
    have alone : others = [] := by
      apply List.eq_nil_iff_forall_not_mem.mpr
      intro other later
      have same := sound.apart first other id (member first List.mem_cons_self)
        (member other (List.mem_cons_of_mem _ later))
      exact (List.nodup_cons.mp nodup).1 (same ▸ later)
    rw [alone]
    exact Nat.le_refl 1

/-- The sets together have no more members than connections are open. -/
theorem Sound.length_members_le (sound : registries.Sound) :
    (registries.members .readRegistered).length + (registries.members .processing).length +
      (registries.members .writePending).length ≤ registries.size := by
  have apart (stage other : Stage) (different : stage ≠ other) :
      (registries.members stage).Disjoint (registries.members other) :=
    fun id member memberToo => different (sound.apart stage other id member memberToo)
  have nodup : (registries.members .readRegistered ++ registries.members .processing ++
      registries.members .writePending).Nodup := by
    refine ((sound.nodup _).append (sound.nodup _) (apart _ _ (by decide))).append
      (sound.nodup _) ?_
    exact List.disjoint_append_left.mpr ⟨apart _ _ (by decide), apart _ _ (by decide)⟩
  have known : registries.members .readRegistered ++ registries.members .processing ++
      registries.members .writePending ⊆ registries.all.keys := by
    intro id member
    rw [List.mem_append, List.mem_append] at member
    apply (Bindings.mem_keys_iff _ _).mpr
    rcases member with (member | member) | member <;> exact sound.known _ id member
  have bound := (nodup.subperm known).length_le
  rwa [List.length_append, List.length_append, Bindings.length_keys] at bound

/-- A connection that is not open has no stage. -/
theorem Sound.stageOf_eq_none (sound : registries.Sound) (id : ConnId)
    (unknown : registries.all.contains id = false) : registries.stageOf id = none := by
  cases found : registries.stageOf id with
  | none => rfl
  | some stage =>
    have opened := registries.contains_of_stageOf sound id stage found
    rw [unknown] at opened
    cases opened

/-- A change of stage succeeds exactly for an open connection that is in the stage it has to be
in. -/
theorem Sound.transition_iff (sound : registries.Sound) (id : ConnId) (before : Option Stage)
    (after : Stage) :
    (∃ moved, registries.transition id before after = .ok moved) ↔
      registries.all.contains id = true ∧ registries.stageOf id = before := by
  constructor
  · rintro ⟨moved, moves⟩
    unfold transition at moves
    split at moves
    · next opened =>
      dsimp only at moves
      split at moves
      · next found => exact ⟨opened, found⟩
      · cases moves
    · cases moves
  · rintro ⟨opened, found⟩
    obtain ⟨moved, moves, _⟩ := registries.transition_spec sound id before after opened found
    exact ⟨moved, moves⟩

/-- Registries and a directory that are the same map. -/
structure OneMap (registries : Registries) (directory : Directory) : Prop where
  /-- Both say the same of every connection. -/
  agree : ∀ id, registries.all.find? id = (directory.find? id).map Directory.Entry.peer ∧
    registries.stageOf id = directory.stageOf id
  /-- No connection is in the sets of two stages. -/
  apart : ∀ stage other id,
    id ∈ registries.members stage → id ∈ registries.members other → stage = other
  /-- Only open connections are in the sets. -/
  known : ∀ stage id, id ∈ registries.members stage → registries.all.contains id = true
  /-- A look at all sets finds no second stage. -/
  single : ∀ id, (registries.stagesOf id).length ≤ 1
  /-- The sets together are no larger than the map of open connections. -/
  bounded : registries.counts.readRegistered + registries.counts.processing +
    registries.counts.writePending ≤ registries.counts.total
  /-- An operation on one connection leaves all others as they are. -/
  frame : ∀ operation other, ¬ operation.Concerns other →
    (registries.perform operation).2.all.find? other = registries.all.find? other ∧
      (registries.perform operation).2.stageOf other = registries.stageOf other
  /-- A change of stage succeeds exactly for an open connection in the stage it has to be in. -/
  moves : ∀ id before after, (∃ moved, registries.transition id before after = .ok moved) ↔
    registries.all.contains id = true ∧ registries.stageOf id = before
  /-- A connection that is not open has no stage when it comes. -/
  newcomer : ∀ id peer, registries.all.contains id = false →
    (registries.insert id peer).2.stageOf id = none
  /-- Removed connections are not open. -/
  gone : ∀ id, (registries.remove id).2.all.contains id = false ∧
    registries.clear.2.all.contains id = false

/-- Registries that follow a directory are the same map. -/
theorem Follows.oneMap (follows : registries.Follows directory) : registries.OneMap directory where
  agree id := ⟨follows.peers id, follows.stages id⟩
  apart := follows.sound.apart
  known := follows.sound.known
  single := follows.sound.length_stagesOf_le
  bounded := follows.sound.length_members_le
  frame operation other apart := by
    have next := (follows.perform operation).2
    have same := directory.find?_perform operation other apart
    constructor
    · rw [next.peers, same, follows.peers]
    · rw [next.stages, Directory.stageOf, same, follows.stages]
      rfl
  moves := follows.sound.transition_iff
  newcomer id peer unknown := by
    rw [(registries.insert_spec follows.sound id peer).2.2]
    exact follows.sound.stageOf_eq_none id unknown
  gone id := by
    refine ⟨?_, rfl⟩
    rw [(registries.remove_spec follows.sound id).2.1]
    simp

/-- Whatever is asked of registries that begin without connections, they answer what one map from
connections to peers and stages answers, and they are the same map afterwards. -/
theorem registries_are_one_map (operations : List Operation) :
    ∃ answers registries directory,
      inTurn perform .empty operations = (answers, registries) ∧
        inTurn Directory.perform .empty operations = (answers, directory) ∧
        registries.OneMap directory := by
  obtain ⟨answers, follows⟩ := inTurn_agree perform Directory.perform Follows
    (fun _ _ operation follows => follows.perform operation) .empty .empty .empty operations
  exact ⟨_, _, _, rfl, Prod.ext answers.symm rfl, follows.oneMap⟩

end Registries

end KeyValueServer
