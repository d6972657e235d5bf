import Mathlib.Data.List.Nodup
import KeyValueServer.Connection.Registry

/-!
# What the registries say about a connection

The sets of the stages are kept apart from each other and within the map of all connections. Under
this invariant a connection is in a stage exactly when it is a member of the set of that stage, and
every operation has a simple effect on the stage of each connection: it sets the stage of the one
connection it names, or takes it away, and leaves all others alone.
-/

namespace KeyValueServer.Registries

/-- The sets hold every connection at most once, only in one of them, and only while it is open. -/
structure Sound (registries : Registries) : Prop where
  nodup : ∀ stage, (registries.members stage).Nodup
  apart : ∀ stage other id,
    id ∈ registries.members stage → id ∈ registries.members other → stage = other
  known : ∀ stage id, id ∈ registries.members stage → registries.all.contains id = true

/-- The set of a stage after a change of one set. -/
theorem members_modify (registries : Registries) (stage other : Stage)
    (change : List ConnId → List ConnId) :
    (registries.modify stage change).members other =
      if other = stage then change (registries.members other) else registries.members other := by
  cases stage <;> cases other <;> rfl

/-- The map of connections after a change of one set. -/
theorem all_modify (registries : Registries) (stage : Stage)
    (change : List ConnId → List ConnId) :
    (registries.modify stage change).all = registries.all := by
  cases stage <;> rfl

/-- The stages of a connection are those whose sets hold it. -/
theorem mem_stagesOf (registries : Registries) (id : ConnId) (stage : Stage) :
    stage ∈ registries.stagesOf id ↔ id ∈ registries.members stage := by
  cases stage <;> simp [stagesOf]

/-- A connection in no set has no stage. -/
theorem stageOf_eq_none_iff (registries : Registries) (id : ConnId) :
    registries.stageOf id = none ↔ ∀ stage, id ∉ registries.members stage := by
  simp only [stageOf, List.head?_eq_none_iff, List.eq_nil_iff_forall_not_mem, mem_stagesOf]

/-- In sound registries the stage of a connection is the one whose set holds it. -/
theorem stageOf_eq_some_iff (registries : Registries) (sound : registries.Sound) (id : ConnId)
    (stage : Stage) : registries.stageOf id = some stage ↔ id ∈ registries.members stage := by
  constructor
  · intro first
    exact (mem_stagesOf registries id stage).mp (List.mem_of_mem_head? first)
  · intro member
    cases first : registries.stageOf id with
    | none => exact absurd member ((stageOf_eq_none_iff registries id).mp first stage)
    | some other =>
      have found := (mem_stagesOf registries id other).mp (List.mem_of_mem_head? first)
      rw [sound.apart other stage id found member]

/-- Registries whose sets agree on two connections give both the same stage. -/
theorem stageOf_congr (registries others : Registries) (id other : ConnId)
    (same : ∀ stage, id ∈ registries.members stage ↔ other ∈ others.members stage) :
    registries.stageOf id = others.stageOf other := by
  have filters : registries.stagesOf id = others.stagesOf other := by
    simp only [stagesOf]
    apply List.filter_congr
    intro stage _
    simp only [List.contains_eq_mem, same]
  rw [stageOf, stageOf, filters]

/-- A connection with a stage is open. -/
theorem contains_of_stageOf (registries : Registries) (sound : registries.Sound) (id : ConnId)
    (stage : Stage) (found : registries.stageOf id = some stage) :
    registries.all.contains id = true :=
  sound.known stage id ((stageOf_eq_some_iff registries sound id stage).mp found)

/-- Registries without connections are sound. -/
theorem sound_empty : empty.Sound where
  nodup stage := by cases stage <;> exact List.nodup_nil
  apart stage other id member := by cases stage <;> cases member
  known stage id member := by cases stage <;> cases member

/-- After an insertion the connection is open; the stages are as before. -/
theorem insert_spec (registries : Registries) (sound : registries.Sound) (id : ConnId)
    (peer : Address) :
    (registries.insert id peer).2.Sound ∧
      (∀ other, (registries.insert id peer).2.all.contains other =
        (decide (other = id) || registries.all.contains other)) ∧
      ∀ other, (registries.insert id peer).2.stageOf other = registries.stageOf other := by
  have opened : ∀ other, (registries.insert id peer).2.all.contains other =
      (decide (other = id) || registries.all.contains other) := by
    intro other
    simp only [insert, Bindings.contains, Bindings.find?_insert]
    by_cases same : other = id <;> simp [same]
  have members : ∀ stage, (registries.insert id peer).2.members stage =
      registries.members stage := by
    intro stage
    cases stage <;> rfl
  refine ⟨⟨fun stage => ?_, fun stage other name => ?_, fun stage name => ?_⟩, opened, ?_⟩
  · rw [members]
    exact sound.nodup stage
  · rw [members, members]
    exact sound.apart stage other name
  · rw [members, opened]
    intro member
    rw [sound.known stage name member, Bool.or_true]
  · intro other
    exact stageOf_congr _ _ other other fun stage => by rw [members]

/-- The registries while a connection changes its stage: it has left the one it was in. -/
def withdraw (registries : Registries) (id : ConnId) (before : Option Stage) : Registries :=
  match before with
  | none => registries
  | some stage => registries.modify stage (·.erase id)

/-- A connection that leaves the stage it is in is in no set any more. -/
theorem mem_withdraw (registries : Registries) (sound : registries.Sound) (id name : ConnId)
    (before : Option Stage) (found : registries.stageOf id = before) (stage : Stage) :
    name ∈ (registries.withdraw id before).members stage ↔
      name ≠ id ∧ name ∈ registries.members stage := by
  cases before with
  | none =>
    have absent := (stageOf_eq_none_iff registries id).mp found
    constructor
    · intro member
      refine ⟨?_, member⟩
      rintro rfl
      exact absent stage member
    · exact And.right
  | some held =>
    have inside := (stageOf_eq_some_iff registries sound id held).mp found
    rw [withdraw, members_modify]
    by_cases same : stage = held
    · subst same
      rw [if_pos rfl, (sound.nodup stage).mem_erase_iff]
    · rw [if_neg same]
      constructor
      · intro member
        refine ⟨?_, member⟩
        rintro rfl
        exact same (sound.apart stage held name member inside)
      · exact And.right

/-- A change of stage from the stage that the connection is in succeeds. It gives the connection
its new stage and leaves all others where they are. -/
theorem transition_spec (registries : Registries) (sound : registries.Sound) (id : ConnId)
    (before : Option Stage) (after : Stage) (opened : registries.all.contains id = true)
    (found : registries.stageOf id = before) :
    ∃ moved, registries.transition id before after = .ok moved ∧ moved.Sound ∧
      moved.all = registries.all ∧
      ∀ other, moved.stageOf other =
        if other = id then some after else registries.stageOf other := by
  let left := registries.withdraw id before
  have moves : registries.transition id before after = .ok (left.modify after (·.insert id)) := by
    simp only [transition, opened, found, ↓reduceIte]
    rfl
  refine ⟨_, moves, ?_⟩
  have members : ∀ stage name, name ∈ (left.modify after (·.insert id)).members stage ↔
      name = id ∧ stage = after ∨ name ≠ id ∧ name ∈ registries.members stage := by
    intro stage name
    have rest := mem_withdraw registries sound id name before found stage
    rw [members_modify]
    by_cases arrived : stage = after
    · rw [if_pos arrived, List.mem_insert_iff, rest]
      by_cases same : name = id <;> simp [same, arrived]
    · rw [if_neg arrived, rest]
      simp [arrived]
  have all : (left.modify after (·.insert id)).all = registries.all := by
    rw [all_modify]
    cases before with
    | none => rfl
    | some stage => exact all_modify registries stage _
  have soundAfter : (left.modify after (·.insert id)).Sound := by
    refine ⟨fun stage => ?_, fun stage other name => ?_, fun stage name => ?_⟩
    · have nodup : (left.members stage).Nodup := by
        cases before with
        | none => exact sound.nodup stage
        | some held =>
          simp only [left, withdraw, members_modify]
          split
          · exact (sound.nodup stage).erase id
          · exact sound.nodup stage
      rw [members_modify]
      split
      · exact nodup.insert
      · exact nodup
    · rw [members, members]
      rintro (⟨rfl, rfl⟩ | ⟨other_, member⟩) (⟨same, rfl⟩ | ⟨_, member'⟩)
      · rfl
      · contradiction
      · contradiction
      · exact sound.apart stage other name member member'
    · rw [members, all]
      rintro (⟨rfl, rfl⟩ | ⟨_, member⟩)
      · exact opened
      · exact sound.known stage name member
  refine ⟨soundAfter, all, fun other => ?_⟩
  by_cases same : other = id
  · rw [if_pos same, stageOf_eq_some_iff _ soundAfter, members]
    exact .inl ⟨same, rfl⟩
  · rw [if_neg same]
    refine stageOf_congr _ _ other other fun stage => ?_
    rw [members]
    simp [same]

/-- After a removal the connection is neither open nor in a stage; all others are where they
were. -/
theorem remove_spec (registries : Registries) (sound : registries.Sound) (id : ConnId) :
    (registries.remove id).2.Sound ∧
      (∀ other, (registries.remove id).2.all.contains other =
        (!decide (other = id) && registries.all.contains other)) ∧
      ∀ other, (registries.remove id).2.stageOf other =
        if other = id then none else registries.stageOf other := by
  have opened : ∀ other, (registries.remove id).2.all.contains other =
      (!decide (other = id) && registries.all.contains other) := by
    intro other
    simp only [remove, Bindings.contains, Bindings.find?_erase]
    by_cases same : other = id <;> simp [same]
  have erased : ∀ stage, (registries.remove id).2.members stage =
      (registries.members stage).erase id := by
    intro stage
    cases stage <;> rfl
  have members : ∀ stage name, name ∈ (registries.remove id).2.members stage ↔
      name ≠ id ∧ name ∈ registries.members stage := by
    intro stage name
    rw [erased, (sound.nodup stage).mem_erase_iff]
  refine ⟨⟨fun stage => ?_, fun stage other name => ?_, fun stage name => ?_⟩, opened, ?_⟩
  · rw [erased]
    exact (sound.nodup stage).erase id
  · rw [members, members]
    rintro ⟨_, member⟩ ⟨_, member'⟩
    exact sound.apart stage other name member member'
  · rw [members, opened]
    rintro ⟨apart, member⟩
    simp [apart, sound.known stage name member]
  · intro other
    by_cases same : other = id
    · rw [if_pos same, stageOf_eq_none_iff]
      intro stage member
      exact ((members stage other).mp member).1 same
    · rw [if_neg same]
      refine stageOf_congr _ _ other other fun stage => ?_
      rw [members]
      simp [same]

end KeyValueServer.Registries
