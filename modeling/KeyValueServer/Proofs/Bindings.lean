import Mathlib.Data.List.Nodup
import Mathlib.Data.List.Perm.Basic
import KeyValueServer.Bindings

/-!
# The values of a finite map

An insertion of a new key adds one value to the values of a map, and a removal takes one away. The
order of the values has no meaning, so both are stated up to permutation.
-/

namespace KeyValueServer.Bindings

variable {Key Value : Type} [DecidableEq Key]

/-- A value that a look-up finds is bound to its key. -/
theorem mem_entries_of_find? (map : Bindings Key Value) (key : Key) (value : Value)
    (found : map.find? key = some value) : (key, value) ∈ map.entries := by
  unfold find? at found
  generalize map.entries = entries at found
  induction entries with
  | nil => cases found
  | cons entry entries inductionHypothesis =>
    obtain ⟨name, held⟩ := entry
    unfold lookup at found
    by_cases same : key = name
    · rw [if_pos same] at found
      obtain rfl : held = value := Option.some.inj found
      exact same ▸ List.mem_cons_self
    · rw [if_neg same] at found
      exact List.mem_cons_of_mem _ (inductionHypothesis found)

/-- A key is bound to the value that a look-up of it finds, and to no other. -/
theorem find?_eq_some_iff (map : Bindings Key Value) (key : Key) (value : Value) :
    map.find? key = some value ↔ (key, value) ∈ map.entries := by
  constructor
  · exact mem_entries_of_find? map key value
  · intro bound
    have named : key ∈ map.entries.map Prod.fst := List.mem_map_of_mem bound
    obtain ⟨held, found⟩ :=
      Option.isSome_iff_exists.mp ((lookup_isSome_iff map.entries key).mpr named)
    have boundToo := mem_entries_of_find? map key held found
    obtain rfl : held = value :=
      (Prod.mk.inj (List.inj_on_of_nodup_map map.keys_nodup boundToo bound rfl)).2
    exact found

/-- The keys are those that have a value. -/
theorem mem_keys_iff (map : Bindings Key Value) (key : Key) :
    key ∈ map.keys ↔ map.contains key = true :=
  (lookup_isSome_iff map.entries key).symm

omit [DecidableEq Key] in
/-- A map has as many bindings as keys. -/
theorem length_keys (map : Bindings Key Value) : map.keys.length = map.size :=
  List.length_map _

omit [DecidableEq Key] in
/-- A map without keys has no bindings. -/
theorem size_of_keys_nil (map : Bindings Key Value) (nothing : map.keys = []) : map.size = 0 := by
  rw [← length_keys, nothing]
  rfl

/-- Maps that give values to the same keys are of the same size, whatever the values are. -/
theorem size_congr {Other : Type} (map : Bindings Key Value) (other : Bindings Key Other)
    (same : ∀ key, map.contains key = other.contains key) : map.size = other.size := by
  have perm : map.keys.Perm other.keys := by
    apply (List.perm_ext_iff_of_nodup map.keys_nodup other.keys_nodup).mpr
    intro key
    refine (mem_keys_iff map key).trans (Iff.trans ?_ (mem_keys_iff other key).symm)
    rw [same]
  rw [← length_keys, ← length_keys, perm.length_eq]

/-- A value that a look-up finds is one of the values. -/
theorem mem_values_of_find? (map : Bindings Key Value) (key : Key) (value : Value)
    (found : map.find? key = some value) : value ∈ map.values :=
  List.mem_map_of_mem (mem_entries_of_find? map key value found)

/-- Each of the values is found under some key. -/
theorem exists_find?_of_mem_values (map : Bindings Key Value) (value : Value)
    (member : value ∈ map.values) : ∃ key, map.find? key = some value := by
  have found : ∀ entries : List (Key × Value), (entries.map Prod.fst).Nodup →
      value ∈ entries.map Prod.snd → ∃ key, lookup key entries = some value := by
    intro entries
    induction entries with
    | nil => intro _ member; cases member
    | cons entry entries inductionHypothesis =>
      obtain ⟨name, held⟩ := entry
      intro unique member
      obtain ⟨fresh, unique⟩ := List.nodup_cons.mp unique
      rcases List.mem_cons.mp member with rfl | later
      · exact ⟨name, if_pos rfl⟩
      · obtain ⟨key, found⟩ := inductionHypothesis unique later
        have bound : key ∈ entries.map Prod.fst :=
          (lookup_isSome_iff entries key).mp (congrArg Option.isSome found)
        have apart : key ≠ name := fun same => fresh (same ▸ bound)
        exact ⟨key, (if_neg apart).trans found⟩
  exact found map.entries map.keys_nodup member

/-- A new key is bound in front of the others. -/
theorem entries_insert_of_absent (map : Bindings Key Value) (key : Key) (value : Value)
    (absent : map.find? key = none) :
    (map.insert key value).entries = (key, value) :: map.entries := by
  have missing : ¬ map.contains key = true := by simp [contains, absent]
  simp [insert, missing]

/-- A new key adds its value to the values. -/
theorem values_insert_of_absent (map : Bindings Key Value) (key : Key) (value : Value)
    (absent : map.find? key = none) : (map.insert key value).values = value :: map.values := by
  rw [values, entries_insert_of_absent map key value absent]
  rfl

/-- A new key is added to the keys. -/
theorem keys_insert_of_absent (map : Bindings Key Value) (key : Key) (value : Value)
    (absent : map.find? key = none) : (map.insert key value).keys = key :: map.keys := by
  rw [keys, entries_insert_of_absent map key value absent]
  rfl

/-- A removal takes the binding of its key out of the bindings. -/
theorem entries_perm_erase (map : Bindings Key Value) (key : Key) (value : Value)
    (found : map.find? key = some value) :
    map.entries.Perm ((key, value) :: (map.erase key).entries) := by
  have entries : ∀ entries : List (Key × Value), (entries.map Prod.fst).Nodup →
      (key, value) ∈ entries →
        entries.Perm ((key, value) :: entries.filter fun entry => entry.1 ≠ key) := by
    intro entries
    induction entries with
    | nil => intro _ member; cases member
    | cons entry entries inductionHypothesis =>
      intro unique member
      obtain ⟨fresh, unique⟩ := List.nodup_cons.mp unique
      rcases List.mem_cons.mp member with rfl | later
      · have rest : (entries.filter fun entry => entry.1 ≠ key) = entries := by
          rw [List.filter_eq_self]
          intro entry inside
          simp only [decide_eq_true_eq]
          intro same
          exact fresh (List.mem_map.mpr ⟨entry, inside, same⟩)
        rw [List.filter_cons_of_neg (by simp), rest]
      · have apart : entry.1 ≠ key := fun same =>
          fresh (List.mem_map.mpr ⟨(key, value), later, same.symm⟩)
        rw [List.filter_cons_of_pos (by simpa using apart)]
        exact ((inductionHypothesis unique later).cons entry).trans (List.Perm.swap _ _ _)
  exact entries map.entries map.keys_nodup (mem_entries_of_find? map key value found)

/-- A removal takes the value of its key out of the values. -/
theorem values_perm_erase (map : Bindings Key Value) (key : Key) (value : Value)
    (found : map.find? key = some value) : map.values.Perm (value :: (map.erase key).values) :=
  (entries_perm_erase map key value found).map Prod.snd

/-- A removal takes its key out of the keys. -/
theorem keys_perm_erase (map : Bindings Key Value) (key : Key)
    (bound : map.contains key = true) : map.keys.Perm (key :: (map.erase key).keys) := by
  obtain ⟨value, found⟩ := Option.isSome_iff_exists.mp bound
  exact (entries_perm_erase map key value found).map Prod.fst

end KeyValueServer.Bindings
