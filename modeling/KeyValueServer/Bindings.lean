/-!
# Finite maps as lists of bindings

A finite map with at most one binding for every key. The observations are `find?` and `size`; every
operation comes with its effect on both. The order of the list is not part of the meaning.
-/

namespace KeyValueServer

/-- A finite map from keys to values. -/
structure Bindings (Key Value : Type) where
  entries : List (Key × Value)
  keys_nodup : (entries.map Prod.fst).Nodup

namespace Bindings

variable {Key Value : Type}

/-- The map without bindings. -/
def empty : Bindings Key Value := ⟨[], by simp⟩

instance : Inhabited (Bindings Key Value) := ⟨empty⟩

/-- The number of keys with a value. -/
def size (map : Bindings Key Value) : Nat := map.entries.length

@[simp] theorem size_empty : (empty : Bindings Key Value).size = 0 := rfl

/-- The keys with a value. -/
def keys (map : Bindings Key Value) : List Key := map.entries.map Prod.fst

/-- The values, one for each key. -/
def values (map : Bindings Key Value) : List Value := map.entries.map Prod.snd

variable [DecidableEq Key]

/-- The value that the first binding of a key in a list gives it. -/
def lookup (key : Key) : List (Key × Value) → Option Value
  | [] => none
  | (name, value) :: entries => if key = name then some value else lookup key entries

/-- The value of a key. -/
def find? (map : Bindings Key Value) (key : Key) : Option Value :=
  lookup key map.entries

/-- Whether a key has a value. -/
def contains (map : Bindings Key Value) (key : Key) : Bool :=
  (map.find? key).isSome

/-- The bindings with a new value for a key that has one. -/
def replaced (key : Key) (value : Value) (entries : List (Key × Value)) : List (Key × Value) :=
  entries.map fun entry => if entry.1 = key then (key, value) else entry

theorem keys_replaced (key : Key) (value : Value) (entries : List (Key × Value)) :
    (replaced key value entries).map Prod.fst = entries.map Prod.fst := by
  simp only [replaced, List.map_map]
  apply List.map_congr_left
  intro entry _
  by_cases same : entry.1 = key <;> simp [same]

/-- A key has a value exactly when it is among the keys. -/
theorem lookup_isSome_iff (entries : List (Key × Value)) (key : Key) :
    (lookup key entries).isSome ↔ key ∈ entries.map Prod.fst := by
  induction entries with
  | nil => simp [lookup]
  | cons entry entries found =>
    obtain ⟨name, held⟩ := entry
    by_cases same : key = name <;> simp [lookup, same, found]

/-- Gives a key a value, in place of the one it may have. -/
def insert (map : Bindings Key Value) (key : Key) (value : Value) : Bindings Key Value :=
  if present : map.contains key then
    ⟨replaced key value map.entries, by rw [keys_replaced]; exact map.keys_nodup⟩
  else
    ⟨(key, value) :: map.entries, by
      have absent : key ∉ map.entries.map Prod.fst := by
        rw [← lookup_isSome_iff]
        simpa [contains, find?] using present
      exact List.nodup_cons.mpr ⟨absent, map.keys_nodup⟩⟩

/-- Takes the value of a key away. -/
def erase (map : Bindings Key Value) (key : Key) : Bindings Key Value :=
  ⟨map.entries.filter fun entry => entry.1 ≠ key,
    (List.filter_sublist.map Prod.fst).nodup map.keys_nodup⟩

@[simp] theorem find?_empty (key : Key) : (empty : Bindings Key Value).find? key = none := rfl

theorem lookup_replaced (key other : Key) (value : Value) (entries : List (Key × Value)) :
    lookup other (replaced key value entries) =
      if other = key then (lookup key entries).map fun _ => value else lookup other entries := by
  induction entries with
  | nil => simp [replaced, lookup]
  | cons entry entries rest =>
    obtain ⟨name, held⟩ := entry
    simp only [replaced, List.map_cons] at rest ⊢
    by_cases same : name = key
    · subst same
      by_cases asked : other = name <;> simp [lookup, asked, rest]
    · have apart : ¬ key = name := fun equal => same equal.symm
      by_cases asked : other = key
      · subst asked
        simp [lookup, same, apart, rest]
      · simp [lookup, same, asked, rest]

theorem lookup_filter (key other : Key) (entries : List (Key × Value)) :
    lookup other (entries.filter fun entry => entry.1 ≠ key) =
      if other = key then none else lookup other entries := by
  induction entries with
  | nil => simp [lookup]
  | cons entry entries rest =>
    obtain ⟨name, held⟩ := entry
    by_cases same : name = key
    · subst same
      by_cases asked : other = name
      · simpa [asked] using rest
      · simpa [lookup, asked] using rest
    · by_cases found : other = name
      · subst found
        simp [lookup, same]
      · simpa [lookup, same, found] using rest

theorem length_filter (key : Key) (entries : List (Key × Value))
    (unique : (entries.map Prod.fst).Nodup) :
    (entries.filter fun entry => entry.1 ≠ key).length =
      if (lookup key entries).isSome then entries.length - 1 else entries.length := by
  induction entries with
  | nil => simp [lookup]
  | cons entry entries rest =>
    obtain ⟨name, held⟩ := entry
    obtain ⟨absent, unique⟩ := List.nodup_cons.mp unique
    have rest := rest unique
    by_cases same : name = key
    · subst same
      have missing : ¬ (lookup name entries).isSome := fun present =>
        absent ((lookup_isSome_iff entries name).mp present)
      simp only [missing] at rest
      simpa [lookup] using rest
    · have apart : ¬ key = name := fun equal => same equal.symm
      by_cases present : (lookup key entries).isSome
      · have nonempty : 0 < entries.length := by
          cases entries with
          | nil => simp [lookup] at present
          | cons _ _ => simp
        rw [if_pos present] at rest
        rw [List.filter_cons_of_pos (by simpa using same), List.length_cons, rest]
        simp only [lookup, if_neg apart, if_pos present, List.length_cons]
        omega
      · rw [if_neg present] at rest
        rw [List.filter_cons_of_pos (by simpa using same), List.length_cons, rest]
        simp only [lookup, if_neg apart, if_neg present, List.length_cons]

/-- After an insertion the key has the new value, and no other key is affected. -/
theorem find?_insert (map : Bindings Key Value) (key other : Key) (value : Value) :
    (map.insert key value).find? other = if other = key then some value else map.find? other := by
  unfold insert
  split
  case isTrue present =>
    obtain ⟨old, held⟩ := Option.isSome_iff_exists.mp present
    simp only [find?] at held
    simp [find?, lookup_replaced, held]
  case isFalse _ =>
    by_cases asked : other = key <;> simp [find?, lookup, asked]

/-- After a removal the key has no value, and no other key is affected. -/
theorem find?_erase (map : Bindings Key Value) (key other : Key) :
    (map.erase key).find? other = if other = key then none else map.find? other :=
  lookup_filter key other map.entries

/-- An insertion adds a key unless the key had a value. -/
theorem size_insert (map : Bindings Key Value) (key : Key) (value : Value) :
    (map.insert key value).size = if map.contains key then map.size else map.size + 1 := by
  unfold insert
  split <;> simp [size, replaced]

/-- A removal takes away one key if the key had a value. -/
theorem size_erase (map : Bindings Key Value) (key : Key) :
    (map.erase key).size = if map.contains key then map.size - 1 else map.size :=
  length_filter key map.entries map.keys_nodup

end Bindings

end KeyValueServer
