import Mathlib.Data.List.Forall2
import KeyValueServer.Command

/-!
# Which requests are commands

A request is a command by its shape: an array of strings, of which the first is the name of the
command, letter by letter, and the others are as many as it takes. `IsForm` says this without the
decoder. `ofValue` accepts exactly these requests: every other value, whatever is nested in it, is
an error.
-/

namespace KeyValueServer

/-- A value that stands for a byte string: a bulk string, or a status text as its bytes. -/
inductive Value.Spells : Value → List UInt8 → Prop
  | bulk (bytes : List UInt8) : Spells (.bulk bytes) bytes
  | simple (text : String) : Spells (.simple text) (Utf8.encode text)

/-- The bytes of a value are those that it spells. -/
theorem Value.bytes?_eq_some_iff (value : Value) (bytes : List UInt8) :
    value.bytes? = some bytes ↔ value.Spells bytes := by
  constructor
  · intro found
    cases value with
    | bulk content =>
      obtain rfl := Option.some.inj found
      exact .bulk content
    | simple text =>
      obtain rfl := Option.some.inj found
      exact .simple text
    | error | integer | null | array => cases found
  · rintro (_ | _) <;> rfl

namespace Command

/-- The requests that stand for commands. -/
inductive IsForm : Value → Command → Prop
  /-- A look-up takes a key. -/
  | get (name key : Value) (bytes : List UInt8) (named : name.Spells (Utf8.encode "GET"))
      (isKey : key.Spells bytes) : IsForm (.array [name, key]) (.get bytes)
  /-- An insertion takes a key and its value. -/
  | set (name key value : Value) (bytes content : List UInt8)
      (named : name.Spells (Utf8.encode "SET")) (isKey : key.Spells bytes)
      (isValue : value.Spells content) : IsForm (.array [name, key, value]) (.set bytes content)
  /-- A removal takes at least one key. -/
  | delete (name : Value) (arguments : List Value) (keys : List (List UInt8))
      (named : name.Spells (Utf8.encode "DEL")) (present : arguments ≠ [])
      (areKeys : List.Forall₂ Value.Spells arguments keys) :
      IsForm (.array (name :: arguments)) (.delete keys)

/-- A word names a verb if it is the name of the verb, and only then. -/
theorem Verb.ofToken?_eq_some_iff (token : List UInt8) (verb : Verb) :
    ofToken? token = some verb ↔ token = Utf8.encode verb.name := by
  constructor
  · intro found
    rw [ofToken?] at found
    have named := List.find?_some found
    exact (of_decide_eq_true named).symm
  · rintro rfl
    cases verb <;> decide

/-- An argument is accepted if it is a string. -/
theorem argument_eq_ok_iff (failure : Error) (value : Value) (bytes : List UInt8) :
    argument failure value = .ok bytes ↔ value.Spells bytes := by
  rw [← Value.bytes?_eq_some_iff, argument]
  cases value.bytes? <;> simp

/-- Keys are accepted if all of them are strings. -/
theorem keysFrom_eq_ok_iff (found : List (List UInt8)) (values : List Value)
    (keys : List (List UInt8)) :
    keysFrom found values = .ok keys ↔
      ∃ others, List.Forall₂ Value.Spells values others ∧ keys = found.reverse ++ others := by
  induction values generalizing found with
  | nil => simp [keysFrom, eq_comm]
  | cons value values inductionHypothesis =>
    simp only [keysFrom]
    cases first : argument .badKey value with
    | error failure =>
      -- No list of keys begins with a value that spells nothing.
      refine ⟨nofun, ?_⟩
      rintro ⟨_, forms, _⟩
      cases forms with
      | cons isKey _ =>
        rw [(argument_eq_ok_iff .badKey value _).mpr isKey] at first
        cases first
    | ok key =>
      have isKey := (argument_eq_ok_iff .badKey value key).mp first
      refine (inductionHypothesis (key :: found)).trans ⟨?_, ?_⟩
      · rintro ⟨others, areKeys, rfl⟩
        exact ⟨key :: others, .cons isKey areKeys, by simp⟩
      · rintro ⟨_, forms, rfl⟩
        cases forms with
        | @cons _ other _ others isKeyToo areKeys =>
          have same := (argument_eq_ok_iff .badKey value other).mpr isKeyToo
          obtain rfl := Except.ok.inj (first.symm.trans same)
          exact ⟨others, areKeys, by simp⟩

/-- Behind a name of a verb the arguments decide. -/
theorem ofValue_named (verb : Verb) (name : Value) (arguments : List Value)
    (named : name.Spells (Utf8.encode verb.name)) :
    ofValue (.array (name :: arguments)) = ofArguments verb arguments := by
  have token := (Verb.ofToken?_eq_some_iff _ verb).mpr rfl
  simp only [ofValue, (Value.bytes?_eq_some_iff name _).mpr named, token]

/-- A request that is accepted has a name of a verb and arguments that the verb takes. -/
theorem named_of_ofValue (request : Value) (command : Command)
    (accepted : ofValue request = .ok command) :
    ∃ verb name arguments, request = .array (name :: arguments) ∧
      name.Spells (Utf8.encode verb.name) ∧ ofArguments verb arguments = .ok command := by
  unfold ofValue at accepted
  split at accepted
  · next name arguments =>
    split at accepted
    · cases accepted
    · next token spelled =>
      split at accepted
      · cases accepted
      · next verb known =>
        obtain rfl := (Verb.ofToken?_eq_some_iff token verb).mp known
        exact ⟨verb, name, arguments, rfl, (Value.bytes?_eq_some_iff name _).mp spelled, accepted⟩
  · cases accepted

/-- The decoder accepts exactly the requests that stand for commands. -/
theorem ofValue_eq_ok_iff (request : Value) (command : Command) :
    ofValue request = .ok command ↔ IsForm request command := by
  constructor
  · intro accepted
    obtain ⟨verb, name, arguments, rfl, named, taken⟩ := named_of_ofValue request command accepted
    unfold ofArguments at taken
    split at taken
    · next key =>
      split at taken
      · cases taken
      · next bytes isKey =>
        obtain rfl := Except.ok.inj taken
        exact .get name key bytes named ((argument_eq_ok_iff _ key bytes).mp isKey)
    · cases taken
    · next key value =>
      split at taken
      · cases taken
      · cases taken
      · next bytes content isKey isValue =>
        obtain rfl := Except.ok.inj taken
        exact .set name key value bytes content named ((argument_eq_ok_iff _ key bytes).mp isKey)
          ((argument_eq_ok_iff _ value content).mp isValue)
    · cases taken
    · cases taken
    · next present =>
      split at taken
      · cases taken
      · next keys areKeys =>
        obtain rfl := Except.ok.inj taken
        obtain ⟨_, forms, rfl⟩ := (keysFrom_eq_ok_iff [] arguments keys).mp areKeys
        exact .delete name arguments _ named present forms
  · intro form
    cases form with
    | get name key bytes named isKey =>
      rw [ofValue_named .get name _ named]
      simp only [ofArguments, (argument_eq_ok_iff _ key bytes).mpr isKey]
    | set name key value bytes content named isKey isValue =>
      rw [ofValue_named .set name _ named]
      simp only [ofArguments, (argument_eq_ok_iff _ key bytes).mpr isKey,
        (argument_eq_ok_iff _ value content).mpr isValue]
    | delete name arguments keys named present areKeys =>
      rw [ofValue_named .delete name _ named]
      have read := (keysFrom_eq_ok_iff [] arguments keys).mpr ⟨keys, areKeys, rfl⟩
      obtain ⟨first, others, rfl⟩ := List.exists_cons_of_ne_nil present
      simp only [ofArguments, read]

end Command

end KeyValueServer
