import KeyValueServer.Text.Utf8

/-!
# Values of the wire protocol

Requests and replies are values of one type. A request is an array of bulk strings; a reply is any
of the shapes below. Equality of values is decidable by a comparison that walks both trees.
-/

namespace KeyValueServer

/-- A value that a client or the server sends. -/
inductive Value where
  /-- A short status text; a line break in it does not survive the wire. -/
  | simple (text : String)
  /-- A failure report, with the same limit on its text. -/
  | error (text : String)
  | integer (number : Int64)
  /-- A byte string without any limit on its bytes. -/
  | bulk (bytes : List UInt8)
  /-- The absent value. -/
  | null
  | array (elements : List Value)

namespace Value

/-- The reply to a command that has nothing else to say. -/
def ok : Value := .simple "OK"

/-- Whether this is the absent value. -/
def isNull : Value → Bool
  | .null => true
  | _ => false

/-- Whether this is a failure report. -/
def isError : Value → Bool
  | .error _ => true
  | _ => false

/-- The bytes of a string value, bulk or simple. -/
def bytes? : Value → Option (List UInt8)
  | .bulk bytes => some bytes
  | .simple text => some (Utf8.encode text)
  | _ => none

mutual

/-- Whether two values are the same tree. -/
def same : Value → Value → Bool
  | .simple left, .simple right => left == right
  | .error left, .error right => left == right
  | .integer left, .integer right => left == right
  | .bulk left, .bulk right => left == right
  | .null, .null => true
  | .array left, .array right => sameAll left right
  | _, _ => false

/-- Whether two lists hold the same trees in the same order. -/
def sameAll : List Value → List Value → Bool
  | [], [] => true
  | left :: lefts, right :: rights => left.same right && sameAll lefts rights
  | _, _ => false

end

mutual

/-- The comparison accepts equal trees only. -/
theorem eq_of_same : ∀ {left right : Value}, left.same right = true → left = right
  | .simple _, right, agreed => by cases right <;> simp_all [same]
  | .error _, right, agreed => by cases right <;> simp_all [same]
  | .integer _, right, agreed => by cases right <;> simp_all [same]
  | .bulk _, right, agreed => by cases right <;> simp_all [same]
  | .null, right, agreed => by cases right <;> simp_all [same]
  | .array lefts, right, agreed => by
    cases right with
    | array rights =>
      simp only [same] at agreed
      rw [eq_of_sameAll agreed]
    | _ => simp [same] at agreed

/-- The comparison of lists accepts equal lists only. -/
theorem eq_of_sameAll : ∀ {lefts rights : List Value}, sameAll lefts rights = true → lefts = rights
  | [], [], _ => rfl
  | left :: lefts, right :: rights, agreed => by
    simp only [sameAll, Bool.and_eq_true] at agreed
    rw [eq_of_same agreed.1, eq_of_sameAll agreed.2]
  | [], _ :: _, agreed => by simp [sameAll] at agreed
  | _ :: _, [], agreed => by simp [sameAll] at agreed

end

mutual

/-- The comparison accepts every tree against itself. -/
theorem same_self : ∀ value : Value, value.same value = true
  | .simple _ | .error _ | .integer _ | .bulk _ | .null => by simp [same]
  | .array elements => by simpa [same] using sameAll_self elements

/-- The comparison of lists accepts every list against itself. -/
theorem sameAll_self : ∀ values : List Value, sameAll values values = true
  | [] => by simp [sameAll]
  | value :: values => by simp [sameAll, same_self value, sameAll_self values]

end

instance : DecidableEq Value := fun left right =>
  if agreed : left.same right = true then isTrue (eq_of_same agreed)
  else isFalse fun equal => agreed (equal ▸ same_self left)

instance : Inhabited Value := ⟨.null⟩

end Value

end KeyValueServer
