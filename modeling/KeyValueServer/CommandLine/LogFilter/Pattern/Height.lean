/-!
# Heights of expressions

How deeply the parts of an expression are nested. A row of parts is known by the number of its
parts and the height of the highest. A row of several parts is one higher than that, and a single
part stands for itself.
-/

namespace KeyValueServer.LogFilter.Pattern

/-- A row of parts. -/
structure Row where
  count : Nat
  /-- The height of the highest part. -/
  highest : Nat
  deriving DecidableEq, Repr

namespace Row

/-- The row without parts. -/
def empty : Row := ⟨0, 0⟩

/-- A row with a part of the given height behind it. -/
def push (row : Row) (height : Nat) : Row := ⟨row.count + 1, max row.highest height⟩

/-- A row whose last part has grown to the given height. -/
def raise (row : Row) (height : Nat) : Row := { row with highest := max row.highest height }

/-- The height of a row. -/
def height (row : Row) : Nat := if row.count ≤ 1 then row.highest else row.highest + 1

example : (empty.push 3).height = 3 ∧ ((empty.push 3).push 0).height = 4 := by decide

end Row

end KeyValueServer.LogFilter.Pattern
