/-!
# Sets of code points

A set of code points as a table of closed ranges in ascending order, and the search in it. The order
is what lets the search pass over the other half.
-/

namespace KeyValueServer.Ranges

/-- Closed ranges of code points, in ascending order. -/
abbrev Table := Array (Nat × Nat)

/-- The search from place `low` to the one in front of `high`, in at most `steps` halvings. -/
def search (table : Table) (code : Nat) (low high : Nat) : Nat → Bool
  | 0 => false
  | steps + 1 =>
    if low < high then
      let middle := (low + high) / 2
      match table[middle]? with
      | none => false
      | some range =>
        if code < range.1 then search table code low middle steps
        else if range.2 < code then search table code (middle + 1) high steps
        else true
    else false

/-- Whether a table holds a code point. -/
def holds (table : Table) (code : Nat) : Bool := search table code 0 table.size table.size

example : holds #[(2, 3), (7, 7), (9, 12)] 7 = true := by decide

example : holds #[(2, 3), (7, 7), (9, 12)] 8 = false := by decide

end KeyValueServer.Ranges
