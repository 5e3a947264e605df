/-!
# Character classes by switch points

A class of code points is written as the ascending list of points where membership changes: outside
below the first, inside from the first, outside again from the second. A code point belongs to the
class iff the number of switch points at or below it is odd.
-/

set_option autoImplicit false

namespace RecordSchema.Text

/-- How many entries of an ascending table are at most `x`, given that those before `lo` are and
those from `hi` on are not. -/
def countUpTo (table : Array Nat) (x lo hi : Nat) : Nat :=
  if lo < hi then
    let mid := (lo + hi) / 2
    if table.getD mid 0 ≤ x then countUpTo table x (mid + 1) hi else countUpTo table x lo mid
  else lo
termination_by hi - lo

/-- Membership in the class with the given switch points. -/
def inClass (switches : Array Nat) (c : Char) : Bool :=
  countUpTo switches c.toNat 0 switches.size % 2 == 1

end RecordSchema.Text
