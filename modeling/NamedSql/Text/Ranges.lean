import NamedSql.Text.Basic

/-!
# Sets of code points

A property of characters is a table of inclusive ranges in increasing order.
-/

namespace NamedSql

abbrev RangeTable := List (Nat × Nat)

namespace RangeTable

/-- The start of the range that holds `n`. -/
def block? (t : RangeTable) (n : Nat) : Option Nat :=
  (t.find? fun r => r.1 ≤ n && n ≤ r.2).map (·.1)

def contains (t : RangeTable) (n : Nat) : Bool := t.any fun r => r.1 ≤ n && n ≤ r.2

end RangeTable

end NamedSql
