import NamedSql.Query.Segment
import NamedSql.Value.Equal

/-!
# Comparing segments

A segment may be compared with anything. It is equal to a segment that agrees with it in every part
and to nothing else, so a literal never equals a placeholder. Two things can be counted as members
of a set when both can be keys, and then they count once exactly if they are equal.
-/

namespace NamedSql

/-- What takes part in a comparison with segments. -/
inductive Comparand where
  | segment (s : Segment)
  | value (v : Value)

namespace Comparand

def isKey : Comparand → Bool
  | segment _ => true
  | value v => v.isKey

def same : Comparand → Comparand → Bool
  | segment s, segment t => s = t
  | value v, value w => v.same w
  | _, _ => false

/-- The number of members of the set of two, if they can be in one. -/
def countDistinct? (a b : Comparand) : Option Nat :=
  if a.isKey && b.isKey then some (if a.same b then 1 else 2) else none

end Comparand

end NamedSql
