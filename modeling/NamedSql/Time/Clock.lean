import NamedSql.Time.Date

/-!
# Times of day

A time of day to the microsecond, with an optional offset from universal time.
-/

namespace NamedSql

structure Clock where
  hour : Nat
  minute : Nat
  second : Nat
  micro : Nat
  /-- The offset from universal time in microseconds, when it is known. -/
  offset : Option Int
  deriving DecidableEq

namespace Clock

def midnight : Clock := ⟨0, 0, 0, 0, none⟩

def microsPerDay : Int := 86400000000

/-- The time of day, when its parts are in range and the offset is shorter than a day. -/
def ofParts? (hour minute second micro : Nat) (offset : Option Int) : Option Clock :=
  let inRange := offset.all fun o => o.natAbs < microsPerDay.toNat
  if hour < 24 ∧ minute < 60 ∧ second < 60 ∧ micro < 1000000 ∧ inRange then
    some ⟨hour, minute, second, micro, offset⟩
  else none

end Clock

/-- The moment at which a clock shows a time on a date. -/
structure Timestamp where
  date : Date
  clock : Clock
  deriving DecidableEq

end NamedSql
