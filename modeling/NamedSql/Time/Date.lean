import NamedSql.Text.Basic

/-!
# Calendar dates

Dates of the proleptic Gregorian calendar from year 1 to year 9999, and their number of days since
the start of the calendar.
-/

namespace NamedSql

structure Date where
  year : Nat
  month : Nat
  day : Nat
  deriving DecidableEq

namespace Date

def isLeap (year : Nat) : Bool := year % 4 == 0 && (year % 100 != 0 || year % 400 == 0)

def daysInMonth (year month : Nat) : Nat :=
  if month = 2 then (if isLeap year then 29 else 28)
  else if month = 4 ∨ month = 6 ∨ month = 9 ∨ month = 11 then 30
  else 31

/-- The date, when it exists. -/
def ofParts? (year month day : Nat) : Option Date :=
  if 1 ≤ year ∧ year ≤ 9999 ∧ 1 ≤ month ∧ month ≤ 12 ∧ 1 ≤ day ∧ day ≤ daysInMonth year month then
    some ⟨year, month, day⟩
  else none

/-! ## Day numbers -/

/-- Days before the first of January. -/
def daysBeforeYear (year : Nat) : Nat :=
  let y := year - 1
  y * 365 + y / 4 - y / 100 + y / 400

def daysBeforeMonth (year month : Nat) : Nat :=
  (List.range (month - 1)).foldl (fun n m => n + daysInMonth year (m + 1)) 0

/-- The number of the day; the first of January of year 1 is day 1. -/
def toOrdinal (d : Date) : Nat :=
  daysBeforeYear d.year + daysBeforeMonth d.year d.month + d.day

/-- Month and day of the `n`-th day of a year, counted from zero, starting at `month`. -/
def monthDay (year : Nat) : (month fuel n : Nat) → Nat × Nat
  | month, 0, n => (month, n + 1)
  | month, fuel + 1, n =>
    if n < daysInMonth year month then (month, n + 1)
    else monthDay year (month + 1) fuel (n - daysInMonth year month)

/-- The date with a given day number. -/
def ofOrdinal? (n : Nat) : Option Date :=
  if n = 0 then none
  else
    let guess := (n - 1) * 400 / 146097 + 1
    let year := if n ≤ daysBeforeYear guess then guess - 1
      else if daysBeforeYear (guess + 1) < n then guess + 1 else guess
    let (month, day) := monthDay year 1 11 (n - 1 - daysBeforeYear year)
    ofParts? year month day

/-- The day of the week, Monday being 0. -/
def weekday (d : Date) : Nat := (d.toOrdinal + 6) % 7

/-! ## Weeks -/

/-- The day number of the Monday that starts week 1: the week with the year's first Thursday. -/
def firstMonday (year : Nat) : Nat :=
  let first := daysBeforeYear year + 1
  let w := (first + 6) % 7
  if 3 < w then first + 7 - w else first - w

/-- The date of a day given by year, week and day of the week, Monday being 1. -/
def ofWeek? (year week day : Nat) : Option Date :=
  let first := daysBeforeYear year + 1
  let w := (first + 6) % 7
  let long := w == 3 || (w == 2 && isLeap year)
  if 1 ≤ year ∧ year ≤ 9999 ∧ 1 ≤ week ∧ (week ≤ 52 ∨ (week = 53 ∧ long)) ∧ 1 ≤ day ∧ day ≤ 7 then
    ofOrdinal? (firstMonday year + (week - 1) * 7 + (day - 1))
  else none

end Date

end NamedSql
