import NamedSql.Log.Format

/-!
# Where an event comes from

The time of an event in milliseconds since the start of 1970, in universal time, and the place in a
program that reported it: the name of the file without its directory and extension, the function
and the line.
-/

namespace NamedSql.Log

/-- The ordinal of the first of January 1970. -/
def epochOrdinal : Int := 719163

/-- The moment at a number of milliseconds since 1970. -/
def moment? (millis : Int) : Option Timestamp := do
  let day := millis / 86400000
  let rest := (millis % 86400000).toNat
  let date ← Date.ofOrdinal? (epochOrdinal + day).toNat
  some ⟨date, ⟨rest / 3600000, rest / 60000 % 60, rest / 1000 % 60, rest % 1000 * 1000, none⟩⟩

def dayNames : List String :=
  ["Monday", "Tuesday", "Wednesday", "Thursday", "Friday", "Saturday", "Sunday"]

def monthNames : List String :=
  ["January", "February", "March", "April", "May", "June", "July", "August", "September",
    "October", "November", "December"]

def secondsText (t : Timestamp) : Text :=
  Iso.dateText t.date ++ ' ' :: Iso.localText { t.clock with micro := 0 }

/-- The time as it is written by default, to the millisecond. -/
def defaultTime (t : Timestamp) : Text :=
  secondsText t ++ ',' :: Iso.padded 3 (t.clock.micro / 1000)

/-- What a letter after a percent sign stands for in a time format. -/
def timePart? (t : Timestamp) (c : Char) : Option Text :=
  let d := t.date
  let k := t.clock
  let hour12 := if k.hour % 12 = 0 then 12 else k.hour % 12
  let dayName := (dayNames.getD (d.weekday) "").toList
  let monthName := (monthNames.getD (d.month - 1) "").toList
  let clock := Iso.localText { k with micro := 0 }
  if c == 'Y' then some (decimal d.year)
  else if c == 'm' then some (Iso.padded 2 d.month)
  else if c == 'd' then some (Iso.padded 2 d.day)
  else if c == 'H' then some (Iso.padded 2 k.hour)
  else if c == 'M' then some (Iso.padded 2 k.minute)
  else if c == 'S' then some (Iso.padded 2 k.second)
  else if c == 'y' then some (Iso.padded 2 (d.year % 100))
  else if c == 'j' then some (Iso.padded 3 (d.toOrdinal - Date.daysBeforeYear d.year))
  else if c == 'I' then some (Iso.padded 2 hour12)
  else if c == 'p' then some (if k.hour < 12 then ['A', 'M'] else ['P', 'M'])
  else if c == 'a' then some (dayName.take 3)
  else if c == 'A' then some dayName
  else if c == 'b' || c == 'h' then some (monthName.take 3)
  else if c == 'B' then some monthName
  else if c == 'F' then some (Iso.dateText d)
  else if c == 'T' then some clock
  else if c == 'R' then some (clock.take 5)
  else if c == 'Z' then some ['G', 'M', 'T']
  else if c == 'z' then some ['+', '0', '0', '0', '0']
  else if c == '%' then some ['%']
  else none

/-- A time in a given format; what is no part of a time stands for itself. -/
def formatTime (t : Timestamp) : Text → Text
  | '%' :: c :: s => (timePart? t c).getD ['%', c] ++ formatTime t s
  | c :: s => c :: formatTime t s
  | [] => []

/-- The name of the file at the end of a path, without its last extension. A name that starts with
points has no extension there. -/
def moduleName (path : Text) : Text :=
  let file := (path.reverse.takeWhile (· != '/')).reverse
  let body := file.dropWhile (· == '.')
  let lead := file.takeWhile (· == '.')
  if body.contains '.' then
    lead ++ ((body.reverse.dropWhile (· != '.')).drop 1).reverse
  else file

/-- The identifier that a line shows: that of the event, or else that of the context. A filter
copies the identifier of the context to the event, and the context may be cleared after that. -/
def shownCorrelation (event context : Option Text) (filtered cleared : Bool) : Option Text :=
  let event := if filtered then correlationOf context <|> event else event
  correlationOf event <|> if cleared then none else correlationOf context

def sourceText (path : Text) (function : Option Text) (line : Int) : Text :=
  moduleName path ++ ':' :: (function.getD "None".toList) ++ ':' :: decimalInt line

end NamedSql.Log
