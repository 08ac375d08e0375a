import NamedSql.Text.Quoted
import NamedSql.Time.Iso
import NamedSql.Value.Basic
import NamedSql.Value.Uuid

/-!
# How values are shown

Two texts of a value: `display` shows what the value is, with texts in quotes, and `toText` is the
plain text of the value, which differs for texts, dates, identifiers and the like.
-/

namespace NamedSql

/-! ## Dates and times -/

/-- The name of a class and its arguments between parentheses. -/
def applied (name : Text) (args : List Text) : Text :=
  name ++ '(' :: joinText [',', ' '] args ++ [')']

/-- A span of time in days, seconds and microseconds, of which only the days may be negative. -/
def displaySpan (micros : Int) : Text :=
  let days := micros / Clock.microsPerDay
  let rest := (micros % Clock.microsPerDay).toNat
  let part (name : String) (n : Int) : List Text :=
    if n = 0 then [] else [name.toList ++ '=' :: decimalInt n]
  let parts := part "days" days ++ part "seconds" (rest / 1000000 : Nat) ++
    part "microseconds" (rest % 1000000 : Nat)
  applied "datetime.timedelta".toList (if parts.isEmpty then [['0']] else parts)

def clockArgs (t : Clock) : List Text :=
  [decimal t.hour, decimal t.minute] ++
  (if t.micro ≠ 0 then [decimal t.second, decimal t.micro]
  else if t.second ≠ 0 then [decimal t.second] else []) ++
  match t.offset with
  | none => []
  | some 0 => ["tzinfo=datetime.timezone.utc".toList]
  | some o => ["tzinfo=".toList ++ applied "datetime.timezone".toList [displaySpan o]]

def dateArgs (d : Date) : List Text := [decimal d.year, decimal d.month, decimal d.day]

namespace Value

/-! ## The two texts -/

/-- An element of an enumeration with its name and value. -/
def displayMember (type name value : Text) : Text :=
  '<' :: type ++ '.' :: name ++ ':' :: ' ' :: quoted value ++ ['>']

mutual

def display : Value → Text
  | null => "None".toList
  | bool b => if b then "True".toList else "False".toList
  | int i => decimalInt i
  | text s => quoted s
  | bytes bs => quotedBytes bs
  | uuid n => applied "UUID".toList [quoted (Uuid.toText n)]
  | date d => applied "datetime.date".toList (dateArgs d)
  | time t => applied "datetime.time".toList (clockArgs t)
  | timestamp s => applied "datetime.datetime".toList (dateArgs s.date ++ clockArgs s.clock)
  | decimal d => applied "Decimal".toList [quoted d.toText]
  | path p => applied "PurePosixPath".toList [quoted p.toText]
  | member m => displayMember m.type m.name m.value
  | style s => displayMember "ParameterStyle".toList s.constantName s.name
  | object _ => "<Opaque object>".toList
  | tuple [v] => '(' :: v.display ++ [',', ')']
  | tuple vs => '(' :: joinText [',', ' '] (displayAll vs) ++ [')']
  | list vs => '[' :: joinText [',', ' '] (displayAll vs) ++ [']']
  | map entries => '\x7b' :: joinText [',', ' '] (displayEntries entries) ++ ['\x7d']
  | cls name => "<class ".toList ++ quoted name ++ ['>']
  | other type => '<' :: type ++ " object>".toList

def displayAll : List Value → List Text
  | [] => []
  | v :: vs => v.display :: displayAll vs

def displayEntries : List (Text × Value) → List Text
  | [] => []
  | (k, v) :: entries => (quoted k ++ ':' :: ' ' :: v.display) :: displayEntries entries

end

def toText : Value → Text
  | text s => s
  | uuid n => Uuid.toText n
  | date d => Iso.dateText d
  | time t => Iso.clockText t
  | timestamp s => Iso.timestampText ' ' s
  | decimal d => d.toText
  | path p => p.toText
  | member m => m.type ++ '.' :: m.name
  | style s => s.name
  | object shown => shown
  | v => v.display

/-- Names in parentheses, as an argument list: one name is followed by a comma. -/
def displayNames (names : List Text) : Text := (tuple (names.map text)).display

end Value

end NamedSql
