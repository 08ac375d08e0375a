import NamedSql.Error.Fault
import NamedSql.Json.Numeral
import NamedSql.Record.Field
import NamedSql.Text.Base64
import NamedSql.Text.Case
import NamedSql.Text.Utf8

/-!
# Converting values to field types

Each family of record classes converts the values of a row in its own way. Structs accept texts
that spell a value of the type, models are more liberal, and structured attrs classes apply the
constructor of the type to whatever they are given. What cannot be converted has no value.
-/

namespace NamedSql.Convert

/-- The members of the enumeration that fields of the type `member` take. -/
def colors : List Member :=
  [⟨"Color".toList, "RED".toList, "red".toList⟩, ⟨"Color".toList, "GREEN".toList, "green".toList⟩]

def color? (s : Text) : Option Value := (colors.find? (·.value = s)).map .member

/-- A member of the enumeration, or the text of one. -/
def member? : Value → Option Value
  | .member m => some (.member m)
  | v => v.asText?.bind color?

def lowerAscii (s : Text) : Text := s.map Char.toLower

/-- An identifier as such, in its sixteen octets, or in the form with or without hyphens. -/
def uuid? : Value → Option Value
  | .uuid n => some (.uuid n)
  | .text s => (Uuid.ofStrictText? s).map .uuid
  | .bytes bs => if bs.length = 16 then
      some (.uuid (bs.foldl (fun n b => 256 * n + b.toNat) 0)) else none
  | _ => none

/-- A date written with four, two and two digits. -/
def extendedDate? (s : Text) : Option Date :=
  if s.length = 10 ∧ s[4]? = some '-' ∧ s[7]? = some '-' then Iso.date? s else none

/-- A time of day written with seconds. -/
def extendedClock? (s : Text) : Option Clock :=
  if s[2]? = some ':' ∧ s[5]? = some ':' then Iso.clockPart? s else none

/-- A date and a time of day in their extended forms. -/
def extendedTimestamp? (s : Text) : Option Timestamp := do
  let date ← extendedDate? (s.take 10)
  match s.drop 10 with
  | sep :: rest =>
    if sep = 'T' ∨ sep = 't' ∨ sep = ' ' then some ⟨date, ← extendedClock? rest⟩ else none
  | [] => none

/-! ## Structs -/

def structInt? : Value → Option Int
  | .int i => some i
  | .text s => match Json.Numeral.read? s with
    | some (n, []) => n.integral?
    | _ => none
  | _ => none

def structBool? : Value → Option Bool
  | .bool b => some b
  | .int 0 => some false
  | .int 1 => some true
  | .text s =>
    match String.ofList (lowerAscii s) with
    | "0" | "false" => some false
    | "1" | "true" => some true
    | _ => none
  | _ => none

/-- The elements of a list or tuple, each converted to an integer. -/
def intList? (int? : Value → Option Int) : Value → Option Value
  | .list vs | .tuple vs => (vs.mapM int?).map fun is => .list (is.map .int)
  | _ => none

def struct? : FieldType → Value → Option Value
  | .any, v => some v
  | .int, v => (structInt? v).map .int
  | .text, .text s => some (.text s)
  | .bool, v => (structBool? v).map .bool
  | .bytes, .bytes bs => some (.bytes bs)
  | .bytes, .text s => (Base64.decode? s).map .bytes
  | .optionalInt, .null => some .null
  | .optionalInt, v =>
    if v.asText?.map lowerAscii = some "null".toList then some .null else (structInt? v).map .int
  | .optionalText, .null => some .null
  | .optionalText, .text s => some (.text s)
  | .intList, v => intList? structInt? v
  | .uuid, v => uuid? v
  | .date, .date d => some (.date d)
  | .date, .text s => (extendedDate? s).map .date
  | .timestamp, .timestamp t => some (.timestamp t)
  | .timestamp, .text s => (extendedTimestamp? s).map .timestamp
  | .time, .time t => some (.time t)
  | .time, .text s => (extendedClock? s).map .time
  | .member, v => member? v
  | .path, .path p => some (.path p)
  | .path, .text s => some (.path (.ofText s))
  | _, _ => none

/-! ## Models -/

/-- An integer with single underscores, or with a fraction of zeros. -/
def modelNumeral? (s : Text) : Option Int :=
  let isAsciiSpace (c : Char) : Bool := c == ' ' || ('\t' ≤ c && c ≤ '\r')
  let s := ((s.dropWhile isAsciiSpace).reverse.dropWhile isAsciiSpace).reverse
  let whole := s.takeWhile (· != '.')
  let tail := s.dropWhile (· != '.')
  if s.all (·.toNat < 128) ∧ tail.tail.all (· == '0') then (readInt whole).toOption else none

def modelInt? : Value → Option Int
  | .int i => some i
  | .bool b => some (if b then 1 else 0)
  | .decimal (.finite n c e) => (Decimal.finite n c e).truncate?.filter fun i =>
      (Value.decimal (.finite n c e)).same (.int i)
  | .text s => modelNumeral? s
  | .bytes bs => (Utf8.decode? bs).bind modelNumeral?
  | _ => none

def modelBool? : Value → Option Bool
  | .bool b => some b
  | .int 0 => some false
  | .int 1 => some true
  | .text s =>
    match String.ofList (lowerAscii s) with
    | "0" | "off" | "f" | "false" | "n" | "no" => some false
    | "1" | "on" | "t" | "true" | "y" | "yes" => some true
    | _ => none
  | _ => none

def modelText? : Value → Option Value
  | .text s => some (.text s)
  | .bytes bs => (Utf8.decode? bs).map .text
  | .style s => some (.text s.name)
  | _ => none

def model? : FieldType → Value → Option Value
  | .any, v => some v
  | .int, v => (modelInt? v).map .int
  | .text, v => modelText? v
  | .bool, v => (modelBool? v).map .bool
  | .bytes, .bytes bs => some (.bytes bs)
  | .bytes, .text s => some (.bytes (Utf8.encode s))
  | .optionalInt, .null => some .null
  | .optionalInt, v => (modelInt? v).map .int
  | .optionalText, .null => some .null
  | .optionalText, v => modelText? v
  | .intList, v => intList? modelInt? v
  | .uuid, .text s => (Uuid.ofText? s).map .uuid
  | .uuid, v => uuid? v
  | .date, .date d => some (.date d)
  | .date, .timestamp t => if t.clock = Clock.midnight then some (.date t.date) else none
  | .date, .text s => (extendedDate? s).map .date
  | .timestamp, .timestamp t => some (.timestamp t)
  | .timestamp, .date d => some (.timestamp ⟨d, Clock.midnight⟩)
  | .timestamp, .text s => (Iso.timestamp? s).map .timestamp
  | .time, .time t => some (.time t)
  | .time, .text s => (Iso.clock? s).map .time
  | .member, v => member? v
  | .path, .path p => some (.path p)
  | .path, .text s => some (.path (.ofText s))
  | _, _ => none

/-! ## Structured attrs classes -/

def constructedInt? : Value → Option Int
  | .int i => some i
  | .bool b => some (if b then 1 else 0)
  | .decimal d => d.truncate?
  | .uuid n => some n
  | .text s => (readInt s).toOption
  | .style s => (readInt s.name).toOption
  | .bytes bs => (readInt (bs.map fun b => Char.ofNat b.toNat)).toOption
  | _ => none

/-- The integers of a list, or those that the characters of a text stand for. -/
def constructedList? : Value → Option Value
  | .text s => intList? constructedInt? (.list (s.map fun c => .text [c]))
  | v => intList? constructedInt? v

def structured? : FieldType → Value → Option Value
  | .any, v => some v
  | .int, v => (constructedInt? v).map .int
  | .text, v => some (.text v.toText)
  | .bool, v => some (.bool v.isTrue)
  | .bytes, .bytes bs => some (.bytes bs)
  | .optionalInt, .null => some .null
  | .optionalInt, v => (constructedInt? v).map .int
  | .optionalText, .null => some .null
  | .optionalText, v => some (.text v.toText)
  | .intList, v => constructedList? v
  | .uuid, .text s => (Uuid.ofText? s).map .uuid
  | .member, v => member? v
  | .path, .path p => some (.path p)
  | .path, .text s => some (.path (.ofText s))
  | _, _ => none

/-! ## Single values -/

/-- How a single value that is no text fails as the text of an identifier: some kinds of value have
a method of the name that is used, and refuse its arguments. -/
def identifierFault : Value → FaultKind
  | .null | .bytes _ | .date _ | .time _ | .timestamp _ => .type
  | _ => .noAttribute

def identifier : Value → Except FaultKind Value
  | .uuid n => .ok (.uuid n)
  | v => match v.asText? with
    | some s => (Uuid.ofText? s).elim (.error .value) (.ok ∘ .uuid)
    | none => .error (identifierFault v)

/-- A value read from its text, which must be one. -/
def fromText {α : Type} (read? : Text → Option α) (wrap : α → Value) (v : Value) :
    Except FaultKind Value :=
  match v.asText? with
  | none => .error .type
  | some s => (read? s).elim (.error .value) (.ok ∘ wrap)

/-- A single value decoded to a type. Dates and times are read only when `readTimes` asks for it,
and types that need no decoding leave the value as it is. -/
def single (readTimes : Bool) (t : FieldType) (v : Value) : Except FaultKind Value :=
  match t, v with
  | .uuid, v => identifier v
  | .any, _ => .error .type
  | .member, .member m => .ok (.member m)
  | .member, .style s => .ok (.style s)
  | .member, v => (member? v).elim (.error .value) .ok
  | .path, .path p => .ok (.path p)
  | .path, v => fromText (some ∘ Path.ofText) .path v
  | .date, .date d => .ok (.date d)
  | .date, .timestamp d => .ok (.timestamp d)
  | .date, v => if readTimes then fromText Iso.date? .date v else .ok v
  | .timestamp, .timestamp d => .ok (.timestamp d)
  | .timestamp, v => if readTimes then fromText Iso.timestamp? .timestamp v else .ok v
  | .time, .time d => .ok (.time d)
  | .time, v => if readTimes then fromText Iso.clock? .time v else .ok v
  | _, v => .ok v

end NamedSql.Convert
