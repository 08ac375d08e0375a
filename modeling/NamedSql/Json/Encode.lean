import NamedSql.Text.Base64
import NamedSql.Value.Display

/-!
# Values as JSON

A value is written without spaces and with the keys of a map in their order. Quotes, backslashes and
control characters of a text are escaped. Octets are written in Base64, tuples as arrays, and every
other value that JSON does not know as its text.
-/

namespace NamedSql.Json

def escapedChar (c : Char) : Text :=
  if c == '"' then ['\\', '"']
  else if c == '\\' then ['\\', '\\']
  else if c == '\x08' then ['\\', 'b']
  else if c == '\x0c' then ['\\', 'f']
  else if c == '\n' then ['\\', 'n']
  else if c == '\r' then ['\\', 'r']
  else if c == '\t' then ['\\', 't']
  else if c.toNat < 0x20 then '\\' :: 'u' :: hexPadded 4 c.toNat
  else [c]

def encodeText (s : Text) : Text := '"' :: s.flatMap escapedChar ++ ['"']

/-- A time of day; no offset from universal time is written as the letter `Z`. -/
def clockText (t : Clock) : Text :=
  if t.offset = some 0 then Iso.localText t ++ ['Z'] else Iso.clockText t

mutual

def encode : Value → Text
  | .null => "null".toList
  | .bool b => if b then "true".toList else "false".toList
  | .int i => decimalInt i
  | .bytes bs => encodeText (Base64.encode bs)
  | .time t => encodeText (clockText t)
  | .timestamp s => encodeText (Iso.dateText s.date ++ 'T' :: clockText s.clock)
  | .member m => encodeText m.value
  | .tuple vs | .list vs => '[' :: joinText [','] (encodeAll vs) ++ [']']
  | .map es => '\x7b' :: joinText [','] (encodeEntries es) ++ ['\x7d']
  | v => encodeText v.toText

def encodeAll : List Value → List Text
  | [] => []
  | v :: vs => encode v :: encodeAll vs

def encodeEntries : List (Text × Value) → List Text
  | [] => []
  | (k, v) :: es => (encodeText k ++ ':' :: encode v) :: encodeEntries es

end

end NamedSql.Json
