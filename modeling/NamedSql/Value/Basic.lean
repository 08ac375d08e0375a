import NamedSql.Number.Decimal
import NamedSql.Query.Style
import NamedSql.Time.Clock
import NamedSql.Value.Path

/-!
# Values

The values that argument sources supply and databases return. Values are dynamic: a source gives
any value for a name, and only decoding into a record type converts it.
-/

namespace NamedSql

/-- A member of an enumeration whose members stand for texts. -/
structure Member where
  type : Text
  name : Text
  value : Text
  deriving DecidableEq

inductive Value where
  | null
  | bool (b : Bool)
  | int (i : Int)
  | text (s : Text)
  | bytes (bs : List UInt8)
  | uuid (n : Nat)
  | date (d : Date)
  | time (t : Clock)
  | timestamp (s : Timestamp)
  | decimal (d : Decimal)
  | path (p : Path)
  | member (m : Member)
  | style (s : Style)
  /-- An object of which only its text is known. -/
  | object (shown : Text)
  | tuple (vs : List Value)
  | list (vs : List Value)
  | map (entries : List (Text × Value))
  /-- A class as a value. -/
  | cls (name : Text)
  /-- Any other object, known by the name of its class. -/
  | other (type : Text)

instance : Inhabited Value := ⟨.null⟩

/-- An entry list with the value of a key replaced in its place, or added at the end. -/
def putEntry {κ α : Type} [DecidableEq κ] (key : κ) (v : α) : List (κ × α) → List (κ × α)
  | [] => [(key, v)]
  | (k, w) :: rest => if k = key then (k, v) :: rest else (k, w) :: putEntry key v rest

namespace Value

/-- Whether a value counts as true: zero, false and everything empty does not. -/
def isTrue : Value → Bool
  | null => false
  | bool b => b
  | int i => i != 0
  | text s => !s.isEmpty
  | bytes bs => !bs.isEmpty
  | decimal d => !d.isZero
  | tuple vs | list vs => !vs.isEmpty
  | map entries => !entries.isEmpty
  | _ => true

/-- The name of the class of a value. -/
def typeName : Value → Text
  | null => "NoneType".toList
  | bool _ => "bool".toList
  | int _ => "int".toList
  | text _ => "str".toList
  | bytes _ => "bytes".toList
  | uuid _ => "UUID".toList
  | date _ => "date".toList
  | time _ => "time".toList
  | timestamp _ => "datetime".toList
  | decimal _ => "Decimal".toList
  | path _ => "PurePosixPath".toList
  | member m => m.type
  | style _ => "ParameterStyle".toList
  | object _ => "Opaque".toList
  | tuple _ => "tuple".toList
  | list _ => "list".toList
  | map _ => "dict".toList
  | cls _ => "type".toList
  | other t => t

/-- The text of a value that is one: a style is the text of its name. -/
def asText? : Value → Option Text
  | text s => some s
  | style s => some s.name
  | _ => none

/-- The integer of a value that is one: true is one and false zero. -/
def asInt? : Value → Option Int
  | int i => some i
  | bool b => some (if b then 1 else 0)
  | _ => none

end Value

end NamedSql
