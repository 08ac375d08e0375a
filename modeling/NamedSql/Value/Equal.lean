import NamedSql.Value.Basic

/-!
# Equality of values

When two values count as the same. Numbers are compared by value, whatever they are written as;
truth values are the numbers one and zero; times with an offset are compared by the moment they
name; maps are compared without their order; and a style is the text of its name. Objects that
are known only by a text are never the same.
-/

namespace NamedSql

/-- A decimal number without the zeros that its coefficient ends in: sign, digits and exponent. -/
structure Magnitude where
  negative : Bool
  digits : Text
  exponent : Int
  deriving DecidableEq

namespace Magnitude

def ofParts (negative : Bool) (coefficient : Nat) (exponent : Int) : Magnitude :=
  let ds := (decimal coefficient).reverse
  let zeros := ds.takeWhile (· == '0')
  if coefficient = 0 then ⟨false, ['0'], 0⟩
  else ⟨negative, (ds.drop zeros.length).reverse, exponent + zeros.length⟩

end Magnitude

namespace Clock

/-- Microseconds since midnight. -/
def micros (t : Clock) : Int := ((t.hour * 60 + t.minute) * 60 + t.second) * 1000000 + t.micro

/-- Microseconds since midnight in universal time, and whether the offset is known. -/
def moment (t : Clock) : Int × Bool := (t.micros - t.offset.getD 0, t.offset.isSome)

end Clock

namespace Value

def magnitude? : Value → Option Magnitude
  | bool b => some (.ofParts false b.toNat 0)
  | int i => some (.ofParts (i < 0) i.natAbs 0)
  | decimal (.finite n c e) => some (.ofParts n c e)
  | _ => none

/-- Whether two values without parts are the same. -/
def sameLeaf : Value → Value → Bool
  | null, null => true
  | bytes a, bytes b => a = b
  | uuid a, uuid b => a = b
  | date a, date b => a = b
  | time a, time b => a.moment = b.moment
  | timestamp a, timestamp b =>
    let at' (s : Timestamp) := s.date.toOrdinal * Clock.microsPerDay + s.clock.moment.1
    at' a = at' b && a.clock.offset.isSome = b.clock.offset.isSome
  | decimal (.infinite a), decimal (.infinite b) => a = b
  | path a, path b => a = b
  | member a, member b => a = b
  | cls a, cls b => a = b
  | v, w =>
    match v.asText?, w.asText? with
    | some a, some b => a = b
    | _, _ => match v.magnitude?, w.magnitude? with
      | some a, some b => a = b
      | _, _ => false

mutual

def same : Value → Value → Bool
  | tuple vs, w => match w with
    | tuple ws => sameAll vs ws
    | _ => false
  | list vs, w => match w with
    | list ws => sameAll vs ws
    | _ => false
  | map es, w => match w with
    | map fs => es.length = fs.length && sameEntries es fs
    | _ => false
  | v, w => sameLeaf v w

def sameAll : List Value → List Value → Bool
  | [], ws => ws.isEmpty
  | v :: vs, ws => match ws with
    | w :: ws => v.same w && sameAll vs ws
    | [] => false

/-- Whether every entry has the same value in a second list. -/
def sameEntries : List (Text × Value) → List (Text × Value) → Bool
  | [], _ => true
  | (k, v) :: es, fs => (match fs.lookup k with
    | some w => v.same w
    | none => false) && sameEntries es fs

end

/-- Whether a value can be a key: lists and maps, and tuples with such parts, cannot. -/
def isKey : Value → Bool
  | list _ | map _ => false
  | tuple vs => vs.attach.all fun ⟨v, _⟩ => v.isKey
  | _ => true

end Value

end NamedSql
