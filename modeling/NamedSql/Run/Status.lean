import NamedSql.Error.Fault
import NamedSql.Number.Numeral

/-!
# Command status

A database answers a command with a status: a word of letters, perhaps a number that is passed
over, and the number of affected rows, with blanks between them. A status of another form counts as
no rows.
-/

namespace NamedSql

/-- The letters of a status word. Letter case is ignored, so the signs whose lower or upper case is
a letter of ASCII count too. -/
def isStatusLetter (c : Char) : Bool :=
  ('A' ≤ c && c ≤ 'Z') || ('a' ≤ c && c ≤ 'z') ||
    c == 'İ' || c == 'ı' || c == 'ſ' || c == '\u212a'

/-- The digits after at least one blank, and the rest. -/
def blanksThenDigits? (s : Text) : Option (Text × Text) :=
  let rest := s.dropWhile isBlank
  if rest.length = s.length then none
  else if (rest.takeWhile isDecimal).isEmpty then none
  else some (rest.takeWhile isDecimal, rest.dropWhile isDecimal)

/-- The digits of the number of affected rows in a status without blanks at its ends. -/
def statusDigits? (s : Text) : Option Text :=
  if (s.takeWhile isStatusLetter).isEmpty then none
  else match blanksThenDigits? (s.dropWhile isStatusLetter) with
    | none => none
    | some (ds, []) => some ds
    | some (_, rest) => match blanksThenDigits? rest with
      | some (ds, []) => some ds
      | _ => none

/-- The number of affected rows that a status tells. A number too long to be read is a fault. -/
def statusCount (s : Text) : Except Fault Nat :=
  match statusDigits? (strip s) with
  | none => .ok 0
  | some ds => match readNat ds with
    | .ok n => .ok n
    | .error _ => .error (.ofKind .value)

end NamedSql
