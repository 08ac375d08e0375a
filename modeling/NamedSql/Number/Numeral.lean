import NamedSql.Text.Blank
import NamedSql.Text.Digit

/-!
# Numerals

Reading integers. A numeral may use the decimal digits of any script, may be set off by blanks and
carry a sign, and may group its digits by single underscores. The number of digits is limited, as
the time to read them grows faster than their number.
-/

namespace NamedSql

def maxNumeralDigits : Nat := 4300

/-- The number that a list of digits stands for, the most significant first. -/
def ofDigits (ds : List Nat) : Nat := ds.foldl (fun n d => 10 * n + d) 0

/-- Digits with single underscores between them. -/
def groupedDigits? : Text → Option (List Nat)
  | [] => none
  | [c] => (decimalValue? c).map ([·])
  | c :: '_' :: rest => do some ((← decimalValue? c) :: (← groupedDigits? rest))
  | c :: rest => do some ((← decimalValue? c) :: (← groupedDigits? rest))

/-- Why a numeral cannot be read. -/
inductive NumeralFault where
  | malformed
  | tooLong
  deriving DecidableEq, Repr

def readNat (s : Text) : Except NumeralFault Nat :=
  match groupedDigits? s with
  | none => .error .malformed
  | some ds => if maxNumeralDigits < ds.length then .error .tooLong else .ok (ofDigits ds)

def readInt (s : Text) : Except NumeralFault Int :=
  match strip s with
  | '-' :: rest => (readNat rest).map fun n => -(n : Int)
  | '+' :: rest => (readNat rest).map (↑·)
  | rest => (readNat rest).map (↑·)

end NamedSql
