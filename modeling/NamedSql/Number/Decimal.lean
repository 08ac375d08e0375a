import NamedSql.Number.Numeral

/-!
# Decimal numbers

A decimal number keeps its exponent, so that `1.50` and `1.5` are equal and written differently.
It is written positionally unless its exponent is positive or its first digit stands more than six
places after the point.
-/

namespace NamedSql

inductive Decimal where
  | finite (negative : Bool) (coefficient : Nat) (exponent : Int)
  | infinite (negative : Bool)
  | nan (negative signaling : Bool) (payload : Text)
  deriving DecidableEq, Repr

namespace Decimal

def signText (negative : Bool) : Text := if negative then ['-'] else []

/-- The digits with the point after the first `place` of them. -/
def placed (ds : Text) (place : Int) : Text :=
  if place ≤ 0 then '0' :: '.' :: (List.replicate (-place).toNat '0' ++ ds)
  else if (ds.length : Int) ≤ place then
    ds ++ List.replicate (place.toNat - ds.length) '0'
  else ds.take place.toNat ++ '.' :: ds.drop place.toNat

def toText : Decimal → Text
  | infinite n => signText n ++ "Infinity".toList
  | nan n s payload => signText n ++ (if s then "sNaN".toList else "NaN".toList) ++ payload
  | finite n c e =>
    let ds := decimal c
    let left := e + ds.length
    if e ≤ 0 && -6 < left then signText n ++ placed ds left
    else
      let power := left - 1
      signText n ++ placed ds 1 ++
        (if power = 0 then [] else 'E' :: (if 0 ≤ power then ['+'] else []) ++ decimalInt power)

/-- The integer nearest to zero within one of the number. -/
def truncate? : Decimal → Option Int
  | finite n c e =>
    let m := if 0 ≤ e then c * Nat.pow 10 e.toNat else c / Nat.pow 10 (-e).toNat
    some (if n then -m else m)
  | _ => none

def isZero : Decimal → Bool
  | finite _ c _ => c == 0
  | _ => false

/-- The digits at the front of a text, and the rest of it. -/
def spanDigits (s : Text) : List Nat × Text :=
  ((s.takeWhile isDecimal).filterMap decimalValue?, s.dropWhile isDecimal)

def exponent? : Text → Option Int
  | [] => some 0
  | c :: rest =>
    if c = 'e' ∨ c = 'E' then
      let (negative, digits) := match rest with
        | '-' :: r => (true, r)
        | '+' :: r => (false, r)
        | r => (false, r)
      let (ds, tail) := spanDigits digits
      if ds.isEmpty || !tail.isEmpty then none
      else some (if negative then -(ofDigits ds : Int) else ofDigits ds)
    else none

def ofUnsigned? (negative : Bool) (s : Text) : Option Decimal :=
  let (whole, rest) := spanDigits s
  let (fraction, rest) := match rest with
    | '.' :: r => spanDigits r
    | r => ([], r)
  if whole.isEmpty && fraction.isEmpty then
    let word := s.map Char.toLower
    if word = "inf".toList ∨ word = "infinity".toList then some (infinite negative)
    else if "nan".toList.isPrefixOf word && (s.drop 3).all isDecimal then
      some (nan negative false (s.drop 3))
    else if "snan".toList.isPrefixOf word && (s.drop 4).all isDecimal then
      some (nan negative true (s.drop 4))
    else none
  else (exponent? rest).map fun e =>
    finite negative (ofDigits (whole ++ fraction)) (e - fraction.length)

/-- The number that a text writes. -/
def ofText? (s : Text) : Option Decimal :=
  match (strip s).filter (· != '_') with
  | '-' :: rest => ofUnsigned? true rest
  | '+' :: rest => ofUnsigned? false rest
  | rest => ofUnsigned? false rest

end Decimal

end NamedSql
