import NamedSql.Number.Binary64
import NamedSql.Number.Numeral

/-!
# Numerals of JSON

A numeral has an optional minus sign, a whole part without superfluous zeros, and perhaps a
fraction and an exponent. Without these two it is an integer of any size; with them it is the
nearest floating-point number.
-/

namespace NamedSql.Json

structure Numeral where
  negative : Bool
  /-- The digits before and after the point. -/
  whole : List Nat
  fraction : List Nat
  exponent : Int
  isInteger : Bool

namespace Numeral

/-- The ASCII digits at the front of a text, and the rest of it. -/
def spanDigits (s : Text) : List Nat × Text :=
  ((s.takeWhile Char.isDigit).filterMap decimalValue?, s.dropWhile Char.isDigit)

def fraction? : Text → Option (List Nat × Text)
  | '.' :: s =>
    let (ds, rest) := spanDigits s
    if ds.isEmpty then none else some (ds, rest)
  | s => some ([], s)

/-- The exponent, which no exponent stands for zero. -/
def exponent? : Text → Option (Int × Text)
  | [] => some (0, [])
  | c :: s =>
    if c = 'e' ∨ c = 'E' then
      let (negative, s) := match s with
        | '-' :: s => (true, s)
        | '+' :: s => (false, s)
        | s => (false, s)
      let (ds, rest) := spanDigits s
      if ds.isEmpty then none
      else some (if negative then -(ofDigits ds : Int) else ofDigits ds, rest)
    else some (0, c :: s)

/-- The numeral at the front of a text, and the rest of it. -/
def read? (s : Text) : Option (Numeral × Text) := do
  let (negative, s) := match s with
    | '-' :: s => (true, s)
    | s => (false, s)
  let (whole, rest) := spanDigits s
  if whole.isEmpty ∨ (whole.length ≠ 1 ∧ whole.head? = some 0) then none
  else
    let (fraction, rest') ← fraction? rest
    let (exponent, rest'') ← exponent? rest'
    some (⟨negative, whole, fraction, exponent, rest.length = rest''.length⟩, rest'')

/-- The digits as one number; the value is this times ten to the power `scale`. -/
def coefficient (n : Numeral) : Nat := ofDigits (n.whole ++ n.fraction)

def scale (n : Numeral) : Int := n.exponent - n.fraction.length

/-- The value of an integer numeral. -/
def toInt (n : Numeral) : Int :=
  let m : Int := ofDigits n.whole
  if n.negative then -m else m

/-- The bits of the nearest floating-point number; `none` when it is too large. Numbers far out of
range are told by their order of magnitude alone. -/
def toBits? (n : Numeral) : Option Nat :=
  let c := n.coefficient
  let order : Int := (decimal c).length + n.scale
  let bits? :=
    if c = 0 ∨ order < -400 then some 0
    else if 400 < order then none
    else if 0 ≤ n.scale then Binary64.ofRatio? (c * Nat.pow 10 n.scale.toNat) 1
    else Binary64.ofRatio? c (Nat.pow 10 (-n.scale).toNat)
  bits?.map fun b => if n.negative then Binary64.negate b else b

/-- The largest integer up to which every integer is a floating-point number. -/
def exactLimit : Nat := Nat.pow 2 53

/-- The value of a numeral as an integer, also when it is written as a floating-point number with
an integral value of moderate size. -/
def integral? (n : Numeral) : Option Int :=
  let c := n.coefficient
  let signed (m : Nat) : Int := if n.negative then -m else m
  if n.isInteger then some n.toInt
  else if c = 0 then some 0
  else if (decimal c).length + n.scale < 0 ∨ 20 < (decimal c).length + n.scale then none
  else if 0 ≤ n.scale then
    let m := c * Nat.pow 10 n.scale.toNat
    if m ≤ exactLimit then some (signed m) else none
  else
    let d := Nat.pow 10 (-n.scale).toNat
    if c % d = 0 ∧ c / d ≤ exactLimit then some (signed (c / d)) else none

end Numeral

end NamedSql.Json
