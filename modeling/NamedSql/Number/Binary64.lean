/-!
# Binary floating point

A quotient of natural numbers rounded to the nearest binary64 number, ties to even, given by the
bits of that number. All arithmetic is exact, so the result is the correctly rounded one.
-/

namespace NamedSql.Binary64

/-- The quotient rounded to the nearest integer, ties to even. -/
def roundDiv (num den : Nat) : Nat :=
  let q := num / den
  let r := num % den
  if den < 2 * r || (2 * r == den && q % 2 == 1) then q + 1 else q

/-- The exponent of the power of two just below `num / den`. -/
def magnitude (num den : Nat) : Int :=
  let e : Int := (Nat.log2 num : Int) - Nat.log2 den
  let below := if 0 ≤ e then den * Nat.pow 2 e.toNat ≤ num else den ≤ num * Nat.pow 2 (-e).toNat
  if below then e else e - 1

/-- The bits of `num / den`; `none` when the quotient is too large. A subnormal number and a
significand that rounds up to the next power of two need no case of their own: both come out of
adding the significand to the exponent field. -/
def ofRatio? (num den : Nat) : Option Nat :=
  if num = 0 then some 0
  else
    let e := max (magnitude num den) (-1022)
    let shift := 52 - e
    let m := if 0 ≤ shift then roundDiv (num * Nat.pow 2 shift.toNat) den
      else roundDiv num (den * Nat.pow 2 (-shift).toNat)
    let bits := (e + 1022).toNat * Nat.pow 2 52 + m
    if 0x7FF * Nat.pow 2 52 ≤ bits then none else some bits

/-- The bits with the sign set. -/
def negate (bits : Nat) : Nat := bits + Nat.pow 2 63

/-- The bits of a quotient of integers with a positive divisor. -/
def ofIntRatio? (num : Int) (den : Nat) : Option Nat :=
  if num < 0 then (ofRatio? num.natAbs den).map negate else ofRatio? num.natAbs den

end NamedSql.Binary64
