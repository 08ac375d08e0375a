import NamedSql.Text.Quoted
import NamedSql.Number.Numeral

/-!
# Universally unique identifiers

An identifier is a number of 128 bits, written as 32 hexadecimal digits in five groups. The liberal
reader drops the name of the scheme, braces at the ends and all hyphens; the strict one takes the
five groups, or the 32 digits without hyphens.
-/

namespace NamedSql.Uuid

def toText (n : Nat) : Text :=
  let ds := hexPadded 32 n
  joinText ['-']
    [ds.take 8, (ds.drop 8).take 4, (ds.drop 12).take 4, (ds.drop 16).take 4, ds.drop 20]

/-! ## Reading -/

def hexValue? (c : Char) : Option Nat :=
  if 'a' ≤ c ∧ c ≤ 'f' then some (c.toNat - 87)
  else if 'A' ≤ c ∧ c ≤ 'F' then some (c.toNat - 55)
  else decimalValue? c

def ofHexDigits (ds : List Nat) : Nat := ds.foldl (fun n d => 16 * n + d) 0

/-- Hexadecimal digits with single underscores between them. -/
def groupedHex? : Text → Option (List Nat)
  | [] => none
  | [c] => (hexValue? c).map ([·])
  | c :: '_' :: rest => do some ((← hexValue? c) :: (← groupedHex? rest))
  | c :: rest => do some ((← hexValue? c) :: (← groupedHex? rest))

/-- A hexadecimal numeral with an optional sign and base mark. -/
def readHex? (s : Text) : Option Nat :=
  let s := match strip s with
    | '+' :: rest => rest
    | rest => rest
  let s := match s with
    | '0' :: 'x' :: '_' :: rest | '0' :: 'X' :: '_' :: rest => rest
    | '0' :: 'x' :: rest | '0' :: 'X' :: rest => rest
    | rest => rest
  (groupedHex? s).map ofHexDigits

/-- The text without the occurrences of a pattern, read from left to right. -/
def erase (pattern : Text) (fuel : Nat) (s : Text) : Text :=
  match fuel with
  | 0 => s
  | fuel + 1 =>
    match splitAfter pattern s with
    | some (before, rest) => before.take (before.length - pattern.length) ++ erase pattern fuel rest
    | none => s

def isBrace (c : Char) : Bool := c == '\x7b' || c == '\x7d'

def ofText? (s : Text) : Option Nat :=
  let s := erase "uuid:".toList s.length (erase "urn:".toList s.length s)
  let s := ((s.dropWhile isBrace).reverse.dropWhile isBrace).reverse.filter (· != '-')
  if s.length = 32 then readHex? s else none

def ofStrictText? (s : Text) : Option Nat :=
  let hyphens := [8, 13, 18, 23].all fun i => s[i]? = some '-'
  let digits := if s.length = 36 ∧ hyphens then s.filter (· != '-') else s
  if digits.length = 32 ∧ digits.all fun c => c.toNat < 128 ∧ (hexValue? c).isSome then
    some (ofHexDigits (digits.filterMap hexValue?))
  else none

end NamedSql.Uuid
