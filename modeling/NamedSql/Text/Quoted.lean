import NamedSql.Text.Printable

/-!
# Quoted text

How a text is shown inside a message: between single quotes, or between double quotes when it
holds a single quote and no double one. The quote in use and the backslash are escaped by a
backslash, and an unprintable character is written by its code point, in as many hexadecimal
digits as its size asks for.
-/

namespace NamedSql

/-- A number in hexadecimal, filled with zeros to `width` digits. -/
def hexPadded (width n : Nat) : Text :=
  let ds := Nat.toDigits 16 n
  List.replicate (width - ds.length) '0' ++ ds

def quoteFor (s : Text) : Char :=
  if s.contains '\'' && !s.contains '"' then '"' else '\''

/-- The escape sequence of a character that is not shown as itself. -/
def codeEscape (c : Char) : Text :=
  if c == '\n' then ['\\', 'n']
  else if c == '\r' then ['\\', 'r']
  else if c == '\t' then ['\\', 't']
  else if c.toNat < 0x100 then '\\' :: 'x' :: hexPadded 2 c.toNat
  else if c.toNat < 0x10000 then '\\' :: 'u' :: hexPadded 4 c.toNat
  else '\\' :: 'U' :: hexPadded 8 c.toNat

def quotedChar (quote c : Char) : Text :=
  if c == quote || c == '\\' then ['\\', c]
  else if isPrintable c then [c]
  else codeEscape c

def quoted (s : Text) : Text :=
  quoteFor s :: s.flatMap (quotedChar (quoteFor s)) ++ [quoteFor s]

/-- Octets are shown as the text of their ASCII characters, marked by a `b`. -/
def quotedBytes (bs : List UInt8) : Text :=
  let s := bs.map fun b => Char.ofNat b.toNat
  let q := quoteFor s
  let shown (c : Char) : Text :=
    if c == q || c == '\\' then ['\\', c]
    else if 32 ≤ c.toNat && c.toNat < 127 then [c]
    else codeEscape c
  'b' :: q :: s.flatMap shown ++ [q]

end NamedSql
