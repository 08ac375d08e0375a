import NamedSql.Text.Alphanumeric
import NamedSql.Text.Blank

/-!
# Delimiters

The character that introduces a placeholder. It cannot be a quote, a blank or a character of a
name, so a name always ends before the next delimiter.
-/

namespace NamedSql

def isDelimiter (c : Char) : Bool := !(c == '\'' || c == '"' || isBlank c || isNameChar c)

structure Delimiter where
  char : Char
  valid : isDelimiter char = true
  deriving DecidableEq

namespace Delimiter

def ofChar? (c : Char) : Option Delimiter :=
  if h : isDelimiter c = true then some ⟨c, h⟩ else none

def colon : Delimiter := ⟨':', by decide⟩

theorem not_isNameChar (d : Delimiter) : isNameChar d.char = false := by
  have := d.valid
  simp_all [isDelimiter]

end Delimiter

end NamedSql
