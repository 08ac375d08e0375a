import NamedSql.Text.Basic

/-!
# Positional styles

The four ways in which a database driver wants the place of a value marked. Two styles write the
number of the occurrence after a lead character; the other two write the same marker every time.
-/

namespace NamedSql

inductive Style where
  | numeric
  | question
  | percent
  | colon
  deriving DecidableEq

namespace Style

def all : List Style := [numeric, question, percent, colon]

/-- The word by which a configuration names the style. -/
def name : Style → Text
  | numeric => "numeric".toList
  | question => "qmark".toList
  | percent => "pyformat_positional".toList
  | colon => "positional_colon".toList

/-- The constant by which a program names the style. -/
def constantName : Style → Text
  | numeric => "NUMERIC".toList
  | question => "QMARK".toList
  | percent => "POSITIONAL_PYFORMAT".toList
  | colon => "POSITIONAL_COLON".toList

def ofName? (s : Text) : Option Style := all.find? (·.name = s)

/-- The character that every marker of the style starts with. -/
def lead : Style → Char
  | numeric => '$'
  | question => '?'
  | percent => '%'
  | colon => ':'

/-- Whether markers carry the number of their occurrence. -/
def isSequential : Style → Bool
  | numeric | colon => true
  | question | percent => false

/-- The marker of the `n`-th occurrence. -/
def marker (style : Style) (n : Nat) : Text :=
  style.lead :: match style with
    | numeric | colon => decimal n
    | question => []
    | percent => ['s']

theorem ofName?_name (style : Style) : ofName? style.name = some style := by
  cases style <;> decide

end Style

end NamedSql
