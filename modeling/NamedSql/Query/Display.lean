import NamedSql.Query.Compiled
import NamedSql.Value.Display

/-!
# How queries are shown

A query and its segments are shown as the name of their kind with their parts in parentheses.
-/

namespace NamedSql

/-- A part of a shown value, with its name. -/
def displayPart (name : String) (shown : Text) : Text := name.toList ++ '=' :: shown

def Delimiter.displayScanner (d : Delimiter) : Text :=
  applied "PlaceholderLexer".toList [displayPart "delimiter" (quoted [d.char])]

def Segment.display : Segment → Text
  | literal text position =>
    applied "Literal".toList
      [displayPart "text" (quoted text), displayPart "position" (decimal position)]
  | placeholder name position ordinal text =>
    applied "Placeholder".toList
      [displayPart "name" (quoted name), displayPart "ordinal" (decimal ordinal),
        displayPart "placeholder_text" (quoted text), displayPart "position" (decimal position)]

def Scanned.display (q : Scanned) : Text :=
  applied "ScannedQuery".toList
    [displayPart "raw_sql" (quoted q.sql),
      displayPart "parameter_names" (Value.displayNames q.names)]

/-- A compiled query under the name of its kind. -/
def Compiled.display (kind : String) (q : Compiled) : Text :=
  applied kind.toList
    [displayPart "sql" (quoted q.sql), displayPart "parameter_names" (Value.displayNames q.names)]

end NamedSql
