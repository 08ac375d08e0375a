import NamedSql.Record.Field

/-!
# Log events

What the library reports while it works: the logger that reports, how grave the event is, a
message and named fields. Names of loggers form a tree below one root.
-/

namespace NamedSql

/-- Gravity as a number; the named levels are multiples of ten. -/
abbrev Level := Int

namespace Level

def debug : Level := 10

def info : Level := 20

def warning : Level := 30

/-- The names by which a level is asked for. -/
def named : List (Text × Level) :=
  [("CRITICAL".toList, 50), ("FATAL".toList, 50), ("ERROR".toList, 40), ("WARN".toList, 30),
    ("WARNING".toList, 30), ("INFO".toList, 20), ("DEBUG".toList, 10), ("NOTSET".toList, 0)]

def ofName? (s : Text) : Option Level := named.lookup s

/-- The name that an event shows; a number without a name is shown with the number. -/
def name (l : Level) : Text :=
  if l = 50 then "CRITICAL".toList
  else if l = 40 then "ERROR".toList
  else if l = 30 then "WARNING".toList
  else if l = 20 then "INFO".toList
  else if l = 10 then "DEBUG".toList
  else if l = 0 then "NOTSET".toList
  else "Level ".toList ++ decimalInt l

end Level

structure LogEvent where
  logger : Text
  level : Level
  message : Text
  fields : Entries
  correlation : Option Text

def rootLogger : Text := "orava".toList

/-- The full name of a logger, given with or without the root. -/
def loggerName (name : Option Text) : Text :=
  match name with
  | none | some [] => rootLogger
  | some s =>
    if s = rootLogger ∨ (rootLogger ++ ['.']).isPrefixOf s then s else rootLogger ++ '.' :: s

/-- An identifier that counts: an empty one is as good as none. -/
def correlationOf (id : Option Text) : Option Text := id.filter (!·.isEmpty)

/-- The events that are not below a level; without a level there are none. -/
def LogEvent.notBelow (level : Option Level) (es : List LogEvent) : List LogEvent :=
  match level with
  | some l => es.filter fun e => decide (l ≤ e.level)
  | none => []

/-- An event that reports a detail of the library's own work. -/
def LogEvent.detail (logger message : String) (fields : Entries) : LogEvent :=
  ⟨loggerName (some logger.toList), .debug, message.toList, fields, none⟩

end NamedSql
