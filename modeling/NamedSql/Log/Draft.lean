import NamedSql.Error.Cause
import NamedSql.Log.Message
import NamedSql.Log.Origin

/-!
# Reports before they are formatted

A report as a logger receives it: a message whose arguments are not in their places yet, with the
time and the place of the report and perhaps a failure. Formatting it gives a structured line, or
fails when the arguments do not fit the message.
-/

namespace NamedSql.Log

structure Draft where
  logger : Text
  level : Level
  message : Text
  arguments : List Value
  fields : Entries
  correlation : Option Text
  time : Timestamp
  /-- The format of the time; without one, or with an empty one, the time is written by default. -/
  timeFormat : Option Text
  path : Text
  function : Option Text
  line : Int
  failure : Option Failure

namespace Draft

def timestamp (d : Draft) : Text :=
  match d.timeFormat with
  | none | some [] => defaultTime d.time
  | some format => formatTime d.time format

def origin (d : Draft) : Origin :=
  ⟨d.timestamp, sourceText d.path d.function d.line, d.failure.map Failure.trace⟩

/-- The event that a report is, with the arguments in their places. -/
def event (d : Draft) : Except FaultKind LogEvent := do
  return ⟨d.logger, d.level, ← formatMessage d.message d.arguments, d.fields, d.correlation⟩

def structured (d : Draft) : Except FaultKind Text := do
  return structuredLine (← d.event) d.origin

end Draft

end NamedSql.Log
