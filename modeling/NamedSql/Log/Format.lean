import NamedSql.Json.Encode
import NamedSql.Log.Event

/-!
# Formats of log lines

A structured line is one JSON object: when, how grave, where from and what, then the correlation
identifier, the fields of the event and the error. A field under the name of an earlier entry
replaces its value in its place, and a long query is cut. A plain line is the time followed by the
same in words.
-/

namespace NamedSql.Log

def maxQueryLength : Nat := 200

/-- A query cut to the length that is logged. -/
def shortened (sql : Text) : Text :=
  if sql.length ≤ maxQueryLength then sql else sql.take maxQueryLength ++ "...".toList

/-- A value under the name of a query, cut to the length that is logged. -/
def shortenEntry (e : Text × Value) : Text × Value :=
  match e with
  | (k, .text s) => if k = "sql".toList then (k, .text (shortened s)) else (k, .text s)
  | e => e

/-- What a formatter knows of an event besides the event. -/
structure Origin where
  timestamp : Text
  source : Text
  error : Option Text

/-- The entries of a structured line. -/
def entries (e : LogEvent) (origin : Origin) : Entries :=
  let head : Entries :=
    [("timestamp".toList, .text origin.timestamp), ("level".toList, .text e.level.name),
      ("logger".toList, .text e.logger), ("message".toList, .text e.message),
      ("source".toList, .text origin.source)]
  let known := match e.correlation with
    | some id => if id.isEmpty then head else head ++ [("correlation_id".toList, .text id)]
    | none => head
  let merged := e.fields.foldl (fun es f => putEntry f.1 f.2 es) known
  let cut := if e.fields.isEmpty then merged else merged.map shortenEntry
  match origin.error with
  | some text => putEntry "exception".toList (.text text) cut
  | none => cut

def structuredLine (e : LogEvent) (origin : Origin) : Text := Json.encode (.map (entries e origin))

/-- A plain line without the time in front. -/
def plainLine (e : LogEvent) : Text :=
  e.level.name ++ ' ' :: '[' :: e.logger ++ ']' :: ' ' :: e.message

end NamedSql.Log
