import NamedSql.Error.Fault
import NamedSql.Log.Format
import NamedSql.Text.Case

/-!
# Setting up logging

Setting the level of the root logger and its handlers. An event is let through when its level is
positive and not below that of the root logger; a root level of zero stands for the default one.
Every handler then receives it. Setting up is itself reported, as a detail at the debug level.
-/

namespace NamedSql.Log

/-- Logging as it was set up: the level and the number of handlers. -/
structure Setup where
  level : Level
  handlers : Nat
  structured : Bool

/-- The level that a number or a name asks for; names are taken in any case. -/
def levelOf (given : Value) : Except FaultKind Level :=
  match given.asInt?, given.asText? with
  | some l, _ => .ok l
  | none, some s => (Level.ofName? (upper s)).elim (.error .value) .ok
  | none, none => .error .type

namespace Setup

/-- The level below which events are dropped. -/
def effectiveLevel (s : Setup) : Level := if s.level = 0 then Level.warning else s.level

def admits (s : Setup) (l : Level) : Bool := decide (0 < l) && decide (s.effectiveLevel ≤ l)

/-- The report of the set-up itself. -/
def event (s : Setup) : LogEvent :=
  { logger := rootLogger
    level := .debug
    message := "orava logging configured".toList
    fields := [("level".toList, .text s.level.name), ("structured".toList, .bool s.structured),
      ("handler_count".toList, .int s.handlers)]
    correlation := none }

/-- What handlers receive when logging is set up a number of times and events are then reported. -/
def received (s : Setup) (times : Nat) (events : List LogEvent) : List LogEvent :=
  (List.replicate times s.event ++ events).filter fun e => s.admits e.level

/-- What the stream of a set-up is written, a line for each event that is received. -/
def lines (s : Setup) (received : List LogEvent) : List Text :=
  received.map fun e => if s.structured then structuredLine e ⟨[], [], none⟩ else plainLine e

end Setup

end NamedSql.Log
