import NamedSql.Rows.Scan
import NamedSql.Session.Binding

/-!
# Runs

A run is a step of a session that also calls a database. Next to the state of the session it keeps
the events of the step: what was asked of the querier, the calls that the database received, the
opening and closing of whatever has to be closed again, and what happened to the rows.

**Cursors** are numbered as they are opened. The row source over a cursor remembers whether it was
closed, so that its cursor is closed by the first time only (`OpenRows.close`).

**Coroutines** (`Run.coroutine`). A run that awaits something is a coroutine, and what is raised in
it leaves as it leaves a coroutine.
-/

namespace NamedSql

/-- A call that a database receives. -/
inductive Call where
  | query (sql : Text) (parameters : List Value)
  | execute (sql : Text) (parameters : List Value)
  | prepare (sql : Text)
  | fetch (parameters : List Value)

inductive RunEvent where
  /-- A querier is asked to run a statement with its values. -/
  | request (operation : Operation) (b : Bound)
  | call (c : Call)
  /-- There is now a row source without a cursor that has to be closed. -/
  | opened
  | cursorOpened (n : Nat)
  | cursorClosed (n : Nat)
  | rows (e : RowEvent)

structure Progress where
  state : State
  events : List RunEvent
  /-- How many cursors there are. -/
  cursors : Nat
  /-- Whether the row source over a cursor says that it is closed. -/
  isClosed : Nat → Bool

def Progress.initial (state : State) : Progress := ⟨state, [], 0, fun _ => false⟩

abbrev Run := ExceptT Failure (StateM Progress)

/-- Rows that can still be read, and the cursor that they come from, if there is one. -/
structure OpenRows where
  source : RowSource
  cursor? : Option Nat

namespace Run

def note (e : RunEvent) : Run Unit := modify fun p => { p with events := p.events ++ [e] }

def ofSession {α : Type} (step : Session α) : Run α :=
  fun p => let (r, state) := step.run p.state; (r, { p with state })

/-- Goes on after a step, whether the step failed or not. -/
def ensuring {α : Type} (last : Run Unit) (step : Run α) : Run α := do
  let a ← try step catch e =>
    last
    throw e
  last
  return a

def coroutine {α : Type} (step : Run α) : Run α :=
  tryCatch step fun e => throw (e.outOf .coroutine)

def openCursor : Run Nat :=
  modifyGet fun p => (p.cursors, { p with
    events := p.events ++ [.cursorOpened p.cursors], cursors := p.cursors + 1 })

/-- Says of the row source over a cursor whether it is closed. -/
def mark (n : Nat) (closed : Bool) : Run Unit :=
  modify fun p => { p with isClosed := fun m => if m = n then closed else p.isClosed m }

end Run

namespace OpenRows

/-- The row source over an executed cursor. -/
def ofCursor (source : RowSource) (n : Nat) : Run OpenRows := do
  Run.mark n false
  return ⟨source, some n⟩

/-- Closes rows. Their cursor is closed with them, unless they were closed before. -/
def close (rows : OpenRows) : Run Unit := do
  Run.note (.rows .close)
  if let some n := rows.cursor? then
    unless (← get).isClosed n do
      Run.mark n true
      Run.note (.cursorClosed n)

/-- What a scan does to its source happens to the rows. -/
def follow (rows : OpenRows) : RowEvent → Run Unit
  | .close => rows.close
  | e => Run.note (.rows e)

def closeTimes (rows : OpenRows) : Nat → Run Unit
  | 0 => return ()
  | n + 1 => do
    rows.close
    rows.closeTimes n

/-- A scan of rows that are open. -/
def scan {α : Type} (rows : OpenRows) (scan : RowSource → Scan α) : Run α := do
  let (r, es) := (scan rows.source).run []
  es.forM rows.follow
  liftM r

end OpenRows

namespace RunEvent

def request? : RunEvent → Option (Operation × Bound)
  | request operation b => some (operation, b)
  | _ => none

def call? : RunEvent → Option Call
  | call c => some c
  | _ => none

def row? : RunEvent → Option RowEvent
  | rows e => some e
  | _ => none

def opening? : RunEvent → Option Nat
  | cursorOpened n => some n
  | _ => none

def closing? : RunEvent → Option Nat
  | cursorClosed n => some n
  | _ => none

def isOpening : RunEvent → Bool
  | opened => true
  | _ => false

/-- How often the events close cursors, when they open any, and otherwise how often they close rows,
when these have to be closed. -/
def closings? (es : List RunEvent) : Option Nat :=
  if (es.filterMap opening?).isEmpty then
    if es.any isOpening then some ((es.filterMap row?).count .close) else none
  else some (es.filterMap closing?).length

end RunEvent

end NamedSql
