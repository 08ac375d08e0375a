import NamedSql.Run.Status
import NamedSql.Run.Trace

/-!
# Channels to a database

How a database is reached. A direct channel is asked for rows or a count and answers; over a cursor
channel the statement is executed on a cursor, which is closed when the statement fails, when its
count is known or when its rows are closed; over a statement channel it is prepared and its rows are
fetched at once. Rows that come one by one come from a generator. Over a statement channel and an
awaited one, what is asked for is awaited.
-/

namespace NamedSql

inductive Channel where
  | direct
  /-- A direct channel that does not say which faults mean that there are no rows. -/
  | bare
  /-- A direct channel whose answer is awaited. -/
  | awaited
  | cursor
  | statement
  deriving DecidableEq

/-- What a database does when it is called. -/
structure Reply where
  failure? : Call → Option Failure
  columns : Except Failure (List Text)
  rows : List (List Value)
  /-- What reading the rows fails with, after the last of them. -/
  readFailure : Option Failure
  /-- The number of affected rows, when the database knows it. -/
  affected : Except Failure (Option Int)
  status : Text

/-- The rows of a reply, one by one. -/
def Reply.source (reply : Reply) : RowSource :=
  ⟨reply.columns, reply.rows, reply.readFailure.map (·.outOf .generator)⟩

namespace Channel

def defaultStyle : Channel → Style
  | cursor => .question
  | direct | bare | awaited | statement => .numeric

/-- Whether a fault means, on this channel, that there are no rows. -/
def isNoRows (channel : Channel) (kind : FaultKind) : Bool :=
  match channel with
  | direct | awaited | cursor => kind.isNoRows
  | bare | statement => false

/-- Sends a call, which fails as the database says. -/
def send (reply : Reply) (c : Call) : Run Unit := do
  Run.note (.call c)
  if let some e := reply.failure? c then throw e

def affected (reply : Reply) (unknown : Int) : Run Int :=
  match reply.affected with
  | .ok n => return n.getD unknown
  | .error e => throw e

/-- Rows that have to be closed, without a cursor. -/
def queryRows (reply : Reply) (b : Bound) : Run OpenRows := do
  send reply (.query b.sql b.parameters)
  Run.note .opened
  return ⟨reply.source, none⟩

/-- Rows of a cursor, which is closed if the statement fails. -/
def queryCursor (reply : Reply) (b : Bound) : Run OpenRows := do
  let n ← Run.openCursor
  try send reply (.execute b.sql b.parameters) catch e =>
    unless e.isInterrupt do Run.note (.cursorClosed n)
    throw e
  OpenRows.ofCursor reply.source n

/-- Rows that are fetched at once. -/
def fetch (reply : Reply) (b : Bound) : Run OpenRows := do
  send reply (.prepare b.sql)
  send reply (.fetch b.parameters)
  if let some e := reply.readFailure then throw e
  return ⟨⟨reply.columns, reply.rows, none⟩, none⟩

def query (channel : Channel) (reply : Reply) (b : Bound) : Run OpenRows :=
  match channel with
  | direct | bare => queryRows reply b
  | awaited => Run.coroutine (queryRows reply b)
  | cursor => queryCursor reply b
  | statement => Run.coroutine (fetch reply b)

def executeCount (reply : Reply) (b : Bound) : Run Int := do
  send reply (.execute b.sql b.parameters)
  affected reply 0

def executeCursor (reply : Reply) (b : Bound) : Run Int := do
  let n ← Run.openCursor
  Run.ensuring (Run.note (.cursorClosed n)) do
    send reply (.execute b.sql b.parameters)
    return max (← affected reply (-1)) 0

def executeStatus (reply : Reply) (b : Bound) : Run Int := do
  send reply (.execute b.sql b.parameters)
  match statusCount reply.status with
  | .ok n => return n
  | .error f => throw (.fault f)

def execute (channel : Channel) (reply : Reply) (b : Bound) : Run Int :=
  match channel with
  | direct | bare => executeCount reply b
  | awaited => Run.coroutine (executeCount reply b)
  | cursor => executeCursor reply b
  | statement => Run.coroutine (executeStatus reply b)

/-- The rows that can still be read after they were closed a number of times: rows that were fetched
at once are dropped by the first time. Of rows that come one by one nothing is left to read. -/
def rowsLeft? (channel : Channel) (times : Nat) (rows : List (List Value)) :
    Option (List (List Value)) :=
  if channel = statement then some (if times = 0 then rows else []) else none

end Channel

end NamedSql
