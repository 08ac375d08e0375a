import NamedSql.Rows.Record

/-!
# Scanning rows

A row source gives its columns and then its rows, one at a time, and is closed when it is no longer
needed. What happens to a source is noted as events, so that a result can be told from the way it
was reached: the source is closed once, after the last row was pulled and before any row is decoded,
also when reading fails.
-/

namespace NamedSql

/-- What a database answered. After its rows a source ends, or fails as `failure` says. The sign
that an iteration has ended is an end, and no such failure. -/
structure RowSource where
  columns : Except Failure (List Text)
  rows : List (List Value)
  failure : Option Failure

/-- A source that fails with `failure` in the place of a row, if there is a row at that place. -/
def RowSource.failingAt (columns : Except Failure (List Text)) (rows : List (List Value))
    (place : Option Nat) (failure : Failure) : RowSource :=
  match place with
  | some n =>
    if n < rows.length then ⟨columns, rows.take n, some failure⟩ else ⟨columns, rows, none⟩
  | none => ⟨columns, rows, none⟩

inductive RowEvent where
  | columns
  /-- A row, the end or a failure was asked for and came. -/
  | pull
  | close
  | decode
  deriving DecidableEq

/-- A computation that uses a row source, with the events in order. -/
abbrev Scan := ExceptT Failure (StateM (List RowEvent))

namespace Scan

def note (e : RowEvent) : Scan Unit := modify (· ++ [e])

def askColumns (src : RowSource) : Scan (List Text) := do
  note .columns
  match src.columns with
  | .ok columns => return columns
  | .error e => throw e

/-- Pulls at most `limit` rows; without a limit, pulls until the source ends. -/
def pull (failure : Option Failure) : (limit : Option Nat) → List (List Value) →
    Scan (List (List Value))
  | some 0, _ => return []
  | _, [] => do
    note .pull
    match failure with
    | some e => throw e
    | none => return []
  | limit, row :: rows => do
    note .pull
    return row :: (← pull failure (limit.map (· - 1)) rows)

/-- The columns of a source and then its rows, as they come. -/
def read (src : RowSource) (limit : Option Nat) : Scan (List Text × List (List Value)) := do
  let columns ← askColumns src
  return (columns, ← pull src.failure limit src.rows)

def readRows (src : RowSource) (limit : Option Nat) : Scan (List Entries) := do
  let (columns, rows) ← read src limit
  return rows.map (rowEntries columns)

/-- Closes the source after a step, whether the step failed or not. -/
def closing {α : Type} (step : Scan α) : Scan α := do
  try
    let a ← step
    note .close
    return a
  catch e =>
    note .close
    throw e

def decodeRow (c : Class) (how : Decoding) (row : Entries) : Scan Decoded := do
  note .decode
  match how.decode c row with
  | .ok d => return d
  | .error kind => throw (.ofKind kind)

/-- Decodes rows into records of a class; without a class they stay rows. -/
def decodeRows (installed : Installed) (schema : Option Class) (rows : List Entries) :
    Scan (List Decoded) :=
  match schema with
  | none => return rows.map .row
  | some c =>
    match decodingOf? installed c with
    | some how => rows.mapM (decodeRow c how)
    | none => throw (.error .unsupportedSchema)

/-- Every row of a source. -/
def all (installed : Installed) (schema : Option Class) (src : RowSource) :
    Scan (List Decoded) := do
  decodeRows installed schema (← closing (readRows src none))

/-- The only row of a source. Reading stops at the second row. -/
def one (installed : Installed) (schema : Option Class) (src : RowSource) : Scan Decoded := do
  match ← closing (readRows src (some 2)) with
  | [] => throw (.error (.noRow none))
  | [row] =>
    match ← decodeRows installed schema [row] with
    | d :: _ => return d
    | [] => throw (.error (.noRow none))
  | _ => throw (.error .severalRows)

/-- Every row of a source as a row; the source is left open. -/
def rows (src : RowSource) : Scan (List Decoded) := return (← readRows src none).map .row

end Scan

end NamedSql
