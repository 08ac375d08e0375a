import NamedSql.Run.Channel

/-!
# Drivers

A driver binds a statement, asks a querier to run it, and hands rows to a scanner. Binding comes
first, so a statement that cannot be bound reaches no querier. What the querier fails with is
translated: errors of this library pass, a fault that means no rows becomes that error, an
interruption passes, and every other fault becomes a failed execution. Failures while rows are read
or decoded stay as they are. The operations of a driver that awaits its querier are coroutines, so
what is raised in a stage leaves them as it leaves a coroutine.
-/

namespace NamedSql

/-- Text of a query, or a query prepared before. -/
inductive Statement where
  | text (sql : Text)
  | prepared (p : Prepared)

/-- What runs bound statements, and which of its faults mean that there are no rows. -/
structure Querier (ρ : Type) where
  isNoRows : FaultKind → Bool
  query : Bound → Run ρ
  execute : Bound → Run Int

/-- What decodes rows, into records of a class when there is one. -/
structure Scanner (ρ δ : Type) where
  all : Option Class → ρ → Run (List δ)
  one : Option Class → ρ → Run δ

def failedEvent (operation : Operation) (cause : Fault) : LogEvent :=
  { LogEvent.detail "driver" "" [("operation".toList, .text operation.name),
      ("error".toList, .text cause.display)] with
    message := "named ".toList ++ operation.name ++ " failed".toList }

namespace Driver

/-- The statement with the values of its markers. -/
def bind (statement : Statement) (s : Source) : Run Bound :=
  Run.ofSession <| match statement with
    | .text sql => Session.bindText sql s
    | .prepared p => Session.bind p s

/-- Translates the failure of a step that runs a statement. -/
def guarded {α : Type} (isNoRows : FaultKind → Bool) (operation : Operation) (sql : Text)
    (step : Run α) : Run α := do
  try step catch e =>
    match e.fault? with
    | none => throw e
    | some f =>
      if isNoRows f.kind then throw (.error (.noRow (some f)))
      else if f.kind.isInterrupt then throw e
      else
        Run.ofSession (Session.report (failedEvent operation f))
        throw (.error (.failedExecution operation sql f))

/-- Binds a statement, asks for it to be run, and reads the answer. -/
def perform {α β : Type} (isNoRows : FaultKind → Bool) (operation : Operation)
    (ask : Bound → Run α) (read : α → Run β) (statement : Statement) (s : Source) : Run β := do
  let b ← bind statement s
  let answer ← guarded isNoRows operation b.sql do
    Run.note (.request operation b)
    ask b
  read answer

end Driver

/-- How the operations of a driver run: at once, or as coroutines that await the querier. -/
inductive Mode where
  | sync
  | async
  deriving DecidableEq

namespace Mode

def run {α : Type} (mode : Mode) (operation : Run α) : Run α :=
  match mode with
  | sync => operation
  | async => Run.coroutine operation

/-- What leaves an operation in which a failure is raised. -/
def leaving (mode : Mode) (e : Failure) : Failure :=
  match mode with
  | sync => e
  | async => e.outOf .coroutine

end Mode

structure NamedDriver (ρ δ : Type) where
  mode : Mode
  querier : Querier ρ
  scanner : Scanner ρ δ

namespace NamedDriver

variable {ρ δ : Type} (d : NamedDriver ρ δ) (statement : Statement) (s : Source)

/-- Runs a statement that reads; the rows are left open. -/
def query : Run ρ :=
  d.mode.run (Driver.perform d.querier.isNoRows .query d.querier.query pure statement s)

/-- Every row of a statement. -/
def select (schema : Option Class) : Run (List δ) :=
  d.mode.run (Driver.perform d.querier.isNoRows .query d.querier.query (d.scanner.all schema)
    statement s)

/-- The only row of a statement. -/
def get (schema : Option Class) : Run δ :=
  d.mode.run (Driver.perform d.querier.isNoRows .query d.querier.query (d.scanner.one schema)
    statement s)

/-- Runs a statement that writes, and tells the number of affected rows. -/
def exec : Run Int :=
  d.mode.run (Driver.perform d.querier.isNoRows .exec d.querier.execute pure statement s)

end NamedDriver

/-! ## Drivers of channels -/

def Channel.mode : Channel → Mode
  | direct | bare | cursor => .sync
  | awaited | statement => .async

def Channel.querier (channel : Channel) (reply : Reply) : Querier OpenRows :=
  ⟨channel.isNoRows, channel.query reply, channel.execute reply⟩

/-- The scanner of a driver that was given none. -/
def Scanner.schema : Scanner OpenRows Decoded :=
  ⟨fun schema rows => rows.scan (Scan.all .all schema),
    fun schema rows => rows.scan (Scan.one .all schema)⟩

/-- The driver over a channel to a database. -/
def Driver.ofChannel (channel : Channel) (reply : Reply) : NamedDriver OpenRows Decoded :=
  ⟨channel.mode, channel.querier reply, .schema⟩

end NamedSql
