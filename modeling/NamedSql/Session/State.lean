import NamedSql.Log.Event
import NamedSql.Session.Cache
import NamedSql.Source.Basic

/-!
# The state of a session

What one interface keeps while it is in use: its configuration, which never changes, the registry
of field maps, the caches over it by their names, and the events it has reported. A computation in
a session may fail, and what it did to the state before it failed remains.
-/

namespace NamedSql

structure State where
  config : Config
  registry : Registry
  caches : List (Text × Cache)
  /-- The number of the next prepared query. -/
  nextSerial : Nat
  events : List LogEvent

def State.initial (config : Config) : State := ⟨config, [], [], 0, []⟩

abbrev Session := ExceptT Failure (StateM State)

namespace Session

def fail {α : Type} (f : Failure) : Session α := throw f

/-- The result of a check of settings, as a step of a session. -/
def configured {α : Type} (r : Except Misconfiguration α) : Session α :=
  match r with
  | .ok a => pure a
  | .error m => fail (.error (.misconfigured m))

def report (e : LogEvent) : Session Unit := modify fun s => { s with events := s.events ++ [e] }

def config : Session Config := return (← get).config

/-! ## The registry -/

/-- The field map of a class. An isolated query builds it without the registry. -/
def fieldMap? (r : Resolver) (isolated : Bool) (c : Class) : Session (Option FieldMap) := do
  if isolated then return (Registry.fieldMap? r c []).1
  else
    let (m, registry) := Registry.fieldMap? r c (← get).registry
    modify fun s => { s with registry }
    return m

def register (c : Class) (entries : Option (List (Text × Text))) : Session FieldMap := do
  let (m, registry) ← configured (Registry.register (← config).resolver c entries (← get).registry)
  modify fun s => { s with registry }
  return m

/-! ## Caches -/

/-- The cache of a name; there is no such key when it was never opened. -/
def cache (name : Text) : Session Cache := do
  match (← get).caches.lookup name with
  | some c => return c
  | none => fail (.ofKind .key)

def setCache (name : Text) (c : Cache) : Session Unit :=
  modify fun s => { s with caches := putEntry name c s.caches }

def openCache (name : Text) (size : Int) : Session Unit :=
  match Cache.ofSize? size with
  | some c => setCache name c
  | none => fail (.misuse (.cacheSize size))

def cached? (name sql : Text) : Session (Option Issued) := do
  let (q, c) := (← cache name).get sql
  setCache name c
  return q

def evictionEvent (sql : Text) : LogEvent :=
  .detail "core.cache" "evicted prepared query from cache" [("sql".toList, .text sql)]

/-- Stores a prepared query, and gives the one that the cache has from now on. -/
def storeIn (name sql : Text) (q : Issued) : Session Issued := do
  let (stored, c, evicted) := (← cache name).store sql q
  setCache name c
  if let some old := evicted then report (evictionEvent old)
  return stored

/-- Whether a value is the text of a cached query. -/
def containsIn (name : Text) (v : Value) : Session Bool := do
  let c ← cache name
  match v.asText? with
  | some sql => return c.contains sql
  | none => if v.isKey then return false else fail (.ofKind .type)

def deleteFrom (name sql : Text) : Session Bool := do
  let (found, c) := (← cache name).delete sql
  setCache name c
  return found

def clearCache (name : Text) : Session Unit := do setCache name (← cache name).clear

/-! ## Queries -/

def scanned (d : Delimiter) (sql : Text) : Session Scanned :=
  match scan d sql with
  | .ok q => return q
  | .error e => fail (.error (.unclosed e))

def compiledEvent (style : Style) (q : Compiled) : LogEvent :=
  .detail "parameters.compiler" "compiled named query"
    [("parameter_style".toList, .text style.name), ("parameter_count".toList, .int q.names.length)]

/-- Compiles a query under the configuration of the session. -/
def compile (sql : Text) : Session Compiled := do
  let c ← config
  let q := (← scanned c.delimiter sql).render c.style
  report (compiledEvent c.style q)
  return q

def issue (p : Prepared) : Session Issued := do
  let n := (← get).nextSerial
  modify fun s => { s with nextSerial := n + 1 }
  return ⟨n, p⟩

def preparedEvent (p : Prepared) (examples : Nat) : LogEvent :=
  .detail "parameters.prepared" "prepared named query"
    [("parameter_style".toList, .text p.config.style.name),
      ("parameter_count".toList, .int p.names.length),
      ("asserted_sources".toList, .int examples)]

/-- Prepares a query that passes `check`, which tries it on a number of examples. -/
def prepareWith (c : Config) (isolated : Bool) (sql : Text) (examples : Nat)
    (check : Prepared → Session Unit) : Session Issued := do
  let p : Prepared := ⟨← scanned c.delimiter sql, c, isolated⟩
  check p
  report (preparedEvent p examples)
  issue p

/-- The query that a cache has for a text; on a miss it is prepared first and then stored. While it
is prepared the cache may change, because the examples may use it. -/
def getOrPrepareWith (name sql : Text) (examples : Nat) (check : Prepared → Session Unit) :
    Session Issued := do
  match ← cached? name sql with
  | some q => return q
  | none => storeIn name sql (← prepareWith (← config) false sql examples check)

end Session

end NamedSql
