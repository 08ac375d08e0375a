import NamedSql.Session.State

/-!
# Binding

The values that a source gives for the names of a query, in order. A source whose lookup asks for a
query makes binding and preparing depend on each other: each lookup may prepare a query, and with
it check further sources. This ends because those sources are parts of the first one.
-/

namespace NamedSql

/-- The error for a name that a source does not know. -/
def missingParameter (name : Text) (sourceType : Option Text) (sql : Option Text) : Failure :=
  .error (.unknownParameter name sourceType sql)

namespace Session

/-- Checks that a class declares every name, without an instance. -/
def checkClass (r : Resolver) (isolated : Bool) (c : Class) (names : List Text)
    (sql : Option Text) : Session Unit := do
  match ← fieldMap? r isolated c with
  | none => fail (.error (.misconfigured (.nothingToAssert c.name)))
  | some m =>
    match names.find? (!m.contains ·) with
    | some name => fail (missingParameter name (some c.metaName) sql)
    | none => pure ()

/-- The values of a source that changes nothing, given the field map of its class if that is
known. -/
def answersBy (r : Resolver) (m : Option FieldMap) (s : Source) (names : List Text)
    (sql : Option Text) : Session (List Value) :=
  match (s.answering r.mapper.apply m).answerAll (missingParameter · s.typeName? sql) names with
  | .ok values => pure values
  | .error e => fail e

/-- The values of a source that changes nothing but the registry. -/
def answers (r : Resolver) (isolated : Bool) (s : Source) (names : List Text)
    (sql : Option Text) : Session (List Value) := do
  let m ← match s with
    | .absent | .mapping .. => pure none
    | s => fieldMap? r isolated s.classOf
  answersBy r m s names sql

/-- A step whose missing keys count as a missing parameter. -/
def orMissing {α : Type} (missing : Failure) (step : Session α) : Session α := do
  try step catch
    | .fault f => fail (if f.kind.isKey then missing else .fault f)
    | e => fail e

mutual

/-- The values of a source for names, one for each name in order. -/
def resolve (r : Resolver) (isolated : Bool) (names : List Text) (sql : Option Text) :
    Source → Session (List Value)
  | .requester cache query examples => do
    let s : Source := .requester cache query examples
    match ← fieldMap? r isolated s.classOf with
    | some m => answersBy r (some m) s names sql
    | none => names.mapM fun name => do
      orMissing (missingParameter name s.typeName? sql) <|
        discard <| getOrPrepareWith cache query examples.length fun p =>
          checkAll p.config.resolver p.isolated p.names p.rawSql examples
      return .text name
  | s => if names.isEmpty then return [] else answers r isolated s names sql

/-- Checks that every one of several sources knows all names; a class is asked for what it
declares. -/
def checkAll (r : Resolver) (isolated : Bool) (names : List Text) (sql : Option Text) :
    List Source → Session Unit
  | [] => pure ()
  | s :: rest => do
    match s with
    | .cls c => checkClass r isolated c names sql
    | s => discard (resolve r isolated names sql s)
    checkAll r isolated names sql rest

end

/-- Checks that a source knows all names. -/
def check (r : Resolver) (isolated : Bool) (names : List Text) (sql : Option Text) (s : Source) :
    Session Unit := checkAll r isolated names sql [s]

/-! ## Queries and sources -/

/-- Prepares a query and tries it on examples. -/
def prepare (c : Config) (isolated : Bool) (sql : Text) (examples : List Source) :
    Session Issued :=
  prepareWith c isolated sql examples.length fun p =>
    checkAll p.config.resolver p.isolated p.names p.rawSql examples

def getOrPrepare (cache sql : Text) (examples : List Source) : Session Issued :=
  getOrPrepareWith cache sql examples.length fun p =>
    checkAll p.config.resolver p.isolated p.names p.rawSql examples

/-- Binds a prepared query to a source. -/
def bind (p : Prepared) (s : Source) : Session Bound :=
  return ⟨p.compiled.sql, ← resolve p.config.resolver p.isolated p.names p.rawSql s⟩

def validate (p : Prepared) (s : Source) : Session Unit :=
  check p.config.resolver p.isolated p.names p.rawSql s

/-- Compiles a query and binds it at once. -/
def bindText (sql : Text) (s : Source) : Session Bound := do
  let q ← compile sql
  return ⟨q.sql, ← resolve (← config).resolver false q.names sql s⟩

/-- Issues a query in another style. -/
def restyle (p : Prepared) (style : Value) : Session Issued := do
  issue (← configured (p.restyle style))

end Session

end NamedSql
