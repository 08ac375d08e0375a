import NamedSql.Query.Display
import NamedSql.Session.Config

/-!
# Prepared queries

A query that is scanned once and bound many times. It is rendered in the style of its
configuration; in another style it keeps what was scanned. Two prepared queries may be equal
without being the same one, so each is issued with a number of its own.
-/

namespace NamedSql

structure Prepared where
  scanned : Scanned
  config : Config
  /-- Whether the query keeps away from the registry that others share. -/
  isolated : Bool

structure Issued where
  serial : Nat
  query : Prepared

/-- A compiled query with the values of its markers, in order. -/
structure Bound where
  sql : Text
  parameters : List Value

namespace Prepared

def compiled (p : Prepared) : Compiled := p.scanned.render p.config.style

def rawSql (p : Prepared) : Text := p.scanned.sql

def names (p : Prepared) : List Text := p.scanned.names

/-- The same query in another style. -/
def restyle (p : Prepared) (style : Value) : Except Misconfiguration Prepared := do
  return { p with config := ← p.config.restyle style }

def display (p : Prepared) : Text := p.compiled.display "PreparedQuery"

end Prepared

end NamedSql
