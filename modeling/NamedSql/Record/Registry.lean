import NamedSql.Naming.Mapper
import NamedSql.Record.Class

/-!
# The registry of field maps

A resolver keeps one field map for each record class. A class may be registered, with a mapping of
its own or with the map of its declared fields; a class that is met without being registered gets
the map of its declared fields on first use.
-/

namespace NamedSql

/-- How field maps are built from declared fields. -/
structure Resolver where
  tagKey : Text
  mapper : NameMapper

/-- Field maps by their classes. -/
abbrev Registry := List (ClassId × FieldMap)

/-- The field map of the declared fields of a class. -/
def Resolver.declaredMap? (r : Resolver) (c : Class) : Option FieldMap :=
  (c.declaredFields? .all r.tagKey).map (FieldMap.ofFields r.mapper.apply)

namespace Registry

/-- The field map of a class, and the registry that remembers it. -/
def fieldMap? (r : Resolver) (c : Class) (registry : Registry) : Option FieldMap × Registry :=
  match registry.lookup c.id with
  | some m => (some m, registry)
  | none =>
    match r.declaredMap? c with
    | some m => (some m, putEntry c.id m registry)
    | none => (none, registry)

def register (r : Resolver) (c : Class) (entries : Option (List (Text × Text)))
    (registry : Registry) : Except Misconfiguration (FieldMap × Registry) :=
  match entries, r.declaredMap? c with
  | some es, _ => .ok (.ofEntries es, putEntry c.id (.ofEntries es) registry)
  | none, some m => .ok (m, putEntry c.id m registry)
  | none, none => .error (.nothingToRegister c.name)

end Registry

end NamedSql
