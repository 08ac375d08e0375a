import NamedSql.Record.Field

/-!
# Field maps

A field map says which attribute answers which parameter. Built from fields, it answers a name by
the first field with that tag; failing that by the first untagged field whose mapped name it is;
failing that by the field that is declared with it.
-/

namespace NamedSql

structure FieldMap where
  entries : List (Text × Text)
  deriving DecidableEq

/-- An entry list with a value for a key that has none yet. -/
def putAbsent (key value : Text) (entries : List (Text × Text)) : List (Text × Text) :=
  if (entries.lookup key).isSome then entries else entries ++ [(key, value)]

/-- A tag that counts: an empty one is as good as none. -/
def TaggedField.tag? (f : TaggedField) : Option Text := f.tag.filter (!·.isEmpty)

namespace FieldMap

def get? (m : FieldMap) (name : Text) : Option Text := m.entries.lookup name

def contains (m : FieldMap) (name : Text) : Bool := (m.get? name).isSome

def size (m : FieldMap) : Nat := m.entries.length

/-- A field map with given entries; the last value of a repeated name counts. -/
def ofEntries (entries : List (Text × Text)) : FieldMap :=
  ⟨entries.foldl (fun m e => putEntry e.1 e.2 m) []⟩

/-- The names and attributes of fields, the stronger claims to a name before the weaker ones. -/
def claims (mapper : Text → Text) (fields : List TaggedField) : List (Text × Text) :=
  fields.filterMap (fun f => f.tag?.map (·, f.name)) ++
    (fields.filter (·.tag?.isNone)).map (fun f => (mapper f.name, f.name)) ++
    fields.map fun f => (f.name, f.name)

def ofFields (mapper : Text → Text) (fields : List TaggedField) : FieldMap :=
  ⟨(claims mapper fields).foldl (fun m e => putAbsent e.1 e.2 m) []⟩

def display (m : FieldMap) : Text :=
  applied "FieldMap".toList [(Value.map (m.entries.map fun e => (e.1, .text e.2))).display]

end FieldMap

end NamedSql
