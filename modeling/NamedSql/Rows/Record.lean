import NamedSql.Record.Class
import NamedSql.Rows.Convert

/-!
# Rows as records

A row is a list of columns with their values. It is decoded into a record of a class when one is
asked for: dataclasses take the columns as they are and want exactly their own, the other families
convert the values and pass over columns they do not know.
-/

namespace NamedSql

inductive Decoded where
  | row (entries : Entries)
  | record (type : Text) (fields : Entries)

/-- A row as entries; a repeated column keeps its first place and its last value. -/
def rowEntries (columns : List Text) (values : List Value) : Entries :=
  (columns.zip values).foldl (fun es e => putEntry e.1 e.2 es) []

/-- How rows become records of a class. -/
inductive Decoding where
  /-- The constructor takes the row as its arguments. -/
  | construct
  /-- Each field is converted; a failure is of the given kind. -/
  | convert (convert? : FieldType → Value → Option Value) (fault : FaultKind)

def decodingOf? (installed : Installed) (c : Class) : Option Decoding :=
  (c.family? installed).map fun
    | .dataclass => .construct
    | .struct => .convert Convert.struct? .validation
    | .model => .convert Convert.model? .validation
    | .attrs =>
      if installed.structuring then .convert Convert.structured? .structuring else .construct

/-- The value of a field in a record that is constructed from a row. -/
def constructField (family : Option Family) (row : Entries) (f : Field) :
    Except FaultKind (Text × Value) :=
  let argument := Instance.argumentName (family.getD .dataclass) f.name
  match row.lookup argument <|> f.default with
  | some v => .ok (f.name, v)
  | none => .error .type

def constructRecord (c : Class) (row : Entries) : Except FaultKind Decoded :=
  let known := c.fields.map fun f => Instance.argumentName (c.family.getD .dataclass) f.name
  if row.all fun e => known.contains e.1 then
    (c.fields.mapM (constructField c.family row)).map (.record c.name)
  else .error .type

def convertField (convert? : FieldType → Value → Option Value) (row : Entries) (f : Field) :
    Option (Text × Value) :=
  match row.lookup f.name with
  | some v => (convert? f.type v).map (f.name, ·)
  | none => f.default.map (f.name, ·)

def Decoding.decode (c : Class) (row : Entries) : Decoding → Except FaultKind Decoded
  | construct => constructRecord c row
  | convert convert? fault =>
    match c.fields.mapM (convertField convert? row) with
    | some fields => .ok (.record c.name fields)
    | none => .error fault

end NamedSql
