import NamedSql.Value.Display
import NamedSql.Value.Equal

/-!
# Record fields and their tags

A record class declares fields. A field may carry metadata, and an entry of the metadata under a
chosen key is the tag of the field: the name of the parameter that it answers. The families of
record classes carry metadata in different ways, so each reads tags in its own way.
-/

namespace NamedSql

/-- The four families of record classes. -/
inductive Family where
  | dataclass
  | attrs
  | struct
  | model
  deriving DecidableEq

inductive FieldType where
  | any
  | int
  | text
  | bool
  | bytes
  | optionalInt
  | optionalText
  | intList
  | uuid
  | date
  | timestamp
  | time
  | member
  | path
  deriving DecidableEq

abbrev Entries := List (Text × Value)

/-- What can be annotated on the type of a field. -/
inductive Annotation where
  | metadata (es : Entries)
  /-- An annotation that is no metadata object. -/
  | remark (text : Text)

inductive Metadata where
  | absent
  /-- A plain metadata object. -/
  | entries (es : Entries)
  /-- Metadata that a function computes, in which no tag is looked for. -/
  | computed
  /-- Annotations around the type of the field. -/
  | annotations (as : List Annotation)
  /-- Annotations below another type, where they no longer belong to the field. -/
  | nested (as : List Annotation)

structure Field where
  name : Text
  type : FieldType
  default : Option Value
  metadata : Metadata

/-- A declared field as a field map sees it. -/
structure TaggedField where
  name : Text
  tag : Option Text
  deriving DecidableEq

def entryTag? (key : Text) (es : Entries) : Option Text := (es.lookup key).map Value.toText

/-- The tag of the first annotation that has one. -/
def annotationTag? (key : Text) : List Annotation → Option Text
  | [] => none
  | .metadata es :: rest => entryTag? key es <|> annotationTag? key rest
  | .remark _ :: rest => annotationTag? key rest

namespace Field

def structTag? (key : Text) (f : Field) : Option Text :=
  match f.metadata with
  | .entries es => annotationTag? key [.metadata es]
  | .annotations as => annotationTag? key as
  | _ => none

def modelTag? (key : Text) (f : Field) : Option Text :=
  match f.metadata with
  | .entries es => entryTag? key es
  | _ => none

/-- The tag of a field of the two families that keep metadata beside the type. -/
def plainTag? (key : Text) (f : Field) : Option Text :=
  match f.metadata with
  | .entries es => entryTag? key es
  | _ => none

def tag? (family : Family) (key : Text) (f : Field) : Option Text :=
  match family with
  | .struct => f.structTag? key
  | .model => f.modelTag? key
  | .attrs | .dataclass => f.plainTag? key

def tagged (family : Family) (key : Text) (f : Field) : TaggedField := ⟨f.name, f.tag? family key⟩

end Field

/-! ## Equal annotations -/

def Annotation.same : Annotation → Annotation → Bool
  | metadata es, metadata fs => (Value.map es).same (.map fs)
  | remark s, remark t => s = t
  | _, _ => false

/-- The annotations around the type of a field. -/
def Metadata.around : Metadata → List Annotation
  | entries es => [.metadata es]
  | annotations as => as
  | absent | computed | nested _ => []

/-- Whether two fields have one annotated type. -/
def Field.sameAnnotated (f g : Field) : Bool :=
  let as := f.metadata.around
  let bs := g.metadata.around
  decide (f.type = g.type) && as.length == bs.length && (as.zip bs).all fun p => p.1.same p.2

/-- Equal annotated types are one type, so a field whose annotations equal those of an earlier one
has exactly those, even if its own were written differently. -/
def shareAnnotations (fields : List Field) : List Field :=
  fields.foldl (fun done f => done ++ [match done.find? (·.sameAnnotated f) with
    | some g => if f.metadata.around.isEmpty then f else { f with metadata := g.metadata }
    | none => f]) []

end NamedSql
