import NamedSql.Error.Cause
import NamedSql.Record.FieldMap

/-!
# Classes and their instances

A class is a record class, a plain class, a class with slots or a class of mappings. An instance
keeps attributes in the slots that its class declares, and in a dictionary when its class provides
one. Reading an attribute looks at a slot of that name first, then at the dictionary, then at the
members of the class. Two classes may have one name, so a class is known by its name and a number.

What a session does with a record class depends on the fields that the library of its family
reports, and not on how that library makes the class and its objects. Of this only so much is told
(`Class.Declaration.declare`, `Instance.create`) that classes and objects can be given as inputs.
-/

namespace NamedSql

/-- A method that answers names; a name that it does not know fails as `absent` says. -/
structure Lookup where
  values : Entries
  absent : Failure

inductive ClassMember where
  | value (v : Value)
  | lookup (l : Lookup)
  | slot

/-- Which class a class is. -/
structure ClassId where
  name : Text
  number : Nat
  deriving DecidableEq

/-- The slots that a class declares: one by its name alone, or several. -/
inductive Slots where
  | one (name : Text)
  | several (names : List Text)

def Slots.names : Slots → List Text
  | one name => [name]
  | several names => names

structure Class where
  name : Text
  /-- Tells classes of one name apart. -/
  number : Nat
  family : Option Family
  fields : List Field
  isMapping : Bool
  hasDictionary : Bool
  /-- The names of the members that the class itself defines. -/
  own : List Text
  /-- The members of the class and of all classes above it, nearest first. -/
  members : List (Text × ClassMember)
  /-- The slots of the class and of each class above it, nearest first. -/
  slots : List Slots

namespace Class

/-- A class of which only the name is known. -/
def named (name : Text) : Class := ⟨name, 0, none, [], false, false, [], [], []⟩

def mappingNamed (name : Text) : Class := { named name with isMapping := true }

def id (c : Class) : ClassId := ⟨c.name, c.number⟩

def member? (c : Class) (name : Text) : Option ClassMember := c.members.lookup name

/-- The lookup method of a class, when it has one. -/
def lookup? (c : Class) : Option Lookup :=
  match c.member? "lookup".toList with
  | some (.lookup l) => some l
  | _ => none

/-- The name of the class of a class. -/
def metaName (c : Class) : Text :=
  match c.family with
  | some .struct => "StructMeta".toList
  | some .model => "ModelMetaclass".toList
  | _ => "type".toList

/-! ## Declaring classes -/

inductive Kind where
  | record (family : Family)
  | plain
  | slot (name : Text)
  | slots (names : List Text)
  | mapping

def Kind.slots? : Kind → Option Slots
  | slot name => some (.one name)
  | slots names => some (.several names)
  | _ => none

def Kind.slotNames (k : Kind) : List Text := k.slots?.toList.flatMap Slots.names

structure Declaration where
  name : Text
  kind : Kind
  fields : List Field
  attributes : Entries
  lookup : Option Lookup

/-- The fields of a class below one with fields `above`. A field declared again keeps its place,
except in the family that moves it to its new one. -/
def mergeFields (family : Family) (above own : List Field) : List Field :=
  if family = .attrs then above.filter (fun f => own.all (·.name ≠ f.name)) ++ own
  else
    own.foldl (fun fs f =>
      if fs.any (·.name = f.name) then fs.map fun g => if g.name = f.name then f else g
      else fs ++ [f]) above

/-- The members that fields leave on their class. -/
def fieldMembers (family : Family) (fields : List Field) : List (Text × ClassMember) :=
  match family with
  | .dataclass => fields.filterMap fun f => f.default.map fun v => (f.name, .value v)
  | .struct | .attrs => fields.map fun f => (f.name, .slot)
  | .model => []

/-- The class of a declaration, with the number that tells it apart from others of its name. -/
def Declaration.declare (d : Declaration) (base : Option Class) (number : Nat := 0) : Class :=
  let above := base.getD (named [])
  let own := d.attributes.map (fun e => (e.1, ClassMember.value e.2)) ++
    (d.lookup.map fun l => ("lookup".toList, ClassMember.lookup l)).toList ++
    match d.kind with
    | .record family => fieldMembers family d.fields
    | kind => kind.slotNames.map fun s => (s, .slot)
  { name := d.name
    number
    family := match d.kind with
      | .record family => some family
      | _ => above.family
    fields := match d.kind with
      | .record .struct => mergeFields .struct above.fields (shareAnnotations d.fields)
      | .record family => mergeFields family above.fields d.fields
      | _ => above.fields
    isMapping := above.isMapping || d.kind matches .mapping
    hasDictionary := above.hasDictionary || match d.kind with
      | .record family => family = .dataclass || family = .model
      | .plain => above.family ≠ some .struct
      | .mapping => true
      | kind => kind.slotNames.contains "__dict__".toList
    own := own.map Prod.fst
    members := own ++ above.members
    slots := d.kind.slots?.toList ++ above.slots }

end Class

/-! ## Declared fields -/

/-- Which of the optional record libraries are there. -/
structure Installed where
  model : Bool
  attrs : Bool
  structuring : Bool

def Installed.all : Installed := ⟨true, true, true⟩

/-- The family of a class, as far as its library is there. -/
def Class.family? (installed : Installed) (c : Class) : Option Family :=
  c.family.filter fun
    | .model => installed.model
    | .attrs => installed.attrs
    | .struct | .dataclass => true

/-- The declared fields of a record class with their tags under `key`. -/
def Class.declaredFields? (installed : Installed) (key : Text) (c : Class) :
    Option (List TaggedField) :=
  (c.family? installed).map fun family => c.fields.map (·.tagged family key)

/-! ## Instances -/

structure Instance where
  cls : Class
  slotted : Entries
  attributes : Entries

namespace Instance

def read? (x : Instance) (name : Text) : Option Value :=
  match x.cls.member? name with
  | some .slot => x.slotted.lookup name
  | some (.value v) => x.attributes.lookup name <|> some v
  | some (.lookup _) => x.attributes.lookup name <|> some (.other "method".toList)
  | none => x.attributes.lookup name

def assign (x : Instance) (name : Text) (v : Value) : Except Fault Instance :=
  if x.cls.member? name matches some .slot then
    .ok { x with slotted := putEntry name v x.slotted }
  else if x.cls.hasDictionary then .ok { x with attributes := putEntry name v x.attributes }
  else .error (.ofKind .noAttribute)

def remove (x : Instance) (name : Text) : Except Fault Instance :=
  if x.cls.member? name matches some .slot then
    if (x.slotted.lookup name).isSome then
      .ok { x with slotted := x.slotted.filter (·.1 ≠ name) }
    else .error (.ofKind .noAttribute)
  else if (x.attributes.lookup name).isSome then
    .ok { x with attributes := x.attributes.filter (·.1 ≠ name) }
  else .error (.ofKind .noAttribute)

/-- A name that is part of the public face of an object. -/
def isPublic (name : Text) : Bool := name.head? ≠ some '_'

/-- The public attributes: those of the dictionary if there is one, else the filled slots. -/
def publicNames (x : Instance) : List Text :=
  if x.cls.hasDictionary then (x.attributes.map Prod.fst).filter isPublic
  else (x.cls.slots.flatMap Slots.names).filter fun s => isPublic s && (x.read? s).isSome

/-- The name by which the value of a field is given to its constructor. -/
def argumentName (family : Family) (name : Text) : Text :=
  if family = .attrs then name.dropWhile (· = '_') else name

/-- The value that a field of a new instance starts with. -/
def startValue (family : Family) (values : Entries) (f : Field) : Except Fault Value :=
  match values.lookup f.name <|> values.lookup (argumentName family f.name) <|> f.default with
  | some v => .ok v
  | none => .error (.ofKind (if family = .model then .validation else .type))

/-- A new instance with values for the fields of a record, or for any attributes of another. -/
def create (cls : Class) (values : Entries) : Except Fault Instance :=
  match cls.family with
  | some family =>
    cls.fields.foldlM (fun x f => do x.assign f.name (← startValue family values f)) ⟨cls, [], []⟩
  | none => values.foldlM (fun x e => x.assign e.1 e.2) ⟨cls, [], []⟩

/-- The instance with attributes set and then others removed. -/
def revise (x : Instance) (sets : Entries) (dels : List Text) : Except Fault Instance := do
  dels.foldlM remove (← sets.foldlM (fun x e => x.assign e.1 e.2) x)

end Instance

end NamedSql
