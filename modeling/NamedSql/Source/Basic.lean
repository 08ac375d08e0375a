import NamedSql.Record.FieldMap
import NamedSql.Record.Registry

/-!
# Argument sources

Where the values of parameters come from. A mapping answers with its entries and an object whose
class has a lookup method with what that returns; a record answers through the field map of its
class, and any other object through its public attributes. A registered field map is stronger than
a lookup method, and a lookup method is stronger than the entries of a mapping.
-/

namespace NamedSql

inductive Source where
  | absent
  /-- A value that is an object, with what it answers for attributes that are not known here. -/
  | value (v : Value) (others : Text → Option Value)
  | mapping (cls : Class) (entries : Entries)
  | instance (x : Instance)
  | cls (c : Class)
  /-- An object whose lookup asks a cache for a query, checked against examples, and then answers
  with the name. -/
  | requester (cache sql : Text) (examples : List Source)

namespace Source

/-- The source that a value is: nothing at all, a mapping, or an object. -/
def ofValue : Value → Source
  | .null => absent
  | .map es => mapping (.mappingNamed "dict".toList) es
  | v => value v fun _ => none

/-- The class of a source. -/
def classOf : Source → Class
  | absent => .named "NoneType".toList
  | value v _ => .named v.typeName
  | mapping c _ => c
  | .instance x => x.cls
  | cls c => .named c.metaName
  | requester .. => .named "Reentrant".toList

/-- The name of the class of a source, for the message about a missing parameter. -/
def typeName? : Source → Option Text
  | absent => none
  | s => some s.classOf.name

def isMapping : Source → Bool
  | mapping .. => true
  | _ => false

/-! ## Attributes -/

/-- Attributes of numbers and of unique identifiers. -/
def valueAttribute? (v : Value) (name : Text) : Option Value :=
  match v, String.ofList name with
  | .int i, "real" | .int i, "numerator" => some (.int i)
  | .int _, "imag" => some (.int 0)
  | .int _, "denominator" => some (.int 1)
  | .uuid n, "int" => some (.int n)
  | .uuid _, "is_safe" => some (.other "SafeUUID".toList)
  | _, _ => none

/-- The attributes of a class: its members, of which methods and slots are objects of their own. -/
def classAttribute? (c : Class) (name : Text) : Option Value :=
  (c.member? name).map fun
    | .value v => v
    | .lookup _ => .other "function".toList
    | .slot => .other "member_descriptor".toList

def attribute? : Source → Text → Option Value
  | .instance x, name => x.read? name
  | value v others, name => valueAttribute? v name <|> others name
  | cls c, name => classAttribute? c name
  | requester .., name => if name = "lookup".toList then some (.other "method".toList) else none
  | _, _ => none

/-- The names of the attributes that an object answers with when no field map is known. -/
def publicNames : Source → List Text
  | .instance x => x.publicNames
  | value (.uuid _) _ => ["int".toList, "is_safe".toList]
  | cls c => c.own.filter Instance.isPublic
  | _ => []

/-! ## Answers -/

/-- How a source answers names. -/
inductive Answering where
  | nothing
  | lookup (l : Lookup)
  | entries (es : Entries)
  | attributes (m : FieldMap) (read : Text → Option Value)

/-- How a source answers, given the field map of its class if that is known. -/
def answering (mapper : Text → Text) (m : Option FieldMap) (s : Source) : Answering :=
  match s, m, s.classOf.lookup? with
  | absent, _, _ => .nothing
  | mapping _ _, _, some l => .lookup l
  | mapping _ es, _, none => .entries es
  | s, some m, _ => .attributes m s.attribute?
  | _, none, some l => .lookup l
  | s, none, none =>
    .attributes (.ofFields mapper (s.publicNames.map (⟨·, none⟩))) s.attribute?

/-- The value of a name, or the reason why there is none; `missing` is the error for a name that
the source does not know. -/
def Answering.answer (missing : Failure) (name : Text) : Answering → Except Failure Value
  | nothing => .error missing
  | lookup l =>
    match l.values.lookup name, l.absent with
    | some v, _ => .ok v
    | none, .fault f => .error (if f.kind.isKey then missing else .fault f)
    | none, e => .error e
  | entries es => (es.lookup name).elim (.error missing) .ok
  | attributes m read =>
    match m.get? name with
    | none => .error missing
    | some a => (read a).elim (.error (.ofKind .noAttribute)) .ok

/-- The values of names, in order, or the failure of the first name without one. -/
def Answering.answerAll (missing : Text → Failure) (names : List Text) (how : Answering) :
    Except Failure (List Value) := names.mapM fun name => how.answer (missing name) name

end Source

end NamedSql
