import NamedSql.Text.Quoted

/-!
# Faults

Failures that come from outside the library: a lookup, a database or a decoder gave up. A fault has
a kind and perhaps a message. Only the kind is looked at: whether a lookup missed its key, whether a
database found no rows, whether the work was interrupted, and whether it is the sign that an
iteration has ended. A kind that is not known by name says itself what it is to be taken for.
-/

namespace NamedSql

/-- What a fault is to the work that it strikes. -/
inductive FaultSort where
  | failure
  /-- A request to stop, which is no failure of the work itself. -/
  | interrupt
  /-- The sign that an iteration has ended. -/
  | exhaustion
  deriving DecidableEq

inductive FaultKind where
  | runtime
  | value
  | type
  | key
  | lookup
  | index
  | noAttribute
  | connection
  | noRows
  /-- A special case of `noRows`. -/
  | noRowsChild
  /-- A special case of `key`. -/
  | missingKey
  | interrupt
  | exhaustion
  | validation
  | structuring
  | decoding
  | textDecoding
  | foreign (name : Text) (isKey : Bool) (sort : FaultSort)
  deriving DecidableEq

namespace FaultKind

def name : FaultKind → Text
  | runtime => "RuntimeError".toList
  | value => "ValueError".toList
  | type => "TypeError".toList
  | key => "KeyError".toList
  | lookup => "LookupError".toList
  | index => "IndexError".toList
  | noAttribute => "AttributeError".toList
  | connection => "ConnectionError".toList
  | noRows => "NoRows".toList
  | noRowsChild => "NoRowsChild".toList
  | missingKey => "MissingKey".toList
  | interrupt => "Interrupt".toList
  | exhaustion => "StopIteration".toList
  | validation => "ValidationError".toList
  | structuring => "IterableValidationError".toList
  | decoding => "DecodeError".toList
  | textDecoding => "UnicodeDecodeError".toList
  | foreign name _ _ => name

/-- The kinds in which a lookup or a database may fail. -/
def raisable : List FaultKind :=
  [runtime, value, type, key, lookup, index, noAttribute, connection, noRows, noRowsChild,
    missingKey, interrupt, exhaustion]

/-- Whether a lookup that fails this way has no such key. -/
def isKey : FaultKind → Bool
  | key | missingKey => true
  | foreign _ isKey _ => isKey
  | _ => false

/-- Whether a database that fails this way found no rows. -/
def isNoRows : FaultKind → Bool
  | noRows | noRowsChild => true
  | _ => false

def sort : FaultKind → FaultSort
  | interrupt => .interrupt
  | exhaustion => .exhaustion
  | foreign _ _ sort => sort
  | _ => .failure

def isInterrupt (k : FaultKind) : Bool := k.sort = .interrupt

def isExhaustion (k : FaultKind) : Bool := k.sort = .exhaustion

end FaultKind

structure Fault where
  kind : FaultKind
  message : Option Text
  deriving DecidableEq

namespace Fault

def ofKind (kind : FaultKind) : Fault := ⟨kind, none⟩

/-- The message of a fault; that of a missing key is quoted. -/
def text (f : Fault) : Text :=
  match f.message with
  | none => []
  | some m => if f.kind.isKey then quoted m else m

def display (f : Fault) : Text :=
  f.kind.name ++ '(' :: (f.message.map quoted).getD [] ++ [')']

end Fault

end NamedSql
