import NamedSql.Source.Basic

/-!
# Shapes of sources

Tests that tell the kinds of argument sources and record classes apart. All but the first and the
last accept a class as well as an instance of it, where the two are of one kind.
-/

namespace NamedSql.Source

/-- Whether the class of an object answers names by a lookup method. -/
def hasLookup : Source → Bool
  | cls _ => false
  | requester .. => true
  | s => s.classOf.lookup?.isSome

/-- The class that a source is or belongs to. -/
def underlying : Source → Class
  | cls c => c
  | s => s.classOf

/-- Whether a source is a record class of a family or an instance of one. -/
def isOfFamily (installed : Installed) (family : Family) (s : Source) : Bool :=
  s.underlying.family? installed = some family

/-- Whether a source is itself a class of a family. -/
def isClassOfFamily (installed : Installed) (family : Family) : Source → Bool
  | cls c => c.family? installed = some family
  | _ => false

end NamedSql.Source
