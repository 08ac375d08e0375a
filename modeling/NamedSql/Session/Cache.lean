import NamedSql.Number.Binary64
import NamedSql.Session.Prepared

/-!
# The cache of prepared queries

A cache keeps at most `maxSize` prepared queries under their texts, in the order of their last use.
A query that is looked up moves to the end; a query that is stored is put there, and if the cache
is then too large the query at the front is evicted. What is stored under a text stays there: a
second store of the same text returns the first query.
-/

namespace NamedSql

structure Stats where
  hits : Nat
  misses : Nat
  evictions : Nat
  deriving DecidableEq

namespace Stats

def zero : Stats := ⟨0, 0, 0⟩

def lookups (s : Stats) : Nat := s.hits + s.misses

/-- The share of lookups that hit, as the bits of a floating-point number. -/
def hitRate (s : Stats) : Nat :=
  if s.lookups = 0 then 0 else (Binary64.ofRatio? s.hits s.lookups).getD 0

def display (s : Stats) : Text :=
  applied "CacheStats".toList
    [displayPart "hits" (NamedSql.decimal s.hits), displayPart "misses" (NamedSql.decimal s.misses),
      displayPart "evictions" (NamedSql.decimal s.evictions)]

end Stats

structure Cache where
  maxSize : Nat
  /-- Queries by their texts, the least recently used first. -/
  entries : List (Text × Issued)
  stats : Stats
  maxSize_pos : 0 < maxSize

/-- The entries without the one of a key. -/
def dropEntry {α : Type} (key : Text) (entries : List (Text × α)) : List (Text × α) :=
  entries.filter (·.1 ≠ key)

namespace Cache

def defaultSize : Int := 1024

def ofSize? (size : Int) : Option Cache :=
  if h : 0 < size then some ⟨size.toNat, [], .zero, by omega⟩ else none

def keys (c : Cache) : List Text := c.entries.map Prod.fst

def size (c : Cache) : Nat := c.entries.length

def find? (c : Cache) (sql : Text) : Option Issued := c.entries.lookup sql

def contains (c : Cache) (sql : Text) : Bool := (c.find? sql).isSome

/-- Looks a query up and counts the lookup; a query that is found becomes the last one used. -/
def get (c : Cache) (sql : Text) : Option Issued × Cache :=
  match c.find? sql with
  | some q =>
    (some q, { c with
      entries := dropEntry sql c.entries ++ [(sql, q)]
      stats := { c.stats with hits := c.stats.hits + 1 } })
  | none => (none, { c with stats := { c.stats with misses := c.stats.misses + 1 } })

/-- The cache after a query is put at the end, and the text of the query evicted for it. -/
def push (c : Cache) (sql : Text) (q : Issued) : Cache × Option Text :=
  match c.entries ++ [(sql, q)] with
  | [] => (c, none)
  | oldest :: rest =>
    if c.maxSize < (oldest :: rest).length then
      ({ c with
        entries := rest
        stats := { c.stats with evictions := c.stats.evictions + 1 } }, some oldest.1)
    else ({ c with entries := oldest :: rest }, none)

/-- Stores a query unless one is stored under its text already, and gives the stored one. -/
def store (c : Cache) (sql : Text) (q : Issued) : Issued × Cache × Option Text :=
  match c.find? sql with
  | some stored => (stored, c, none)
  | none => (q, c.push sql q)

def delete (c : Cache) (sql : Text) : Bool × Cache :=
  (c.contains sql, { c with entries := dropEntry sql c.entries })

/-- The empty cache of the same size, with new statistics. -/
def clear (c : Cache) : Cache := { c with entries := [], stats := .zero }

end Cache

end NamedSql
