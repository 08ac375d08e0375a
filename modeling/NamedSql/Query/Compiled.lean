import NamedSql.Query.Segment
import NamedSql.Query.Style

/-!
# Compiled queries

A query is scanned once and can then be rendered in every style. Rendering keeps literals as they
are and puts a marker in the place of every placeholder; the names of the placeholders, in order
and with repetitions, say which value each marker stands for.
-/

namespace NamedSql

structure Scanned where
  sql : Text
  segments : List Segment
  deriving DecidableEq

structure Compiled where
  sql : Text
  /-- The name at index `i` supplies the value of the marker with number `i + 1`. -/
  names : List Text
  deriving DecidableEq

/-- A literal or comment that is opened at `position` and never closed. -/
structure LexError where
  cause : Unclosed
  sql : Text
  position : Nat
  deriving DecidableEq

namespace Scanned

def names (q : Scanned) : List Text := q.segments.filterMap Segment.name?

/-- What a segment becomes in a style. -/
def renderSegment (style : Style) : Segment → Text
  | .literal text _ => text
  | .placeholder _ _ ordinal _ => style.marker ordinal

def render (q : Scanned) (style : Style) : Compiled :=
  ⟨q.segments.flatMap (renderSegment style), q.names⟩

end Scanned

/-- The number of characters that tokens take up. -/
def extent (d : Char) : List Token → Nat
  | [] => 0
  | t :: tokens => (t.source d).length + extent d tokens

def scan (d : Delimiter) (sql : Text) : Except LexError Scanned :=
  let l := lex d.char none sql
  match l.stop with
  | none => .ok ⟨sql, segments d.char 0 1 l.tokens⟩
  | some cause => .error ⟨cause, sql, extent d.char l.tokens⟩

def compile (d : Delimiter) (style : Style) (sql : Text) : Except LexError Compiled :=
  (scan d sql).map (·.render style)

end NamedSql
