import NamedSql.Query.Token

/-!
# Segments of a query

The tokens of a query fall into segments: each placeholder is one, and what stands between two
placeholders is one literal. A segment knows the offset at which it starts; a placeholder also
knows which occurrence it is, counted from one.
-/

namespace NamedSql

inductive Segment where
  | literal (text : Text) (position : Nat)
  | placeholder (name : Text) (position ordinal : Nat) (text : Text)
  deriving DecidableEq

namespace Segment

/-- The text of a segment as it stands in the query. -/
def source : Segment → Text
  | literal text _ => text
  | placeholder _ _ _ text => text

def position : Segment → Nat
  | literal _ p => p
  | placeholder _ p _ _ => p

def name? : Segment → Option Text
  | literal _ _ => none
  | placeholder name _ _ _ => some name

end Segment

/-- Puts verbatim text that starts at `position` in front of the segments after it. -/
def consLiteral (text : Text) (position : Nat) : List Segment → List Segment
  | .literal after _ :: rest => .literal (text ++ after) position :: rest
  | segments => .literal text position :: segments

/-- The segments of tokens from `position` on, when the next placeholder is the `ordinal`-th. -/
def segments (d : Char) (position ordinal : Nat) : List Token → List Segment
  | [] => []
  | .placeholder name :: tokens =>
    .placeholder name position ordinal (d :: name) ::
      segments d (position + (d :: name).length) (ordinal + 1) tokens
  | t :: tokens =>
    consLiteral (t.source d) position
      (segments d (position + (t.source d).length) ordinal tokens)

end NamedSql
