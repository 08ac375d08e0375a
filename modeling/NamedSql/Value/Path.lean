import NamedSql.Text.Basic

/-!
# Paths

A path is a root and a list of parts. Empty parts and parts that name the current place are
dropped when a path is read; a path that starts with exactly two slashes keeps both.
-/

namespace NamedSql

structure Path where
  root : Text
  parts : List Text
  deriving DecidableEq

namespace Path

/-- The pieces of a text between the occurrences of a character. -/
def pieces (sep : Char) : Text → List Text
  | [] => [[]]
  | c :: s =>
    if c = sep then [] :: pieces sep s
    else match pieces sep s with
      | p :: ps => (c :: p) :: ps
      | [] => [[c]]

def ofText (s : Text) : Path where
  root := match (s.takeWhile (· == '/')).length with
    | 0 => []
    | 2 => ['/', '/']
    | _ => ['/']
  parts := (pieces '/' s).filter fun p => p ≠ [] ∧ p ≠ ['.']

def toText (p : Path) : Text :=
  if p.root.isEmpty && p.parts.isEmpty then ['.'] else p.root ++ joinText ['/'] p.parts

end Path

end NamedSql
