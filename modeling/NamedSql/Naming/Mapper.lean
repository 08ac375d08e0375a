import NamedSql.Naming.SnakeCase

/-!
# Name mappers

A name mapper turns the declared name of a field into the name of the parameter that the field
answers. Two mappers are the same when they have the same label, since functions cannot be compared.
-/

namespace NamedSql

inductive MapperLabel where
  | snakeCase
  | identity
  | upper
  /-- A function that a caller supplied, told apart by a number. -/
  | custom (serial : Nat)
  deriving DecidableEq

def MapperLabel.name : MapperLabel → Text
  | snakeCase => "snake_case".toList
  | identity => "identity".toList
  | upper => "upper".toList
  | custom _ => "other".toList

structure NameMapper where
  label : MapperLabel
  apply : Text → Text

namespace NameMapper

def snake : NameMapper := ⟨.snakeCase, snakeCase⟩

def identity : NameMapper := ⟨.identity, id⟩

def upper : NameMapper := ⟨.upper, NamedSql.upper⟩

/-- Gives every field the same name. -/
def constant (serial : Nat) (name : Text) : NameMapper := ⟨.custom serial, fun _ => name⟩

/-- Puts a text in front of every name. -/
def leading (serial : Nat) (text : Text) : NameMapper := ⟨.custom serial, (text ++ ·)⟩

end NameMapper

end NamedSql
