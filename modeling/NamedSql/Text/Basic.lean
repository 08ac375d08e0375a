/-!
# Text

A text is its list of characters, so that offsets and lengths count characters and every function
on texts is a recursion on a list. Splitting after the first occurrence of a pattern loses nothing.
-/

namespace NamedSql

abbrev Text := List Char

/-- Splits a text just after the first occurrence of `pattern`. -/
def splitAfter (pattern : Text) : Text → Option (Text × Text)
  | [] => if pattern.isEmpty then some ([], []) else none
  | c :: s =>
    if pattern.isPrefixOf (c :: s) then some (pattern, (c :: s).drop pattern.length)
    else (splitAfter pattern s).map fun (a, b) => (c :: a, b)

theorem splitAfter_eq {p s a b : Text} (h : splitAfter p s = some (a, b)) : a ++ b = s := by
  induction s generalizing a b with
  | nil =>
    rw [splitAfter] at h
    split at h <;> grind
  | cons c s ih =>
    rw [splitAfter] at h
    split at h
    · next hp =>
      obtain ⟨t, ht⟩ := List.isPrefixOf_iff_prefix.1 hp
      obtain ⟨rfl, rfl⟩ := Prod.mk.inj (Option.some.inj h)
      rw [← ht, List.drop_left]
    · simp only [Option.map_eq_some_iff, Prod.exists, Prod.mk.injEq] at h
      obtain ⟨a', b', h', rfl, rfl⟩ := h
      simp [ih h']

/-- The decimal numeral of a number. -/
def decimal (n : Nat) : Text := Nat.toDigits 10 n

def decimalInt : Int → Text
  | .ofNat n => decimal n
  | .negSucc n => '-' :: decimal (n + 1)

/-- The items with `sep` between them. -/
def joinText (sep : Text) : List Text → Text
  | [] => []
  | [t] => t
  | t :: ts => t ++ sep ++ joinText sep ts

end NamedSql
