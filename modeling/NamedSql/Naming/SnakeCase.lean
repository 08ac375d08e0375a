import NamedSql.Text.Blank
import NamedSql.Text.Case
import NamedSql.Text.Digit

/-!
# Snake case

A name is brought into snake case in steps. Blanks at the ends fall away and separators become
underscores; an underscore is put before the last capital of an acronym that runs into a word, and
between a small letter or digit and a capital; several underscores become one; and at last all is
put in lower case.

Capitals and small letters of these rules are those of ASCII, digits those of every script.
-/

namespace NamedSql

def isCapital (c : Char) : Bool := 'A' ≤ c && c ≤ 'Z'

def isSmall (c : Char) : Bool := 'a' ≤ c && c ≤ 'z'

namespace SnakeCase

def isSeparator (c : Char) : Bool := c == '-' || c == '.' || isBlank c

/-- Every run of separators becomes one underscore. -/
def replaceSeparators : Text → Text
  | [] => []
  | [c] => if isSeparator c then ['_'] else [c]
  | c :: c' :: s =>
    if isSeparator c then
      if isSeparator c' then replaceSeparators (c' :: s) else '_' :: replaceSeparators (c' :: s)
    else c :: replaceSeparators (c' :: s)

def isAcronymChar (c : Char) : Bool := isCapital c || isDecimal c

/-- An acronym in front that runs into a word: the run up to its last capital, that capital, the
small letter after it, and the rest. -/
def acronym? (s : Text) : Option (Text × Char × Char × Text) :=
  let run := s.takeWhile isAcronymChar
  match run.getLast?, s.dropWhile isAcronymChar with
  | some last, c :: rest =>
    if run.dropLast ≠ [] ∧ isCapital last ∧ isSmall c then some (run.dropLast, last, c, rest)
    else none
  | _, _ => none

theorem acronym?_eq {s run rest : Text} {last c : Char}
    (h : acronym? s = some (run, last, c, rest)) : run ++ last :: c :: rest = s := by
  unfold acronym? at h
  simp only at h
  split at h
  · next last' c' rest' hl hd =>
    split at h
    · simp only [Option.some.injEq, Prod.mk.injEq] at h
      obtain ⟨rfl, rfl, rfl, rfl⟩ := h
      have hne : s.takeWhile isAcronymChar ≠ [] := by
        intro h0
        simp [h0] at hl
      rw [List.getLast?_eq_some_getLast hne, Option.some.injEq] at hl
      calc _ = ((s.takeWhile isAcronymChar).dropLast ++ [last']) ++ c' :: rest' := by simp
        _ = s.takeWhile isAcronymChar ++ s.dropWhile isAcronymChar := by
          rw [← hl, List.dropLast_concat_getLast, hd]
        _ = s := List.takeWhile_append_dropWhile
    · simp at h
  · simp at h

/-- An underscore goes before the last capital of an acronym that runs into a word. -/
def breakAcronyms (s : Text) : Text :=
  match s with
  | [] => []
  | c :: s' =>
    match _h : acronym? (c :: s') with
    | some (run, last, small, rest) => run ++ '_' :: last :: small :: breakAcronyms rest
    | none => c :: breakAcronyms s'
termination_by s.length
decreasing_by
  · have := congrArg List.length (acronym?_eq _h)
    simp at this ⊢
    omega
  · simp

/-- An underscore goes between a small letter or digit and a capital. -/
def breakWords : Text → Text
  | a :: b :: s =>
    if (isSmall a || isDecimal a) && isCapital b then a :: '_' :: b :: breakWords s
    else a :: breakWords (b :: s)
  | s => s

/-- Every run of underscores becomes one. -/
def collapse : Text → Text
  | '_' :: '_' :: s => collapse ('_' :: s)
  | c :: s => c :: collapse s
  | [] => []

end SnakeCase

open SnakeCase in
def snakeCase (s : Text) : Text :=
  lower (collapse (breakWords (breakAcronyms (replaceSeparators (strip s)))))

end NamedSql
