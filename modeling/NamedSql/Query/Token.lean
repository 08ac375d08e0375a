import NamedSql.Query.Delimiter
import NamedSql.Text.Digit

/-!
# Tokens of a query

A query is read from left to right as a sequence of tokens. Quoted literals, comments and
dollar-quoted literals are skipped as wholes, so nothing inside them starts a placeholder. At each
place the first kind of token that opens there is taken, in this order: a quoted literal, a line
comment, a block comment, a dollar-quoted literal, a doubled delimiter, a placeholder, and
otherwise a single character.

**Nothing is lost (`next_source`).** A token and the text after it make up the text it was read
from. In particular the rest is shorter, which is why reading ends.
-/

namespace NamedSql

/-! ## Kinds of tokens -/

/-- What is skipped as a whole. -/
inductive Span where
  | string
  | identifier
  | line
  | block
  | dollar
  deriving DecidableEq

/-- What can be opened and never closed. -/
inductive Unclosed where
  | string
  | identifier
  | block
  | dollar
  deriving DecidableEq

inductive Token where
  | skipped (span : Span) (text : Text)
  /-- A doubled delimiter, which stands for itself. -/
  | doubled
  | placeholder (name : Text)
  | plain (c : Char)
  deriving DecidableEq

namespace Token

/-- The text of a token in a query with delimiter `d`. -/
def source (d : Char) : Token → Text
  | skipped _ text => text
  | doubled => [d, d]
  | placeholder name => d :: name
  | plain c => [c]

end Token

/-! ## Ends of skipped spans -/

/-- Splits just after the closing quote; a doubled quote does not close. -/
def splitQuoted (quote : Char) : Text → Option (Text × Text)
  | [] => none
  | c :: s =>
    if c = quote then
      match s with
      | c' :: s' =>
        if c' = quote then (splitQuoted quote s').map fun (a, b) => (quote :: quote :: a, b)
        else some ([quote], s)
      | [] => some ([quote], [])
    else (splitQuoted quote s).map fun (a, b) => (c :: a, b)

/-- Splits just after the first newline, or at the end. -/
def splitLine : Text → Text × Text
  | [] => ([], [])
  | c :: s => if c = '\n' then (['\n'], s) else ((c :: (splitLine s).1), (splitLine s).2)

/-- A `$` opens a literal only after something that could not continue into it. -/
def canOpenDollar : Option Char → Bool
  | none => true
  | some c => !isNameChar c && c != '$'

/-- The tag of a dollar-quoted literal and the text after its opener, when the text after a `$`
continues one. -/
def dollarTag? (s : Text) : Option (Text × Text) :=
  match s.dropWhile isNameChar with
  | '$' :: body =>
    if ((s.takeWhile isNameChar).head?.any isAnyDigit) then none
    else some (s.takeWhile isNameChar, body)
  | _ => none

def dollarMarker (tag : Text) : Text := '$' :: tag ++ ['$']

/-! ## One token -/

/-- The skipped span whose opener and remainder are given, or the reason why it does not end. -/
def Token.closed (span : Span) (opener : Text) (unclosed : Unclosed) :
    Option (Text × Text) → Except Unclosed (Token × Text)
  | some (text, rest) => .ok (.skipped span (opener ++ text), rest)
  | none => .error unclosed

/-- The token at the delimiter, with the text `s` after it. -/
def Token.atDelimiter (d : Char) (s : Text) : Token × Text :=
  if s.head? = some d then (.doubled, s.tail)
  else if s.takeWhile isNameChar = [] then (.plain d, s)
  else (.placeholder (s.takeWhile isNameChar), s.dropWhile isNameChar)

/-- The token at `c`, which stands after `before` and in front of `s`. -/
def Token.next (d : Char) (before : Option Char) (c : Char) (s : Text) :
    Except Unclosed (Token × Text) :=
  if c = '\'' then closed .string ['\''] .string (splitQuoted '\'' s)
  else if c = '"' then closed .identifier ['"'] .identifier (splitQuoted '"' s)
  else if c = '-' ∧ s.head? = some '-' then
    .ok (.skipped .line ('-' :: '-' :: (splitLine s.tail).1), (splitLine s.tail).2)
  else if c = '/' ∧ s.head? = some '*' then
    closed .block ['/', '*'] .block (splitAfter ['*', '/'] s.tail)
  else if c = '$' ∧ d ≠ '$' then
    match if canOpenDollar before then dollarTag? s else none with
    | some (tag, body) =>
      closed .dollar (dollarMarker tag) .dollar (splitAfter (dollarMarker tag) body)
    | none => .ok (.plain '$', s)
  else if c = d then .ok (atDelimiter d s)
  else .ok (.plain c, s)

/-! ## Nothing is lost -/

theorem splitQuoted_eq {q : Char} {s a b : Text} (h : splitQuoted q s = some (a, b)) :
    a ++ b = s := by
  fun_induction splitQuoted q s generalizing a b <;>
    grind [Option.map_eq_some_iff]

theorem splitLine_eq (s : Text) : (splitLine s).1 ++ (splitLine s).2 = s := by
  fun_induction splitLine s <;> simp_all

theorem dollarTag?_eq {s tag body : Text} (h : dollarTag? s = some (tag, body)) :
    tag ++ '$' :: body = s := by
  unfold dollarTag? at h
  split at h
  · next hs =>
    split at h
    · simp at h
    · simp only [Option.some.injEq, Prod.mk.injEq] at h
      obtain ⟨rfl, rfl⟩ := h
      rw [← hs, List.takeWhile_append_dropWhile]
  · simp at h

theorem Token.closed_source {d : Char} {span : Span} {opener body : Text} {u : Unclosed}
    {r : Option (Text × Text)} (hr : ∀ a b, r = some (a, b) → a ++ b = body) {t : Token}
    {rest : Text} (h : closed span opener u r = .ok (t, rest)) :
    t.source d ++ rest = opener ++ body := by
  rcases r with _ | ⟨a, b⟩
  · simp [closed] at h
  · simp only [closed, Except.ok.injEq, Prod.mk.injEq] at h
    obtain ⟨rfl, rfl⟩ := h
    simp [source, hr a b rfl]

theorem Token.atDelimiter_source (d : Char) (s : Text) :
    (atDelimiter d s).1.source d ++ (atDelimiter d s).2 = d :: s := by
  unfold atDelimiter
  split
  · cases s <;> simp_all [source]
  · split <;> simp [source]

/-- **A token and the text after it are the text that was read.** -/
theorem Token.next_source {d : Char} {before : Option Char} {c : Char} {s : Text} {t : Token}
    {rest : Text} (h : next d before c s = .ok (t, rest)) : t.source d ++ rest = c :: s := by
  unfold next at h
  split at h
  · next hc => exact hc ▸ closed_source (fun _ _ => splitQuoted_eq) h
  split at h
  · next hc => exact hc ▸ closed_source (fun _ _ => splitQuoted_eq) h
  split at h
  · next hc =>
    obtain ⟨rfl, hs⟩ := hc
    obtain ⟨s', rfl⟩ := List.head?_eq_some_iff.1 hs
    simp only [Except.ok.injEq, Prod.mk.injEq] at h
    obtain ⟨rfl, rfl⟩ := h
    simp [source, splitLine_eq]
  split at h
  · next hc =>
    obtain ⟨rfl, hs⟩ := hc
    obtain ⟨s', rfl⟩ := List.head?_eq_some_iff.1 hs
    simpa using closed_source (d := d) (fun _ _ => splitAfter_eq) h
  split at h
  · next hc =>
    obtain ⟨rfl, -⟩ := hc
    split at h
    · next tag body ht =>
      split at ht
      · rw [← dollarTag?_eq ht, closed_source (d := d) (fun _ _ => splitAfter_eq) h]
        simp [dollarMarker]
      · simp at ht
    · simp only [Except.ok.injEq, Prod.mk.injEq] at h
      obtain ⟨rfl, rfl⟩ := h
      rfl
  split at h
  · next hc =>
    simp only [Except.ok.injEq] at h
    rw [hc, ← atDelimiter_source, h]
  · simp only [Except.ok.injEq, Prod.mk.injEq] at h
    obtain ⟨rfl, rfl⟩ := h
    rfl

theorem Token.next_source_ne_nil {d : Char} {before : Option Char} {c : Char} {s : Text}
    {t : Token} {rest : Text} (h : next d before c s = .ok (t, rest)) : t.source d ≠ [] := by
  unfold next closed atDelimiter at h
  cases t <;> simp only [source] <;> grind [dollarMarker]

theorem Token.next_length {d : Char} {before : Option Char} {c : Char} {s : Text} {t : Token}
    {rest : Text} (h : next d before c s = .ok (t, rest)) : rest.length < (c :: s).length := by
  have hs := congrArg List.length (next_source h)
  have := List.length_pos_iff.2 (next_source_ne_nil h)
  simp only [List.length_append] at hs
  omega

/-! ## All tokens -/

/-- The tokens of a text, up to the first one that is opened and never closed. -/
structure Lexing where
  tokens : List Token
  stop : Option Unclosed
  deriving DecidableEq

/-- The character that stands before the text after a token. -/
def Token.lastChar? (d : Char) (t : Token) : Option Char := (t.source d).getLast?

/-- Reads a text that stands after `before` in a query with delimiter `d`. -/
def lex (d : Char) (before : Option Char) (s : Text) : Lexing :=
  match s with
  | [] => ⟨[], none⟩
  | c :: s =>
    match _h : Token.next d before c s with
    | .error u => ⟨[], some u⟩
    | .ok (t, rest) =>
      let l := lex d (t.lastChar? d) rest
      ⟨t :: l.tokens, l.stop⟩
termination_by s.length
decreasing_by exact Token.next_length _h

end NamedSql
