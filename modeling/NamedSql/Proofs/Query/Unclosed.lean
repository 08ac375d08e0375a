import Mathlib.Data.List.Basic
import NamedSql.Proofs.Query.Joining

/-!
# Text that is opened and never closed

A query fails to scan for one reason only: something is opened in it and not closed before its
end. The error gives the place of the opener.

**Theorem (`error_at_opener`).** What stands before that place scans on its own, and what stands
from there on fails at once and for the same reason. However the query goes on, it keeps the
placeholders before that place. If it scans in the end, then the opener has swallowed all that was
there, and the next placeholder comes later.

Each token that was read before the error still stands when the text after it is cut short
(`Stands.of_append`), and it still stands when the text goes on, because an opener is in between
(`ChainedTo.append`). A token that starts at the opener of a longer text reaches over the end of
the shorter one, since cut short it would have closed there (`next_append_of_error`).
-/

namespace NamedSql

/-! ## Openers -/

/-- A text that starts with the opener of what is never closed. -/
inductive OpensUnclosed (d : Char) : Unclosed → Text → Prop
  | string (s : Text) : OpensUnclosed d .string ('\'' :: s)
  | identifier (s : Text) : OpensUnclosed d .identifier ('"' :: s)
  | block (s : Text) : OpensUnclosed d .block ('/' :: '*' :: s)
  | dollar {tag : Text} (s : Text) : d ≠ '$' → IsTag tag →
      OpensUnclosed d .dollar (dollarMarker tag ++ s)

section

variable {d c : Char} {before : Option Char} {s x : Text} {t : Token} {u : Unclosed}

theorem OpensUnclosed.not_isNameChar (h : OpensUnclosed d u (c :: s)) : isNameChar c = false := by
  generalize hx : c :: s = x at h
  cases h with
  | string | identifier | block =>
    obtain ⟨rfl, -⟩ := List.cons.inj hx
    decide
  | dollar =>
    obtain ⟨rfl, -⟩ := List.cons.inj hx
    decide

theorem closed_eq_error {span : Span} {opener : Text} {u' : Unclosed} {r : Option (Text × Text)}
    (h : Token.closed span opener u r = .error u') : u' = u := by
  cases r with
  | none => exact (Except.error.inj h).symm
  | some r => simp [Token.closed] at h

theorem opensSpan_of_next_error (h : Token.next d before c s = .error u) :
    OpensSpan d before (c :: s) := by
  by_contra hopen
  rw [next_of_not_opensSpan hopen] at h
  contradiction

theorem opensUnclosed_of_next_error (h : Token.next d before c s = .error u) :
    OpensUnclosed d u (c :: s) := by
  rcases opensSpan_cons_iff.1 (opensSpan_of_next_error h) with
    rfl | rfl | ⟨rfl, hs⟩ | ⟨rfl, hs⟩ | ⟨rfl, hd, hbefore, tag, body, htag⟩
  · obtain rfl := closed_eq_error (by simpa [Token.next] using h)
    exact .string s
  · obtain rfl := closed_eq_error (by simpa [Token.next] using h)
    exact .identifier s
  · -- A line comment ends with the text at the latest.
    simp [Token.next, hs] at h
  · obtain rfl := closed_eq_error (by simpa [Token.next, hs] using h)
    obtain ⟨s, rfl⟩ := List.head?_eq_some_iff.1 hs
    exact .block s
  · have hcan := (canOpenDollar_iff before).2 hbefore
    obtain rfl := closed_eq_error (by simpa [Token.next, hd, hcan, htag] using h)
    have hopens := OpensUnclosed.dollar body hd (dollarTag?_shape htag)
    rw [← dollarTag?_eq htag]
    simpa [dollarMarker] using hopens

/-- A span opens where a token that is skipped as a whole stands, and nowhere else. -/
theorem Stands.opensSpan_iff (h : Stands d before t s) :
    OpensSpan d before (t.source d ++ s) ↔ ∃ span text, t = .skipped span text := by
  cases h with
  | string => exact ⟨fun _ => ⟨_, _, rfl⟩, fun _ => .string _⟩
  | identifier => exact ⟨fun _ => ⟨_, _, rfl⟩, fun _ => .identifier _⟩
  | line | lastLine => exact ⟨fun _ => ⟨_, _, rfl⟩, fun _ => .line _⟩
  | block => exact ⟨fun _ => ⟨_, _, rfl⟩, fun _ => .block _⟩
  | dollar hd hbefore htag =>
    refine ⟨fun _ => ⟨_, _, rfl⟩, fun _ => ?_⟩
    rw [Token.source, List.append_assoc, List.append_assoc]
    exact .dollar _ hd hbefore htag
  | doubled hno | placeholder hno | plain hno =>
    refine ⟨fun h => absurd h hno, ?_⟩
    rintro ⟨_, _, ⟨⟩⟩

/-- What fails after some character fails at the start of a text. -/
theorem next_none_of_error (h : Token.next d before c s = .error u) :
    Token.next d none c s = .error u := by
  have hsame : Token.next d none c s = Token.next d before c s := by
    rcases opensSpan_cons_iff.1 (opensSpan_of_next_error h) with
      rfl | rfl | ⟨rfl, hs⟩ | ⟨rfl, hs⟩ | ⟨rfl, hd, hbefore, tag, body, htag⟩
    · rfl
    · rfl
    · simp [Token.next, hs]
    · simp [Token.next, hs]
    · have hcan := (canOpenDollar_iff before).2 hbefore
      have hnone : canOpenDollar none = true := rfl
      simp only [Token.next, hcan, hnone]
  rw [hsame, h]

/-! ## Where the text is cut short -/

theorem OpensSpan.append (h : OpensSpan d before s) (x : Text) : OpensSpan d before (s ++ x) := by
  cases h with
  | string s => exact .string (s ++ x)
  | identifier s => exact .identifier (s ++ x)
  | line s => exact .line (s ++ x)
  | block s => exact .block (s ++ x)
  | dollar s hd hbefore htag =>
    rw [List.append_assoc]
    exact .dollar (s ++ x) hd hbefore htag

/-- **A token still stands when the text after it is cut short.** -/
theorem Stands.of_append (h : Stands d before t (s ++ x)) : Stands d before t s := by
  generalize hafter : s ++ x = after at h
  cases h with
  | string hbody hquote =>
    exact .string hbody fun hs => hquote (hafter ▸ List.mem_head?_append_of_mem_head? hs)
  | identifier hbody hquote =>
    exact .identifier hbody fun hs => hquote (hafter ▸ List.mem_head?_append_of_mem_head? hs)
  | line hbody => exact .line hbody
  | lastLine hbody =>
    obtain ⟨rfl, -⟩ := List.append_eq_nil_iff.1 hafter
    exact .lastLine hbody
  | block hbody => exact .block hbody
  | dollar hd hbefore htag hbody => exact .dollar hd hbefore htag hbody
  | doubled hopen =>
    refine .doubled fun h => hopen ?_
    rw [← hafter]
    exact h.append x
  | @placeholder name _ hopen hne hname hstop =>
    refine .placeholder (fun h => hopen ?_) hne hname fun c hc => ?_
    · rw [← hafter, ← List.append_assoc]
      exact h.append x
    · exact hstop c (hafter ▸ List.mem_head?_append_of_mem_head? hc)
  | plain hopen hstop =>
    refine .plain (fun h => hopen ?_) fun hc y hy => ?_
    · rw [← hafter]
      exact h.append x
    · exact hstop hc y (hafter ▸ List.mem_head?_append_of_mem_head? hy)

end

section

variable {d : Delimiter} {before : Option Char} {c : Char} {s x after : Text} {ts : List Token}
  {u : Unclosed}

theorem ChainedTo.chained {d : Char} (h : ChainedTo d before after ts) : Chained d before ts := by
  induction ts generalizing before with
  | nil => trivial
  | cons t ts ih =>
    obtain ⟨ht, hts⟩ := h
    exact ⟨ht.of_append, ih hts⟩

/-! ## Where the text goes on -/

/-- A character that is in no name shields the tokens before it. -/
theorem ChainedTo.append {d : Char} (h : ChainedTo d before (c :: s) ts)
    (hc : isNameChar c = false) (x : Text) : ChainedTo d before (c :: (s ++ x)) ts := by
  induction ts generalizing before with
  | nil => trivial
  | cons t ts ih =>
    obtain ⟨ht, hts⟩ := h
    refine ⟨?_, ih hts⟩
    have hshields : Shields d (sourceOf d ts ++ c :: s) x := .inl ⟨c, by simp, hc⟩
    have hclosed : t.openLine? = none := by
      apply Option.eq_none_iff_forall_ne_some.2
      intro line hline
      obtain ⟨hnil, -⟩ := ht.of_openLine? hline
      simp at hnil
    have happend := ht.append hshields hclosed
    rwa [List.append_assoc, List.cons_append] at happend

/-- What is opened in a text and not closed there is skipped as a whole or fails when the text goes
on, and what is skipped reaches over the end of the shorter text. -/
theorem next_append_of_error (h : Token.next d.char before c s = .error u) (x : Text) {t : Token}
    {rest : Text} (hnext : Token.next d.char before c (s ++ x) = .ok (t, rest)) :
    ∃ span text, t = .skipped span text ∧ (c :: s).length < text.length := by
  obtain ⟨hsource, ht⟩ := next_eq_ok_iff.1 hnext
  have hopen : OpensSpan d.char before (c :: (s ++ x)) := (opensSpan_of_next_error h).append x
  obtain ⟨span, text, rfl⟩ := ht.opensSpan_iff.1 (hsource ▸ hopen)
  refine ⟨span, text, rfl, ?_⟩
  by_contra hlength
  -- The token would end in the shorter text, and be read there.
  have hprefix : text <+: c :: s :=
    List.prefix_of_prefix_length_le ⟨rest, hsource.symm⟩ ⟨x, rfl⟩ (Nat.le_of_not_lt hlength)
  obtain ⟨r, hr⟩ := hprefix
  have hrest : rest = r ++ x := by
    rw [← List.cons_append, ← hr, List.append_assoc] at hsource
    exact (List.append_cancel_left hsource).symm
  subst hrest
  have hok := next_of_stands ht.of_append (c := c) (s := s) hr.symm
  rw [h] at hok
  contradiction

/-! ## The error of a query -/

theorem chainedTo_of_lex_error (h : lex d.char before s = ⟨ts, some u⟩) :
    ∃ c r, s = sourceOf d.char ts ++ c :: r ∧ ChainedTo d.char before (c :: r) ts ∧
      Token.next d.char ((sourceOf d.char ts).getLast?.or before) c r = .error u := by
  induction hn : s.length using Nat.strong_induction_on generalizing before s ts with
  | _ n ih =>
    cases s with
    | nil => simp [lex_nil] at h
    | cons c s =>
      cases hnext : Token.next d.char before c s with
      | error u' =>
        rw [lex_of_error hnext, Lexing.mk.injEq, Option.some.injEq] at h
        obtain ⟨rfl, rfl⟩ := h
        exact ⟨c, s, rfl, trivial, hnext⟩
      | ok next =>
        obtain ⟨t, rest⟩ := next
        rw [lex_of_next hnext, Lexing.mk.injEq] at h
        obtain ⟨rfl, hstop⟩ := h
        obtain ⟨hs, ht⟩ := next_eq_ok_iff.1 hnext
        have hrest : lex d.char (t.lastChar? d.char) rest =
            ⟨(lex d.char (t.lastChar? d.char) rest).tokens, some u⟩ := by rw [← hstop]
        obtain ⟨c', r, hsource, hts, herror⟩ :=
          ih rest.length (hn ▸ Token.next_length hnext) hrest rfl
        refine ⟨c', r, ?_, ⟨?_, hts⟩, ?_⟩
        · rw [sourceOf_cons, List.append_assoc, ← hsource, hs]
        · rwa [← hsource]
        · rwa [sourceOf_cons, getLast?_append_or ht.source_ne_nil]

theorem position_of_mem_occurrences {d : Char} {p n : Nat} {y : Segment}
    (h : y ∈ occurrences d p n ts) : p ≤ y.position ∧ y.position < p + extent d ts := by
  induction ts generalizing p n with
  | nil => contradiction
  | cons t ts ih =>
    have later {n : Nat} (h : y ∈ occurrences d (p + (t.source d).length) n ts) :
        p ≤ y.position ∧ y.position < p + extent d (t :: ts) := by
      have hy := ih h
      rw [extent]
      omega
    cases t with
    | placeholder name =>
      rcases List.mem_cons.1 h with rfl | h
      · simp only [Segment.position, extent, Token.source, List.length_cons]
        omega
      · exact later h
    | _ => exact later h

/-- After an error a longer query fails there or later, or what was opened goes on to be skipped. -/
theorem scan_append_of_error (h : lex d.char none s = ⟨ts, some u⟩) (x : Text) :
    (∃ e, scan d (s ++ x) = .error e ∧ extent d.char ts ≤ e.position) ∨
      ∃ q later, scan d (s ++ x) = .ok q ∧ q.placeholders = occurrences d.char 0 1 ts ++ later ∧
        ∀ y ∈ later, s.length < y.position := by
  obtain ⟨c, r, rfl, hts, herror⟩ := chainedTo_of_lex_error h
  have hc := (opensUnclosed_of_next_error herror).not_isNameChar
  have hlex := lex_of_chainedTo (hts.append hc x)
  rw [← List.cons_append, ← List.append_assoc, List.cons_append] at hlex
  cases hnext : Token.next d.char ((sourceOf d.char ts).getLast?.or none) c (r ++ x) with
  | error u' =>
    rw [lex_of_error hnext] at hlex
    refine .inl ⟨_, scan_eq_error_iff.2 ⟨_, u', hlex, rfl⟩, ?_⟩
    simp
  | ok next =>
    obtain ⟨t, rest⟩ := next
    obtain ⟨span, text, rfl, hlength⟩ := next_append_of_error herror x hnext
    rw [lex_of_next hnext] at hlex
    generalize hl : lex d.char _ rest = l at hlex
    obtain ⟨us, stop⟩ := l
    cases stop with
    | some u' =>
      refine .inl ⟨_, scan_eq_error_iff.2 ⟨_, u', hlex, rfl⟩, ?_⟩
      rw [extent_append]
      exact Nat.le_add_right _ _
    | none =>
      have hafter := occurrences_append d.char 0 1 ts (.skipped span text :: us)
      refine .inr ⟨_, _, scan_of_lex hlex, (placeholders_of_tokens ..).trans hafter, ?_⟩
      intro y hy
      change y ∈ occurrences d.char (0 + (sourceOf d.char ts).length + text.length) _ us at hy
      have hposition := (position_of_mem_occurrences hy).1
      rw [List.length_append]
      omega

/-- **An error points at the one opener that is never closed.** It is inside the query, with the
query itself, and names what is opened there. What stands before it scans, and what stands from
there on fails at its start for the same reason. If the query goes on, it fails there or later, or
has the placeholders before the opener and then only such as come after its former end. -/
theorem error_at_opener {sql : Text} {e : LexError} (h : scan d sql = .error e) :
    e.sql = sql ∧ e.position < sql.length ∧
      OpensUnclosed d.char e.cause (sql.drop e.position) ∧
      scan d (sql.drop e.position) = .error ⟨e.cause, sql.drop e.position, 0⟩ ∧
      ∃ q, scan d (sql.take e.position) = .ok q ∧
        (∀ y ∈ q.placeholders, y.position < e.position) ∧
        ∀ t, (∃ e', scan d (sql ++ t) = .error e' ∧ e.position ≤ e'.position) ∨
          ∃ q' later, scan d (sql ++ t) = .ok q' ∧
            q'.placeholders = q.placeholders ++ later ∧
            ∀ y ∈ later, sql.length < y.position := by
  obtain ⟨ts, u, hlex, rfl⟩ := scan_eq_error_iff.1 h
  obtain ⟨c, r, hsql, hts, herror⟩ := chainedTo_of_lex_error hlex
  have hlength : (sourceOf d.char ts).length = extent d.char ts := length_sourceOf d.char ts
  have htake : sql.take (extent d.char ts) = sourceOf d.char ts := by
    rw [hsql, List.take_left' hlength]
  have hdrop : sql.drop (extent d.char ts) = c :: r := by
    rw [hsql, List.drop_left' hlength]
  have hbefore : lex d.char none (sourceOf d.char ts) = ⟨ts, none⟩ := lex_of_chained hts.chained
  have hfrom : lex d.char none (c :: r) = ⟨[], some u⟩ := lex_of_error (next_none_of_error herror)
  have hinside : extent d.char ts < sql.length := by
    rw [hsql, List.length_append, hlength, List.length_cons]
    omega
  refine ⟨rfl, hinside, ?_, ?_, ⟨sourceOf d.char ts, segments d.char 0 1 ts⟩, ?_, ?_, ?_⟩
  · rw [hdrop]
    exact opensUnclosed_of_next_error herror
  · rw [hdrop]
    exact scan_eq_error_iff.2 ⟨[], u, hfrom, rfl⟩
  · rw [htake]
    exact scan_of_lex hbefore
  · intro y hy
    rw [placeholders_of_tokens] at hy
    simpa using (position_of_mem_occurrences hy).2
  · intro t
    rw [placeholders_of_tokens]
    exact scan_append_of_error hlex t

end

/-- A doubled quote closes nothing, so the string before it is open up to the end. -/
theorem error_at_opener_doubled_quote :
    scan .colon ":a='x'':b".toList = .error ⟨.string, ":a='x'':b".toList, 3⟩ ∧
      OpensUnclosed ':' .string "'x'':b".toList ∧
      scan .colon "'x'':b".toList = .error ⟨.string, "'x'':b".toList, 0⟩ ∧
      ∃ q, scan .colon ":a=".toList = .ok q ∧
        ∀ t, (∃ e, scan .colon (":a='x'':b".toList ++ t) = .error e ∧ 3 ≤ e.position) ∨
          ∃ q' later, scan .colon (":a='x'':b".toList ++ t) = .ok q' ∧
            q'.placeholders = q.placeholders ++ later ∧ ∀ y ∈ later, 9 < y.position := by
  have h : scan .colon ":a='x'':b".toList = .error ⟨.string, ":a='x'':b".toList, 3⟩ := by
    decide +kernel
  obtain ⟨-, -, hopens, halone, q, hq, -, honward⟩ := error_at_opener h
  exact ⟨h, hopens, halone, q, hq, honward⟩

end NamedSql
