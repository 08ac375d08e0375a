import NamedSql.Proofs.Query.Unclosed

/-!
# What is quoted does not depend on the delimiter

Two scans of a query with different delimiters see different placeholders and different doubled
delimiters, so they do not even stop at the same places. What is skipped as a whole, and what is
opened and never closed, is still the same in both.

**Theorem (`quoting_ignores_delimiter`).** For delimiters other than `$` and `/`, two scans of a
query have the same error or none, and skip the same spans. No placeholder of one overlaps a span
that the other skips.

Both are compared with a reading in which no character is a delimiter (`skim`). It takes the
characters of a placeholder or of a doubled delimiter one by one, and no span opens at any of them
(`skim_eq`). The two exceptions are real: `$` as a delimiter turns dollar-quoted literals off, and
the second `/` of a doubled one may open a comment.
-/

namespace NamedSql

/-! ## Reading without a delimiter -/

/-- What is read if no character is a delimiter. A quote is passed for one, and it is never reached
as such, since a quote always opens a literal. -/
def skim (before : Option Char) (s : Text) : Lexing := lex '\'' before s

/-- A token as it is read without a delimiter. -/
def Token.spell (d : Char) : Token → List Token
  | skipped span text => [.skipped span text]
  | t => (t.source d).map .plain

def spellOut (d : Char) (ts : List Token) : List Token := ts.flatMap (Token.spell d)

theorem spellOut_cons (d : Char) (t : Token) (ts : List Token) :
    spellOut d (t :: ts) = t.spell d ++ spellOut d ts := rfl

section

variable {before : Option Char} {c : Char} {s : Text}

theorem skim_plain (h : ¬ OpensSpan '\'' before (c :: s)) :
    skim before (c :: s) = (skim (some c) s).push [.plain c] := by
  have hc : c ≠ '\'' := by
    rintro rfl
    exact h (.string s)
  have hnext := next_of_not_opensSpan h
  rw [if_neg hc] at hnext
  exact lex_of_next hnext

theorem skim_name {name : Text} (h : ∀ c ∈ name, isNameChar c = true) (s : Text) :
    skim before (name ++ s) = (skim (name.getLast?.or before) s).push (name.map .plain) := by
  induction name generalizing before with
  | nil => simp [Lexing.push]
  | cons c name ih =>
    obtain ⟨hc, hname⟩ := List.forall_mem_cons.1 h
    have hlast : (c :: name).getLast?.or before = name.getLast?.or (some c) :=
      getLast?_append_or (List.cons_ne_nil c []) before
    rw [List.cons_append, skim_plain (not_opensSpan_of_isNameChar hc _), ih hname, hlast]
    rfl

/-- With which delimiter a text is read is of no account to a span, unless it is `$`. -/
theorem opensSpan_congr {d d' : Char} (hd : d ≠ '$') (hd' : d' ≠ '$') :
    OpensSpan d before s ↔ OpensSpan d' before s := by
  cases s with
  | nil => exact ⟨nofun, nofun⟩
  | cons c s => simp only [opensSpan_cons_iff, ne_eq, hd, hd', not_false_eq_true]

theorem next_congr_of_opensSpan {d d' : Char} (hd : d ≠ '$') (hd' : d' ≠ '$')
    (h : OpensSpan d before (c :: s)) : Token.next d before c s = Token.next d' before c s := by
  rcases opensSpan_cons_iff.1 h with
    rfl | rfl | ⟨rfl, hs⟩ | ⟨rfl, hs⟩ | ⟨rfl, -, hbefore, tag, body, htag⟩
  · rfl
  · rfl
  · simp [Token.next, hs]
  · simp [Token.next, hs]
  · simp [Token.next, hd, hd']

end

section

variable {d : Delimiter} {before : Option Char} {c : Char} {s : Text} {t : Token} {rest : Text}

/-- **What is one token with a delimiter is the same span without one**, or is read there character
by character. -/
theorem skim_token (hdollar : d.char ≠ '$') (hslash : d.char ≠ '/')
    (h : Token.next d.char before c s = .ok (t, rest)) :
    skim before (c :: s) = (skim (t.lastChar? d.char) rest).push (t.spell d.char) := by
  obtain ⟨hs, ht⟩ := next_eq_ok_iff.1 h
  have hquote : '\'' ≠ '$' := by decide
  have hcongr (before : Option Char) (s : Text) :
      OpensSpan d.char before s ↔ OpensSpan '\'' before s := opensSpan_congr hdollar hquote
  cases t with
  | skipped span text =>
    have hopen := ht.opensSpan_iff.2 ⟨span, text, rfl⟩
    rw [← hs] at hopen
    rw [next_congr_of_opensSpan hdollar hquote hopen] at h
    exact lex_of_next h
  | doubled =>
    cases ht with
    | doubled hopen =>
      have hsecond : ¬ OpensSpan d.char (some d.char) (d.char :: rest) := by
        intro hsecond
        rcases opensSpan_cons_iff.1 hsecond with hd | hd | ⟨hd, -⟩ | ⟨hd, -⟩ | ⟨hd, -⟩
        · exact hopen (hd ▸ .string _)
        · exact hopen (hd ▸ .identifier _)
        · -- Two delimiters `-` are no doubled one, but the start of a comment.
          exact hopen (hd ▸ .line _)
        · exact hslash hd
        · exact hdollar hd
      rw [hs]
      show skim before (d.char :: d.char :: rest) = _
      rw [skim_plain (mt (hcongr ..).2 hopen), skim_plain (mt (hcongr ..).2 hsecond)]
      rfl
  | placeholder name =>
    cases ht with
    | placeholder hopen hne hname hafter =>
      have hfirst : ¬ OpensSpan '\'' before (d.char :: (name ++ rest)) := mt (hcongr ..).2 hopen
      have hlast : (d.char :: name).getLast? = name.getLast?.or (some d.char) := by
        simpa using getLast?_append_or (List.cons_ne_nil d.char []) (b := name) none
      rw [hs]
      show skim before (d.char :: (name ++ rest)) = _
      rw [skim_plain hfirst, skim_name hname, ← hlast]
      rfl
  | plain c =>
    cases ht with
    | plain hopen hafter =>
      rw [hs]
      exact skim_plain (mt (hcongr ..).2 hopen)

/-- **Every delimiter but `$` and `/` leaves spans and errors as they are without one.** -/
theorem skim_eq (hdollar : d.char ≠ '$') (hslash : d.char ≠ '/') (before : Option Char)
    (s : Text) : skim before s =
      ⟨spellOut d.char (lex d.char before s).tokens, (lex d.char before s).stop⟩ := by
  induction hn : s.length using Nat.strong_induction_on generalizing before s with
  | _ n ih =>
    cases s with
    | nil =>
      rw [skim, lex_nil, lex_nil]
      rfl
    | cons c s =>
      cases hnext : Token.next d.char before c s with
      | error u =>
        have hopen := opensSpan_of_next_error hnext
        have hskim : Token.next '\'' before c s = .error u := by
          rw [← next_congr_of_opensSpan hdollar (by decide) hopen, hnext]
        rw [skim, lex_of_error hskim, lex_of_error hnext]
        rfl
      | ok next =>
        obtain ⟨t, rest⟩ := next
        rw [lex_of_next hnext, skim_token hdollar hslash hnext,
          ih rest.length (hn ▸ Token.next_length hnext) _ rest rfl]
        rfl

end

/-! ## Spans and their places -/

/-- A span with the place at which it starts. -/
structure Quoted where
  span : Span
  start : Nat
  text : Text
  deriving DecidableEq

def Quoted.stop (z : Quoted) : Nat := z.start + z.text.length

/-- The spans that are skipped among tokens that start at `p`. -/
def quotedFrom (d : Char) (p : Nat) : List Token → List Quoted
  | [] => []
  | .skipped span text :: ts => ⟨span, p, text⟩ :: quotedFrom d (p + text.length) ts
  | t :: ts => quotedFrom d (p + (t.source d).length) ts

/-- The spans that are skipped when a query is scanned. -/
def quotedSpans (d : Delimiter) (sql : Text) : List Quoted :=
  quotedFrom d.char 0 (lex d.char none sql).tokens

section

variable {d : Char} {ts : List Token} {p n : Nat}

theorem quotedFrom_map_plain_append (d : Char) (p : Nat) (s : Text) (ts : List Token) :
    quotedFrom d p (s.map .plain ++ ts) = quotedFrom d (p + s.length) ts := by
  induction s generalizing p with
  | nil => rfl
  | cons c s ih =>
    show quotedFrom d (p + 1) (s.map .plain ++ ts) = _
    rw [ih, List.length_cons, Nat.add_assoc, Nat.add_comm 1]

theorem quotedFrom_spellOut (d d' : Char) (p : Nat) (ts : List Token) :
    quotedFrom d' p (spellOut d ts) = quotedFrom d p ts := by
  induction ts generalizing p with
  | nil => rfl
  | cons t ts ih =>
    cases t with
    | skipped span text => exact congrArg (Quoted.mk span p text :: ·) (ih _)
    | _ =>
      rw [spellOut_cons]
      exact (quotedFrom_map_plain_append d' p _ _).trans (ih _)

theorem sourceOf_spellOut (d d' : Char) (ts : List Token) :
    sourceOf d' (spellOut d ts) = sourceOf d ts := by
  induction ts with
  | nil => rfl
  | cons t ts ih =>
    rw [spellOut_cons, sourceOf_append, ih, sourceOf_cons]
    congr 1
    cases t with
    | skipped span text => simp [Token.spell, Token.source]
    | _ => exact sourceOf_map_plain d' _

theorem start_of_mem_quotedFrom {z : Quoted} (h : z ∈ quotedFrom d p ts) : p ≤ z.start := by
  induction ts generalizing p with
  | nil => contradiction
  | cons t ts ih =>
    cases t with
    | skipped span text =>
      rcases List.mem_cons.1 h with rfl | h
      · exact Nat.le_refl _
      · exact Nat.le_of_add_right_le (ih h)
    | _ => exact Nat.le_of_add_right_le (ih h)

/-- A placeholder and a span of one scan come one after the other. -/
theorem placeholder_apart_of_mem {y : Segment} {z : Quoted} (hy : y ∈ occurrences d p n ts)
    (hz : z ∈ quotedFrom d p ts) :
    y.position + y.source.length ≤ z.start ∨ z.stop ≤ y.position := by
  induction ts generalizing p n with
  | nil => contradiction
  | cons t ts ih =>
    cases t with
    | placeholder name =>
      rcases List.mem_cons.1 hy with rfl | hy
      · exact .inl (start_of_mem_quotedFrom hz)
      · exact ih hy hz
    | skipped span text =>
      rcases List.mem_cons.1 hz with rfl | hz
      · change y ∈ occurrences d (p + text.length) n ts at hy
        exact .inr (position_of_mem_occurrences hy).1
      · exact ih hy hz
    | _ => exact ih hy hz

end

/-! ## Two delimiters -/

section

variable {d d' : Delimiter}

/-- A scan without a delimiter decides where a scan fails and what it skips. -/
theorem quotedSpans_eq (hdollar : d.char ≠ '$') (hslash : d.char ≠ '/') (sql : Text) :
    quotedSpans d sql = quotedFrom '\'' 0 (skim none sql).tokens := by
  rw [skim_eq hdollar hslash, quotedFrom_spellOut]
  rfl

theorem scan_eq_error_iff_skim (hdollar : d.char ≠ '$') (hslash : d.char ≠ '/') {sql : Text}
    {e : LexError} : scan d sql = .error e ↔
      ∃ u, (skim none sql).stop = some u ∧ e = ⟨u, sql, extent '\'' (skim none sql).tokens⟩ := by
  have hextent : extent '\'' (skim none sql).tokens =
      extent d.char (lex d.char none sql).tokens := by
    rw [skim_eq hdollar hslash, ← length_sourceOf, sourceOf_spellOut, length_sourceOf]
  have hstop : (skim none sql).stop = (lex d.char none sql).stop := by
    rw [skim_eq hdollar hslash]
  rw [scan_eq_error_iff, hextent, hstop]
  constructor
  · rintro ⟨ts, u, hlex, rfl⟩
    exact ⟨u, by rw [hlex], by rw [hlex]⟩
  · rintro ⟨u, hu, rfl⟩
    exact ⟨_, u, by rw [← hu], rfl⟩

/-- **The delimiter does not change what is quoted.** -/
theorem quoting_ignores_delimiter (hdollar : d.char ≠ '$') (hslash : d.char ≠ '/')
    (hdollar' : d'.char ≠ '$') (hslash' : d'.char ≠ '/') (sql : Text) :
    (∀ e, scan d sql = .error e ↔ scan d' sql = .error e) ∧
    quotedSpans d sql = quotedSpans d' sql ∧
    (∀ q, scan d sql = .ok q → ∀ y ∈ q.placeholders, ∀ z ∈ quotedSpans d' sql,
      y.position + y.source.length ≤ z.start ∨ z.stop ≤ y.position) ∧
    ∀ q, scan d' sql = .ok q → ∀ y ∈ q.placeholders, ∀ z ∈ quotedSpans d sql,
      y.position + y.source.length ≤ z.start ∨ z.stop ≤ y.position := by
  have hspans : quotedSpans d sql = quotedSpans d' sql := by
    rw [quotedSpans_eq hdollar hslash, quotedSpans_eq hdollar' hslash']
  have hapart {d : Delimiter} {q : Scanned} (hq : scan d sql = .ok q) {y : Segment}
      (hy : y ∈ q.placeholders) {z : Quoted} (hz : z ∈ quotedSpans d sql) :
      y.position + y.source.length ≤ z.start ∨ z.stop ≤ y.position := by
    obtain ⟨ts, hts, rfl⟩ := scan_eq_ok_iff.1 hq
    rw [placeholders_of_tokens] at hy
    rw [quotedSpans, lex_eq_iff.2 hts] at hz
    exact placeholder_apart_of_mem hy hz
  refine ⟨fun e => ?_, hspans, fun q hq y hy z hz => ?_, fun q hq y hy z hz => ?_⟩
  · rw [scan_eq_error_iff_skim hdollar hslash, scan_eq_error_iff_skim hdollar' hslash']
  · exact hapart hq hy (hspans ▸ hz)
  · exact hapart hq hy (hspans ▸ hz)

end

def Delimiter.hyphen : Delimiter := ⟨'-', by decide⟩

/-- A hyphen that starts a placeholder, a comment and nothing at all. -/
theorem quoting_ignores_delimiter_hyphen :
    ∃ q q', scan .colon "-a:b--:c\n'-d'".toList = .ok q ∧
      scan .hyphen "-a:b--:c\n'-d'".toList = .ok q' ∧
      q.placeholders = [.placeholder ['b'] 2 1 ":b".toList] ∧
      q'.placeholders = [.placeholder ['a'] 0 1 "-a".toList] ∧
      quotedSpans .colon "-a:b--:c\n'-d'".toList =
        [⟨.line, 4, "--:c\n".toList⟩, ⟨.string, 9, "'-d'".toList⟩] ∧
      quotedSpans .hyphen "-a:b--:c\n'-d'".toList =
        [⟨.line, 4, "--:c\n".toList⟩, ⟨.string, 9, "'-d'".toList⟩] := by
  have hq : scan .colon "-a:b--:c\n'-d'".toList = .ok ⟨"-a:b--:c\n'-d'".toList,
      [.literal "-a".toList 0, .placeholder ['b'] 2 1 ":b".toList,
        .literal "--:c\n'-d'".toList 4]⟩ := by decide +kernel
  have hq' : scan .hyphen "-a:b--:c\n'-d'".toList = .ok ⟨"-a:b--:c\n'-d'".toList,
      [.placeholder ['a'] 0 1 "-a".toList, .literal ":b--:c\n'-d'".toList 2]⟩ := by decide +kernel
  have hspans : quotedSpans .colon "-a:b--:c\n'-d'".toList =
      [⟨.line, 4, "--:c\n".toList⟩, ⟨.string, 9, "'-d'".toList⟩] := by decide +kernel
  have hcolon : Delimiter.colon.char ≠ '$' ∧ Delimiter.colon.char ≠ '/' := by decide
  have hhyphen : Delimiter.hyphen.char ≠ '$' ∧ Delimiter.hyphen.char ≠ '/' := by decide
  obtain ⟨-, hsame, -⟩ := quoting_ignores_delimiter hcolon.1 hcolon.2 hhyphen.1 hhyphen.2
    "-a:b--:c\n'-d'".toList
  exact ⟨_, _, hq, hq', by decide +kernel, by decide +kernel, hspans, hsame ▸ hspans⟩

end NamedSql
