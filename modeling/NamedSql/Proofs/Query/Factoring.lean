import NamedSql.Proofs.Query.Grammar
import NamedSql.Query.Compiled

/-!
# Queries factor into tokens

A factorization of a query is a list of tokens that makes it up, in which each token stands, by
the grammar, between the text before it and the text after it. This says nothing about how the
tokens are found.

**Theorem (`scan_accepts_grammar`).** A query scans exactly when it has a factorization. There is
then only one, and the placeholders of the scan are its placeholder tokens.

The proof goes through the tokens that are read: reading a whole text is reading its first token
and then the rest, after the last character of that token (`Chained`), so a factorization is what
reading gives (`lex_eq_iff`).
-/

namespace NamedSql

/-- The text that tokens make up. -/
def sourceOf (d : Char) (ts : List Token) : Text := ts.flatMap (Token.source d)

@[simp] theorem sourceOf_nil (d : Char) : sourceOf d [] = [] := rfl

@[simp] theorem sourceOf_cons (d : Char) (t : Token) (ts : List Token) :
    sourceOf d (t :: ts) = t.source d ++ sourceOf d ts := rfl

theorem sourceOf_append (d : Char) (ts us : List Token) :
    sourceOf d (ts ++ us) = sourceOf d ts ++ sourceOf d us := List.flatMap_append

theorem sourceOf_map_plain (d : Char) (s : Text) : sourceOf d (s.map .plain) = s := by
  induction s with
  | nil => rfl
  | cons c s ih => simp [ih, Token.source]

theorem length_sourceOf (d : Char) (ts : List Token) : (sourceOf d ts).length = extent d ts := by
  induction ts with
  | nil => rfl
  | cons t ts ih => rw [sourceOf_cons, List.length_append, extent, ih]

/-- A factorization of a query into tokens of the grammar. -/
structure Factors (d : Char) (sql : Text) (ts : List Token) : Prop where
  source_eq : sourceOf d ts = sql
  stands : ∀ l t r, ts = l ++ t :: r → Stands d (sourceOf d l).getLast? t (sourceOf d r)

/-! ## Token after token -/

/-- Each token stands after the last character of the one before it. -/
def Chained (d : Char) (before : Option Char) : List Token → Prop
  | [] => True
  | t :: ts => Stands d before t (sourceOf d ts) ∧ Chained d (t.lastChar? d) ts

theorem Stands.source_ne_nil {d : Char} {before : Option Char} {t : Token} {after : Text}
    (h : Stands d before t after) : t.source d ≠ [] := by
  cases h <;> simp [Token.source, dollarMarker]

theorem getLast?_append_or {a b : Text} (ha : a ≠ []) (before : Option Char) :
    (a ++ b).getLast?.or before = b.getLast?.or a.getLast? := by
  obtain ⟨x, hx⟩ := Option.isSome_iff_exists.1 (List.getLast?_isSome.2 ha)
  cases hb : b.getLast? <;> simp [hx, hb]

theorem chained_iff {d : Char} {before : Option Char} {ts : List Token} :
    Chained d before ts ↔ ∀ l t r, ts = l ++ t :: r →
      Stands d ((sourceOf d l).getLast?.or before) t (sourceOf d r) := by
  induction ts generalizing before with
  | nil => simp [Chained]
  | cons t ts ih =>
    rw [Chained, ih]
    constructor
    · rintro ⟨ht, hts⟩ l u r h
      cases l with
      | nil =>
        obtain ⟨rfl, rfl⟩ := List.cons.inj h
        simpa using ht
      | cons v l =>
        obtain ⟨rfl, rfl⟩ := List.cons.inj h
        rw [sourceOf_cons, getLast?_append_or ht.source_ne_nil]
        exact hts l u r rfl
    · intro h
      have ht : Stands d before t (sourceOf d ts) := by simpa using h [] t ts rfl
      refine ⟨ht, fun l u r hts => ?_⟩
      have := h (t :: l) u r (by rw [hts, List.cons_append])
      rwa [sourceOf_cons, getLast?_append_or ht.source_ne_nil] at this

theorem Factors.chained {d : Char} {sql : Text} {ts : List Token} (h : Factors d sql ts) :
    Chained d none ts := chained_iff.2 (by simpa using h.stands)

/-! ## Reading a whole text -/

theorem lex_nil (d : Char) (before : Option Char) : lex d before [] = ⟨[], none⟩ := by
  rw [lex]

theorem lex_of_next {d : Char} {before : Option Char} {c : Char} {s rest : Text} {t : Token}
    (h : Token.next d before c s = .ok (t, rest)) :
    lex d before (c :: s) =
      ⟨t :: (lex d (t.lastChar? d) rest).tokens, (lex d (t.lastChar? d) rest).stop⟩ := by
  rw [lex]
  split
  · next h' => simp [h] at h'
  · next h' =>
    rw [h, Except.ok.injEq, Prod.mk.injEq] at h'
    obtain ⟨rfl, rfl⟩ := h'
    rfl

theorem lex_eq_cons {d : Char} {before : Option Char} {c : Char} {s : Text} {t : Token}
    {ts : List Token} (rest : Text) (h : Token.next d before c s = .ok (t, rest))
    (hrest : lex d (t.lastChar? d) rest = ⟨ts, none⟩) :
    lex d before (c :: s) = ⟨t :: ts, none⟩ := by
  rw [lex_of_next h, hrest]

theorem lex_of_error {d : Char} {before : Option Char} {c : Char} {s : Text} {u : Unclosed}
    (h : Token.next d before c s = .error u) : lex d before (c :: s) = ⟨[], some u⟩ := by
  rw [lex]
  split
  · next h' =>
    rw [h, Except.error.injEq] at h'
    rw [h']
  · next h' => simp [h] at h'

variable {d : Delimiter}

theorem lex_of_chained {before : Option Char} {ts : List Token} (h : Chained d.char before ts) :
    lex d.char before (sourceOf d.char ts) = ⟨ts, none⟩ := by
  induction ts generalizing before with
  | nil => exact lex_nil d.char before
  | cons t ts ih =>
    obtain ⟨ht, hts⟩ := h
    obtain ⟨c, s, hs⟩ := List.exists_cons_of_ne_nil ht.source_ne_nil
    rw [sourceOf_cons, hs]
    exact lex_eq_cons _ (next_of_stands ht (by simp [hs])) (ih hts)

theorem chained_of_lex {before : Option Char} {s : Text} {ts : List Token}
    (h : lex d.char before s = ⟨ts, none⟩) :
    sourceOf d.char ts = s ∧ Chained d.char before ts := by
  induction hn : s.length using Nat.strong_induction_on generalizing before s ts with
  | _ n ih =>
    cases s with
    | nil =>
      rw [lex_nil] at h
      obtain rfl : [] = ts := congrArg Lexing.tokens h
      exact ⟨rfl, trivial⟩
    | cons c s =>
      cases hnext : Token.next d.char before c s with
      | error u => simp [lex_of_error hnext] at h
      | ok r =>
        obtain ⟨t, rest⟩ := r
        rw [lex_of_next hnext, Lexing.mk.injEq] at h
        obtain ⟨rfl, hstop⟩ := h
        obtain ⟨hs, ht⟩ := next_eq_ok_iff.1 hnext
        have hrest : lex d.char (t.lastChar? d.char) rest =
            ⟨(lex d.char (t.lastChar? d.char) rest).tokens, none⟩ := by rw [← hstop]
        obtain ⟨hsource, hts⟩ := ih rest.length (hn ▸ Token.next_length hnext) hrest rfl
        rw [sourceOf_cons, hsource]
        exact ⟨hs.symm, by rwa [hsource], hts⟩

/-- **What is read from a text is its factorization.** -/
theorem lex_eq_iff {sql : Text} {ts : List Token} :
    lex d.char none sql = ⟨ts, none⟩ ↔ Factors d.char sql ts := by
  constructor
  · intro h
    obtain ⟨hsource, hts⟩ := chained_of_lex h
    exact ⟨hsource, by simpa using chained_iff.1 hts⟩
  · intro h
    rw [← h.source_eq]
    exact lex_of_chained h.chained

theorem Factors.unique {sql : Text} {ts ts' : List Token} (h : Factors d.char sql ts)
    (h' : Factors d.char sql ts') : ts' = ts :=
  congrArg Lexing.tokens ((lex_eq_iff.2 h').symm.trans (lex_eq_iff.2 h))

/-- A scan is the factorization, put into segments. -/
theorem scan_eq_ok_iff {sql : Text} {q : Scanned} :
    scan d sql = .ok q ↔ ∃ ts, Factors d.char sql ts ∧ q = ⟨sql, segments d.char 0 1 ts⟩ := by
  simp only [← lex_eq_iff, scan]
  cases hl : lex d.char none sql with
  | mk ts stop => cases stop <;> simp [eq_comm]

theorem scan_eq_error_iff {sql : Text} {e : LexError} :
    scan d sql = .error e ↔
      ∃ ts u, lex d.char none sql = ⟨ts, some u⟩ ∧ e = ⟨u, sql, extent d.char ts⟩ := by
  simp only [scan]
  cases hl : lex d.char none sql with
  | mk ts stop => cases stop <;> simp [eq_comm, and_assoc]

theorem scan_of_lex {sql : Text} {ts : List Token} (h : lex d.char none sql = ⟨ts, none⟩) :
    scan d sql = .ok ⟨sql, segments d.char 0 1 ts⟩ :=
  scan_eq_ok_iff.2 ⟨ts, lex_eq_iff.1 h, rfl⟩

/-- A query that is one placeholder. -/
theorem scan_placeholder {name : Text} (hne : name ≠ [])
    (hname : ∀ c ∈ name, isNameChar c = true) :
    scan .colon (':' :: name) = .ok ⟨':' :: name, [.placeholder name 0 1 (':' :: name)]⟩ := by
  have hopen : ¬ OpensSpan ':' none (':' :: name ++ []) := by simp [opensSpan_cons_iff]
  have hstands : Stands Delimiter.colon.char none (.placeholder name) [] :=
    .placeholder hopen hne hname nofun
  have hnext := next_of_stands hstands (c := ':') (s := name) (by simp [Token.source]; rfl)
  exact scan_of_lex (lex_eq_cons [] hnext (lex_nil ..))

/-! ## Placeholders -/

/-- The name of a placeholder and the offset of its delimiter. -/
def Segment.placeholder? : Segment → Option (Text × Nat)
  | literal _ _ => none
  | placeholder name p _ _ => some (name, p)

/-- The names of the placeholders among tokens that start at `p`, with their offsets. -/
def placeholdersFrom (d : Char) (p : Nat) : List Token → List (Text × Nat)
  | [] => []
  | .placeholder name :: ts => (name, p) :: placeholdersFrom d (p + (d :: name).length) ts
  | t :: ts => placeholdersFrom d (p + (t.source d).length) ts

theorem filterMap_consLiteral {α : Type} {f : Segment → Option α}
    (hf : ∀ text p, f (.literal text p) = none) (text : Text) (p : Nat) (segs : List Segment) :
    (consLiteral text p segs).filterMap f = segs.filterMap f := by
  unfold consLiteral
  split <;> simp [hf]

theorem filterMap_segments (d : Char) (p n : Nat) (ts : List Token) :
    (segments d p n ts).filterMap Segment.placeholder? = placeholdersFrom d p ts := by
  induction ts generalizing p n with
  | nil => rfl
  | cons t ts ih =>
    cases t with
    | placeholder name => simp [segments, placeholdersFrom, Segment.placeholder?, ih]
    | _ =>
      simp only [segments, placeholdersFrom]
      rw [filterMap_consLiteral (fun _ _ => rfl), ih]

/-- **The scanner accepts exactly the grammar.** A query scans if and only if it factors into
tokens; the factorization is then unique, and the placeholder segments are its placeholder
tokens, with their names and offsets, in order. -/
theorem scan_accepts_grammar (d : Delimiter) (sql : Text) :
    ((∃ q, scan d sql = .ok q) ↔ ∃ ts, Factors d.char sql ts) ∧
      ∀ ts, Factors d.char sql ts →
        (∀ ts', Factors d.char sql ts' → ts' = ts) ∧
          ∀ q, scan d sql = .ok q →
            q.segments.filterMap Segment.placeholder? = placeholdersFrom d.char 0 ts := by
  refine ⟨⟨?_, ?_⟩, fun ts hts => ⟨fun ts' => hts.unique, fun q hq => ?_⟩⟩
  · rintro ⟨q, hq⟩
    obtain ⟨ts, hts, -⟩ := scan_eq_ok_iff.1 hq
    exact ⟨ts, hts⟩
  · rintro ⟨ts, hts⟩
    exact ⟨_, scan_eq_ok_iff.2 ⟨ts, hts, rfl⟩⟩
  · obtain ⟨ts', hts', rfl⟩ := scan_eq_ok_iff.1 hq
    rw [hts.unique hts', filterMap_segments]

/-- Delimiters in a quoted literal, a dollar-quoted literal, a cast and a comment. -/
theorem scan_accepts_grammar_opaque :
    ∃ ts, Factors ':' "':a'''=$$:b$$::c/*:*/:d".toList ts ∧
      (∀ ts', Factors ':' "':a'''=$$:b$$::c/*:*/:d".toList ts' → ts' = ts) ∧
      ∀ q, scan .colon "':a'''=$$:b$$::c/*:*/:d".toList = .ok q →
        q.segments.filterMap Segment.placeholder? = [(['d'], 21)] := by
  have h : Factors Delimiter.colon.char "':a'''=$$:b$$::c/*:*/:d".toList
      [.skipped .string "':a'''".toList, .plain '=', .skipped .dollar "$$:b$$".toList, .doubled,
        .plain 'c', .skipped .block "/*:*/".toList, .placeholder ['d']] := by
    refine lex_eq_iff.1 (lex_eq_cons "=$$:b$$::c/*:*/:d".toList (by decide +kernel) ?_)
    refine lex_eq_cons "$$:b$$::c/*:*/:d".toList (by decide +kernel) ?_
    refine lex_eq_cons "::c/*:*/:d".toList (by decide +kernel) ?_
    refine lex_eq_cons "c/*:*/:d".toList (by decide +kernel) ?_
    refine lex_eq_cons "/*:*/:d".toList (by decide +kernel) ?_
    refine lex_eq_cons ":d".toList (by decide +kernel) ?_
    exact lex_eq_cons [] (by decide +kernel) (lex_nil ..)
  obtain ⟨hunique, hplaceholders⟩ := (scan_accepts_grammar .colon _).2 _ h
  exact ⟨_, h, hunique, hplaceholders⟩

end NamedSql
