import NamedSql.Proofs.Query.Factoring

/-!
# Queries joined by a newline

A query that scans is read in the same way when more text comes after it, if a newline separates
the two: no part of what is read reaches over the newline.

**Theorem (`scan_joined`).** If `a` scans, then `a`, a newline and `b` scan exactly when `b` does.
The placeholders are those of `a` and then those of `b`, moved by the length of `a` and the newline
and counted on from those of `a`. An error of `b` is the error of both, moved in the same way.

Tokens that stand at the end of a text need not stand there when it goes on (`ChainedTo`). They do
when an inert character comes next, as a newline is for every delimiter (`Stands.append`). The one
exception is a line comment that only the end of the text has ended: it takes the newline in
(`closeLine`). What is read after the newline depends on nothing before it (`lex_congr`).
-/

namespace NamedSql

/-! ## Where the text goes on -/

/-- A character that is in no name and continues no token. -/
def Inert (d c : Char) : Prop := c ≠ d ∧ isNameChar c = false ∧ c ∉ ['\'', '"', '-', '*', '$']

theorem Delimiter.inert_newline (d : Delimiter) : Inert d.char '\n' := by
  refine ⟨fun h => ?_, by decide, by decide⟩
  have hvalid := d.valid
  rw [← h] at hvalid
  revert hvalid
  decide

/-- The text `s` after a token, or the start of `x` after it, keeps `x` out of the token. -/
def Shields (d : Char) (s x : Text) : Prop :=
  (∃ c ∈ s, isNameChar c = false) ∨ ∃ c, x.head? = some c ∧ Inert d c

section

variable {d c : Char} {before : Option Char} {s x : Text} {t : Token}

theorem Shields.head?_eq (h : Shields d s x) (hc : (s ++ x).head? = some c) :
    s.head? = some c ∨ Inert d c := by
  cases s with
  | nil =>
    obtain ⟨c', hc', -⟩ | ⟨c', hc', hinert⟩ := h
    · contradiction
    · obtain rfl : c' = c := Option.some.inj (hc'.symm.trans hc)
      exact .inr hinert
  | cons c' s => exact .inl hc

/-- A tag that is complete in a longer text is complete before the part that is kept out. -/
theorem Shields.dollarTag?_eq (h : Shields d s x) {tag body : Text}
    (ht : dollarTag? (s ++ x) = some (tag, body)) : ∃ body', dollarTag? s = some (tag, body') := by
  have htag : IsTag tag := dollarTag?_shape ht
  rcases List.append_eq_append_iff.1 (NamedSql.dollarTag?_eq ht) with
    ⟨s', rfl, hbody⟩ | ⟨x', rfl, hx⟩
  · cases s' with
    | nil =>
      -- Nothing but the tag comes before `x`, so nothing keeps `x` out.
      obtain ⟨c, hc, hname⟩ | ⟨c, hc, -, -, hinert⟩ := h
      · simp [htag.1 c (by simpa using hc)] at hname
      · obtain rfl : x = '$' :: body := hbody.symm
        obtain rfl : '$' = c := Option.some.inj hc
        simp at hinert
    | cons c' s' =>
      obtain ⟨rfl, -⟩ := List.cons.inj hbody
      exact ⟨s', dollarTag?_of htag s'⟩
  · -- The tag ends in `x`, so all of `s` is in it.
    obtain ⟨c, hc, hname⟩ | ⟨c, hc, -, hname, hinert⟩ := h
    · simp [htag.1 c (List.mem_append_left _ hc)] at hname
    · cases x' with
      | nil =>
        rw [hx] at hc
        obtain rfl : '$' = c := Option.some.inj hc
        simp at hinert
      | cons c' x' =>
        rw [hx] at hc
        obtain rfl : c' = c := Option.some.inj hc
        simp [htag.1 c' (by simp)] at hname

theorem Shields.opensSpan (h : Shields d s x) (hopen : OpensSpan d before (c :: (s ++ x))) :
    OpensSpan d before (c :: s) := by
  rw [opensSpan_cons_iff] at hopen ⊢
  rcases hopen with hq | hi | ⟨hc, hs⟩ | ⟨hc, hs⟩ | ⟨hc, hd, hbefore, tag, body, htag⟩
  · exact .inl hq
  · exact .inr (.inl hi)
  · rcases h.head?_eq hs with hs | ⟨-, -, hinert⟩
    · exact .inr (.inr (.inl ⟨hc, hs⟩))
    · simp at hinert
  · rcases h.head?_eq hs with hs | ⟨-, -, hinert⟩
    · exact .inr (.inr (.inr (.inl ⟨hc, hs⟩)))
    · simp at hinert
  · exact .inr (.inr (.inr (.inr ⟨hc, hd, hbefore, tag, h.dollarTag?_eq htag⟩)))

/-- Whether a delimiter opens a span is decided by the character after it. -/
theorem OpensSpan.of_head?_eq {before' : Option Char} {s' : Text}
    (h : OpensSpan d before (d :: s)) (hs : s.head? = s'.head?) :
    OpensSpan d before' (d :: s') := by
  rw [opensSpan_cons_iff] at h ⊢
  rcases h with h | h | ⟨hc, h⟩ | ⟨hc, h⟩ | ⟨hd, hne, -⟩
  · exact .inl h
  · exact .inr (.inl h)
  · exact .inr (.inr (.inl ⟨hc, hs ▸ h⟩))
  · exact .inr (.inr (.inr (.inl ⟨hc, hs ▸ h⟩)))
  · exact absurd hd hne

/-- The text of a line comment that no newline ends. -/
def Token.openLine? : Token → Option Text
  | skipped .line text => if '\n' ∈ text then none else some text
  | _ => none

theorem Stands.of_openLine? {text : Text} (h : Stands d before t s)
    (ht : t.openLine? = some text) :
    s = [] ∧ ∃ body, text = '-' :: '-' :: body ∧ t = .skipped .line text ∧ '\n' ∉ body := by
  cases h with
  | line => simp [Token.openLine?] at ht
  | @lastLine body hbody =>
    obtain rfl : '-' :: '-' :: body = text := by simpa [Token.openLine?, hbody] using ht
    exact ⟨rfl, body, rfl, rfl, hbody⟩
  | _ => simp [Token.openLine?] at ht

/-- **A token still stands when the text goes on**, unless it was an open line comment. -/
theorem Stands.append (h : Stands d before t s) (hx : Shields d s x)
    (ht : t.openLine? = none) : Stands d before t (s ++ x) := by
  cases h with
  | string hbody hafter =>
    refine .string hbody fun hq => ?_
    rcases hx.head?_eq hq with hq | ⟨-, -, hinert⟩
    · exact hafter hq
    · simp at hinert
  | identifier hbody hafter =>
    refine .identifier hbody fun hq => ?_
    rcases hx.head?_eq hq with hq | ⟨-, -, hinert⟩
    · exact hafter hq
    · simp at hinert
  | line hbody => exact .line hbody
  | lastLine hbody => simp [Token.openLine?, hbody] at ht
  | block hbody => exact .block hbody
  | dollar hd hbefore htag hbody => exact .dollar hd hbefore htag hbody
  | doubled hopen => exact .doubled fun h => hopen (h.of_head?_eq rfl)
  | @placeholder name _ hopen hne hname hafter =>
    refine .placeholder (fun h => hopen (h.of_head?_eq ?_)) hne hname fun c hc => ?_
    · obtain ⟨n, name, rfl⟩ := List.exists_cons_of_ne_nil hne
      rfl
    · rcases hx.head?_eq hc with hc | ⟨-, hinert, -⟩
      · exact hafter c hc
      · exact hinert
  | plain hopen hafter =>
    refine .plain (fun h => hopen (hx.opensSpan h)) fun hcd y hy => ?_
    rcases hx.head?_eq hy with hy | ⟨hne, hname, -⟩
    · exact hafter hcd y hy
    · exact ⟨hne, hname⟩

end

/-! ## Reading on -/

/-- Each token stands after the last character of the one before it, and `after` comes after the
last one. -/
def ChainedTo (d : Char) (before : Option Char) (after : Text) : List Token → Prop
  | [] => True
  | t :: ts => Stands d before t (sourceOf d ts ++ after) ∧ ChainedTo d (t.lastChar? d) after ts

/-- What is read when some tokens are read first. -/
def Lexing.push (ts : List Token) (l : Lexing) : Lexing := ⟨ts ++ l.tokens, l.stop⟩

variable {d : Delimiter} {before before' : Option Char} {after a b : Text} {ts us : List Token}

theorem lex_of_chainedTo (h : ChainedTo d.char before after ts) :
    lex d.char before (sourceOf d.char ts ++ after) =
      (lex d.char ((sourceOf d.char ts).getLast?.or before) after).push ts := by
  induction ts generalizing before with
  | nil => simp [Lexing.push]
  | cons t ts ih =>
    obtain ⟨ht, hts⟩ := h
    obtain ⟨c, s, hs⟩ := List.exists_cons_of_ne_nil ht.source_ne_nil
    have hnext : Token.next d.char before c (s ++ (sourceOf d.char ts ++ after)) =
        .ok (t, sourceOf d.char ts ++ after) := next_of_stands ht (by simp [hs])
    have hlast : (sourceOf d.char (t :: ts)).getLast?.or before =
        (sourceOf d.char ts).getLast?.or (t.lastChar? d.char) := by
      rw [sourceOf_cons, getLast?_append_or ht.source_ne_nil, Token.lastChar?]
    rw [hlast, sourceOf_cons, List.append_assoc, hs, List.cons_append, lex_of_next hnext, ih hts]
    rfl

/-- Only whether a dollar-quoted literal may open depends on the character before a text. -/
theorem lex_congr (h : canOpenDollar before = canOpenDollar before') (s : Text) :
    lex d.char before s = lex d.char before' s := by
  cases s with
  | nil => rw [lex_nil, lex_nil]
  | cons c s =>
    have hnext : Token.next d.char before c s = Token.next d.char before' c s := by
      unfold Token.next
      rw [h]
    cases hn : Token.next d.char before c s with
    | error u => rw [lex_of_error hn, lex_of_error (hnext ▸ hn)]
    | ok r => rw [lex_of_next hn, lex_of_next (hnext ▸ hn)]

/-! ## Newlines -/

/-- The tokens of a text when a newline comes after it: an open line comment takes it in. -/
def closeLine : List Token → List Token
  | [] => [.plain '\n']
  | t :: ts =>
    match t.openLine? with
    | some text => .skipped .line (text ++ ['\n']) :: ts
    | none => t :: closeLine ts

theorem Chained.eq_nil {d : Char} (h : Chained d before ts) (hs : sourceOf d ts = []) :
    ts = [] := by
  cases ts with
  | nil => rfl
  | cons t ts =>
    have hne := h.1.source_ne_nil
    simp_all

theorem sourceOf_closeLine {d : Char} (h : Chained d before ts) :
    sourceOf d (closeLine ts) = sourceOf d ts ++ ['\n'] := by
  induction ts generalizing before with
  | nil => rfl
  | cons t ts ih =>
    obtain ⟨ht, hts⟩ := h
    unfold closeLine
    split
    · next text htext =>
      obtain ⟨hnil, -, -, rfl, -⟩ := ht.of_openLine? htext
      simp [hnil, Token.source]
    · rw [sourceOf_cons, sourceOf_cons, ih hts, List.append_assoc]

theorem Chained.chainedTo_closeLine (h : Chained d.char before ts) (after : Text) :
    ChainedTo d.char before after (closeLine ts) := by
  have hinert := d.inert_newline
  induction ts generalizing before with
  | nil =>
    have hopen : ¬ OpensSpan d.char before ('\n' :: after) := by simp [opensSpan_cons_iff]
    exact ⟨.plain hopen fun h => absurd h hinert.1, trivial⟩
  | cons t ts ih =>
    obtain ⟨ht, hts⟩ := h
    unfold closeLine
    split
    · next text htext =>
      obtain ⟨hnil, body, rfl, -, hbody⟩ := ht.of_openLine? htext
      obtain rfl := hts.eq_nil hnil
      exact ⟨.line hbody, trivial⟩
    · next htext =>
      refine ⟨?_, ih hts⟩
      rw [sourceOf_closeLine hts, List.append_assoc]
      exact ht.append (.inr ⟨'\n', rfl, hinert⟩) htext

/-- **A newline ends everything that was being read.** -/
theorem lex_newline (h : lex d.char none a = ⟨ts, none⟩) (b : Text) :
    lex d.char none (a ++ '\n' :: b) = (lex d.char none b).push (closeLine ts) := by
  obtain ⟨rfl, hts⟩ := chained_of_lex h
  have hsource := sourceOf_closeLine hts
  have hbefore : canOpenDollar (some '\n') = canOpenDollar none := by decide
  calc lex d.char none (sourceOf d.char ts ++ '\n' :: b)
      = lex d.char none (sourceOf d.char (closeLine ts) ++ b) := by
        rw [hsource, List.append_assoc, List.singleton_append]
    _ = (lex d.char (some '\n') b).push (closeLine ts) := by
        rw [lex_of_chainedTo (hts.chainedTo_closeLine b), hsource]
        simp
    _ = (lex d.char none b).push (closeLine ts) := by rw [lex_congr hbefore]

/-! ## Placeholders -/

namespace Segment

/-- A segment in a longer text, after `k` more characters and `n` more placeholders. -/
def shift (k n : Nat) : Segment → Segment
  | literal text p => literal text (p + k)
  | placeholder name p m text => placeholder name (p + k) (m + n) text

theorem shift_shift (k n k' n' : Nat) (s : Segment) :
    (s.shift k n).shift k' n' = s.shift (k + k') (n + n') := by
  cases s <;> simp [shift, Nat.add_assoc]

@[simp] theorem name?_shift (k n : Nat) (s : Segment) : (s.shift k n).name? = s.name? := by
  cases s <;> rfl

def isPlaceholder (s : Segment) : Bool := s.name?.isSome

@[simp] theorem isPlaceholder_literal (text : Text) (p : Nat) :
    (literal text p).isPlaceholder = false := rfl

@[simp] theorem isPlaceholder_placeholder (name : Text) (p n : Nat) (text : Text) :
    (placeholder name p n text).isPlaceholder = true := rfl

end Segment

/-- The placeholders of a query, in order. -/
def Scanned.placeholders (q : Scanned) : List Segment := q.segments.filter Segment.isPlaceholder

theorem Scanned.names_eq (q : Scanned) : q.names = q.placeholders.filterMap Segment.name? := by
  unfold names placeholders
  induction q.segments with
  | nil => rfl
  | cons s segs ih =>
    cases s with
    | literal text p => exact ih
    | placeholder name p n text => exact congrArg (name :: ·) ih

/-- The placeholders among tokens that start at `p`, the first of which has ordinal `n`. -/
def occurrences (d : Char) (p n : Nat) : List Token → List Segment
  | [] => []
  | .placeholder name :: ts =>
    .placeholder name p n (d :: name) :: occurrences d (p + (d :: name).length) (n + 1) ts
  | t :: ts => occurrences d (p + (t.source d).length) n ts

section

variable {d : Char}

theorem filter_segments (d : Char) (p n : Nat) (ts : List Token) :
    (segments d p n ts).filter Segment.isPlaceholder = occurrences d p n ts := by
  have hcons (text : Text) (p : Nat) (segs : List Segment) :
      (consLiteral text p segs).filter Segment.isPlaceholder =
        segs.filter Segment.isPlaceholder := by
    unfold consLiteral
    split <;> simp
  induction ts generalizing p n with
  | nil => rfl
  | cons t ts ih =>
    cases t with
    | placeholder name => simp [segments, occurrences, List.filter_cons, ih]
    | _ => simp only [segments, occurrences, hcons, ih]

theorem occurrences_append (d : Char) (p n : Nat) (ts us : List Token) :
    occurrences d p n (ts ++ us) = occurrences d p n ts ++
      occurrences d (p + (sourceOf d ts).length) (n + (occurrences d p n ts).length) us := by
  induction ts generalizing p n with
  | nil => rfl
  | cons t ts ih =>
    cases t with
    | placeholder name =>
      simp only [List.cons_append, occurrences, ih, sourceOf_cons, Token.source, List.length_append,
        List.length_cons, Nat.add_assoc, Nat.add_comm 1]
    | _ =>
      simp only [List.cons_append, occurrences, ih, sourceOf_cons, List.length_append,
        Nat.add_assoc]

theorem occurrences_shift (d : Char) (p n k m : Nat) (ts : List Token) :
    occurrences d (p + k) (n + m) ts = (occurrences d p n ts).map (Segment.shift k m) := by
  induction ts generalizing p n with
  | nil => rfl
  | cons t ts ih =>
    cases t with
    | placeholder name =>
      simp only [occurrences, List.map_cons, Segment.shift, Nat.add_right_comm _ k,
        Nat.add_right_comm _ m, ih]
    | _ => simp only [occurrences, Nat.add_right_comm _ k, ih]

theorem Chained.occurrences_closeLine (h : Chained d before ts) (p n : Nat) :
    occurrences d p n (closeLine ts) = occurrences d p n ts := by
  induction ts generalizing before p n with
  | nil => rfl
  | cons t ts ih =>
    obtain ⟨ht, hts⟩ := h
    unfold closeLine
    split
    · next text htext =>
      obtain ⟨hnil, -, -, rfl, -⟩ := ht.of_openLine? htext
      obtain rfl := hts.eq_nil hnil
      rfl
    · cases t <;> simp only [occurrences, ih hts]

end

/-! ## Joined queries -/

theorem extent_append (d : Char) (ts us : List Token) :
    extent d (ts ++ us) = extent d ts + extent d us := by
  simp only [← length_sourceOf, sourceOf_append, List.length_append]

theorem placeholders_of_tokens (d : Char) (sql : Text) (ts : List Token) :
    (⟨sql, segments d 0 1 ts⟩ : Scanned).placeholders = occurrences d 0 1 ts :=
  filter_segments d 0 1 ts

/-- The newline and what comes after it leave the first query as it was read. -/
theorem extent_closeLine (h : lex d.char none a = ⟨ts, none⟩) :
    extent d.char (closeLine ts) = a.length + 1 := by
  obtain ⟨rfl, hts⟩ := chained_of_lex h
  rw [← length_sourceOf, sourceOf_closeLine hts, List.length_append, List.length_singleton]

theorem scan_newline_of_ok {qa qb : Scanned} (ha : scan d a = .ok qa) (hb : scan d b = .ok qb) :
    ∃ q, scan d (a ++ '\n' :: b) = .ok q ∧ q.placeholders =
      qa.placeholders ++
        qb.placeholders.map (Segment.shift (a.length + 1) qa.placeholders.length) := by
  obtain ⟨ts, hts, rfl⟩ := scan_eq_ok_iff.1 ha
  obtain ⟨us, hus, rfl⟩ := scan_eq_ok_iff.1 hb
  have hlex := lex_newline (lex_eq_iff.2 hts) b
  rw [lex_eq_iff.2 hus, Lexing.push] at hlex
  refine ⟨_, scan_of_lex hlex, ?_⟩
  simp only [placeholders_of_tokens]
  rw [occurrences_append, hts.chained.occurrences_closeLine, length_sourceOf,
    extent_closeLine (lex_eq_iff.2 hts), occurrences_shift]

theorem scan_newline_of_error {qa : Scanned} {e : LexError} (ha : scan d a = .ok qa)
    (hb : scan d b = .error e) :
    scan d (a ++ '\n' :: b) =
      .error ⟨e.cause, a ++ '\n' :: b, a.length + 1 + e.position⟩ := by
  obtain ⟨ts, hts, -⟩ := scan_eq_ok_iff.1 ha
  obtain ⟨us, u, hus, rfl⟩ := scan_eq_error_iff.1 hb
  have hlex := lex_newline (lex_eq_iff.2 hts) b
  rw [hus, Lexing.push] at hlex
  refine scan_eq_error_iff.2 ⟨_, _, hlex, ?_⟩
  rw [extent_append, extent_closeLine (lex_eq_iff.2 hts)]

theorem names_of_placeholders_eq {q qa qb : Scanned} {k n : Nat}
    (h : q.placeholders = qa.placeholders ++ qb.placeholders.map (Segment.shift k n)) :
    q.names = qa.names ++ qb.names := by
  simp only [Scanned.names_eq, h, List.filterMap_append, List.filterMap_map]
  congr 2
  exact funext fun s => s.name?_shift k n

theorem compile_of_scan {sql : Text} {q : Scanned} (h : scan d sql = .ok q) (style : Style) :
    compile d style sql = .ok (q.render style) := by
  rw [compile, h]
  rfl

/-- **Scanning is compositional across newlines.** After a query that scans and a newline, any text
scans as it does alone, with its placeholders and its error moved behind that query. -/
theorem scan_joined {qa : Scanned} (ha : scan d a = .ok qa) (b : Text) :
    (∀ qb, scan d b = .ok qb →
      ∃ q, scan d (a ++ '\n' :: b) = .ok q ∧
        q.placeholders = qa.placeholders ++
          qb.placeholders.map (Segment.shift (a.length + 1) qa.placeholders.length) ∧
        ∀ style, ∃ ca cb c, compile d style a = .ok ca ∧ compile d style b = .ok cb ∧
          compile d style (a ++ '\n' :: b) = .ok c ∧ c.names = ca.names ++ cb.names) ∧
    ∀ e, scan d b = .error e →
      scan d (a ++ '\n' :: b) =
        .error ⟨e.cause, a ++ '\n' :: b, a.length + 1 + e.position⟩ := by
  refine ⟨fun qb hb => ?_, fun e => scan_newline_of_error ha⟩
  obtain ⟨q, hq, hplaceholders⟩ := scan_newline_of_ok ha hb
  exact ⟨q, hq, hplaceholders, fun style => ⟨_, _, _, compile_of_scan ha style,
    compile_of_scan hb style, compile_of_scan hq style, names_of_placeholders_eq hplaceholders⟩⟩

/-- An open line comment, with the delimiter in it, before a query. -/
theorem scan_joined_open_comment :
    ∃ qa qb q, scan .colon "=:a--:".toList = .ok qa ∧ scan .colon ":b".toList = .ok qb ∧
      scan .colon "=:a--:\n:b".toList = .ok q ∧
      q.placeholders =
        [.placeholder ['a'] 1 1 ":a".toList, .placeholder ['b'] 7 2 ":b".toList] := by
  have ha : scan .colon "=:a--:".toList = .ok ⟨"=:a--:".toList, [.literal ['='] 0,
      .placeholder ['a'] 1 1 ":a".toList, .literal "--:".toList 3]⟩ := by decide +kernel
  have hb : scan .colon ":b".toList = .ok ⟨":b".toList,
      [.placeholder ['b'] 0 1 ":b".toList]⟩ := by decide +kernel
  obtain ⟨q, hq, hplaceholders, -⟩ := (scan_joined ha ":b".toList).1 _ hb
  exact ⟨_, _, q, ha, hb, hq, by rw [hplaceholders]; decide +kernel⟩

end NamedSql
