import Mathlib.Tactic.ByContra
import NamedSql.Proofs.Text.Words
import NamedSql.Query.Token

/-!
# The grammar of tokens

What each kind of token looks like, said without the functions that read them: a relation between
a token, the character before it and the text after it.

**Theorem (`next_eq_ok_iff`).** Reading one token succeeds with a token and a rest exactly when
the text is made up of the two and the token stands there by the grammar.

Each reader of a span is treated first, in two directions: it finds what has the shape of the
span (`_of`), and what it finds has that shape (`_shape`).
-/

namespace NamedSql

/-! ## Shapes of spans -/

/-- A text in which every `q` belongs to a pair. -/
inductive Paired (q : Char) : Text → Prop
  | nil : Paired q []
  | pair {s : Text} : Paired q s → Paired q (q :: q :: s)
  | other {c : Char} {s : Text} : c ≠ q → Paired q s → Paired q (c :: s)

/-- In `body ++ p`, the first occurrence of `p` is the one at the end. -/
def FirstAtEnd (p body : Text) : Prop := ∀ a b, body ++ p = a ++ p ++ b → b = []

/-- The tag of a dollar-quoted literal. -/
def IsTag (tag : Text) : Prop :=
  (∀ c ∈ tag, isNameChar c = true) ∧ ∀ c, tag.head? = some c → isAnyDigit c = false

/-- A dollar-quoted literal may open after this character. -/
def MayOpenDollar (before : Option Char) : Prop :=
  ∀ c, before = some c → isNameChar c = false ∧ c ≠ '$'

/-- A text that starts with the opener of a quoted literal, a comment or a dollar-quoted literal. -/
inductive OpensSpan (d : Char) (before : Option Char) : Text → Prop
  | string (s : Text) : OpensSpan d before ('\'' :: s)
  | identifier (s : Text) : OpensSpan d before ('"' :: s)
  | line (s : Text) : OpensSpan d before ('-' :: '-' :: s)
  | block (s : Text) : OpensSpan d before ('/' :: '*' :: s)
  | dollar {tag : Text} (s : Text) : d ≠ '$' → MayOpenDollar before → IsTag tag →
      OpensSpan d before (dollarMarker tag ++ s)

/-- A token stands between the character `before` and the text `after`, in a query with
delimiter `d`. -/
inductive Stands (d : Char) (before : Option Char) : Token → Text → Prop
  | string {body after : Text} : Paired '\'' body → after.head? ≠ some '\'' →
      Stands d before (.skipped .string ('\'' :: body ++ ['\''])) after
  | identifier {body after : Text} : Paired '"' body → after.head? ≠ some '"' →
      Stands d before (.skipped .identifier ('"' :: body ++ ['"'])) after
  | line {body after : Text} : '\n' ∉ body →
      Stands d before (.skipped .line ('-' :: '-' :: body ++ ['\n'])) after
  | lastLine {body : Text} : '\n' ∉ body →
      Stands d before (.skipped .line ('-' :: '-' :: body)) []
  | block {body after : Text} : FirstAtEnd ['*', '/'] body →
      Stands d before (.skipped .block ('/' :: '*' :: body ++ ['*', '/'])) after
  | dollar {tag body after : Text} : d ≠ '$' → MayOpenDollar before → IsTag tag →
      FirstAtEnd (dollarMarker tag) body →
      Stands d before (.skipped .dollar (dollarMarker tag ++ body ++ dollarMarker tag)) after
  | doubled {after : Text} : ¬ OpensSpan d before (d :: d :: after) →
      Stands d before .doubled after
  | placeholder {name after : Text} : ¬ OpensSpan d before (d :: name ++ after) → name ≠ [] →
      (∀ c ∈ name, isNameChar c = true) → (∀ c, after.head? = some c → isNameChar c = false) →
      Stands d before (.placeholder name) after
  | plain {c : Char} {after : Text} : ¬ OpensSpan d before (c :: after) →
      (c = d → ∀ x, after.head? = some x → x ≠ d ∧ isNameChar x = false) →
      Stands d before (.plain c) after

/-! ## Quoted literals -/

theorem splitQuoted_cons_of_ne {q c : Char} (hc : c ≠ q) (s : Text) :
    splitQuoted q (c :: s) = (splitQuoted q s).map fun (a, b) => (c :: a, b) := by
  cases s <;> simp [splitQuoted, hc]

theorem splitQuoted_of {q : Char} {body after : Text} (h : Paired q body)
    (hafter : after.head? ≠ some q) :
    splitQuoted q (body ++ q :: after) = some (body ++ [q], after) := by
  induction h with
  | nil =>
    cases after with
    | nil => simp [splitQuoted]
    | cons c s =>
      have hc : c ≠ q := fun hc => hafter (by simp [hc])
      simp [splitQuoted, hc]
  | pair _ ih => simp [splitQuoted, ih]
  | other hc _ ih => rw [List.cons_append, splitQuoted_cons_of_ne hc, ih]; rfl

theorem splitQuoted_shape {q : Char} {s a b : Text} (h : splitQuoted q s = some (a, b)) :
    ∃ body, a = body ++ [q] ∧ Paired q body ∧ b.head? ≠ some q := by
  fun_induction splitQuoted q s generalizing a b with
  | case1 => simp at h
  | case2 s ih =>
    obtain ⟨⟨a', b'⟩, hr, hab⟩ := Option.map_eq_some_iff.1 h
    obtain ⟨body, rfl, hbody, hb⟩ := ih hr
    obtain ⟨rfl, rfl⟩ := Prod.mk.inj hab
    exact ⟨q :: q :: body, rfl, .pair hbody, hb⟩
  | case3 c s hc =>
    obtain ⟨rfl, rfl⟩ := Prod.mk.inj (Option.some.inj h)
    exact ⟨[], rfl, .nil, by simpa using hc⟩
  | case4 =>
    obtain ⟨rfl, rfl⟩ := Prod.mk.inj (Option.some.inj h)
    exact ⟨[], rfl, .nil, by simp⟩
  | case5 c s hc ih =>
    obtain ⟨⟨a', b'⟩, hr, hab⟩ := Option.map_eq_some_iff.1 h
    obtain ⟨body, rfl, hbody, hb⟩ := ih hr
    obtain ⟨rfl, rfl⟩ := Prod.mk.inj hab
    exact ⟨c :: body, rfl, .other hc hbody, hb⟩

/-! ## Line comments -/

theorem splitLine_of {body : Text} (h : '\n' ∉ body) (after : Text) :
    splitLine (body ++ '\n' :: after) = (body ++ ['\n'], after) := by
  induction body with
  | nil => simp [splitLine]
  | cons c body ih =>
    simp only [List.mem_cons, not_or] at h
    obtain ⟨hc, hbody⟩ := h
    simp [splitLine, Ne.symm hc, ih hbody]

theorem splitLine_of_last {body : Text} (h : '\n' ∉ body) : splitLine body = (body, []) := by
  induction body with
  | nil => rfl
  | cons c body ih =>
    simp only [List.mem_cons, not_or] at h
    obtain ⟨hc, hbody⟩ := h
    simp [splitLine, Ne.symm hc, ih hbody]

theorem splitLine_shape (s : Text) :
    ∃ body, '\n' ∉ body ∧ ((splitLine s).1 = body ++ ['\n'] ∨
      (splitLine s).1 = body ∧ (splitLine s).2 = []) := by
  fun_induction splitLine s with
  | case1 => exact ⟨[], by simp, .inr ⟨rfl, rfl⟩⟩
  | case2 s => exact ⟨[], by simp, .inl rfl⟩
  | case3 c s hc ih =>
    obtain ⟨body, hbody, h⟩ := ih
    refine ⟨c :: body, by simp [Ne.symm hc, hbody], ?_⟩
    rcases h with h | ⟨h, h'⟩
    · exact .inl (by simp [h])
    · exact .inr ⟨by simp [h], h'⟩

/-! ## Spans that end with a marker -/

theorem FirstAtEnd.tail {p body : Text} {c : Char} (h : FirstAtEnd p (c :: body)) :
    FirstAtEnd p body := fun a b hab => h (c :: a) b (by simp [hab])

theorem firstAtEnd_nil (p : Text) : FirstAtEnd p [] := by
  intro a b h
  have := congrArg List.length h
  simp only [List.length_append, List.length_nil] at this
  exact List.length_eq_zero_iff.1 (by omega)

/-- What ends at its first marker does not start with one, whatever follows. -/
theorem FirstAtEnd.not_prefix {p body : Text} {c : Char} (h : FirstAtEnd p (c :: body))
    (after : Text) : ¬ p <+: c :: (body ++ (p ++ after)) := by
  rintro ⟨b, hb⟩
  have hpre : p <+: c :: (body ++ p) := by
    refine List.prefix_of_prefix_length_le ⟨b, hb⟩ ⟨after, by simp⟩ ?_
    simp only [List.length_cons, List.length_append]
    omega
  obtain ⟨b', hb'⟩ := hpre
  have hnil := h [] b' (by simpa using hb'.symm)
  have := congrArg List.length hb'
  simp only [hnil, List.length_append, List.length_cons, List.length_nil] at this
  omega

theorem splitAfter_of {p body : Text} (hp : p ≠ []) (h : FirstAtEnd p body) (after : Text) :
    splitAfter p (body ++ (p ++ after)) = some (body ++ p, after) := by
  induction body with
  | nil =>
    obtain ⟨c, p, rfl⟩ := List.exists_cons_of_ne_nil hp
    simp [splitAfter]
  | cons c body ih =>
    have hno := mt List.isPrefixOf_iff_prefix.1 (h.not_prefix after)
    simp only [List.cons_append, splitAfter, hno, ih h.tail]
    simp

theorem splitAfter_shape {p s a b : Text} (hp : p ≠ []) (h : splitAfter p s = some (a, b)) :
    ∃ body, a = body ++ p ∧ FirstAtEnd p body := by
  induction s generalizing a b with
  | nil => simp [splitAfter, hp] at h
  | cons c s ih =>
    rw [splitAfter] at h
    split at h
    · obtain ⟨rfl, rfl⟩ := Prod.mk.inj (Option.some.inj h)
      exact ⟨[], rfl, firstAtEnd_nil p⟩
    · next hno =>
      obtain ⟨⟨a', b'⟩, hr, hab⟩ := Option.map_eq_some_iff.1 h
      obtain ⟨rfl, rfl⟩ := Prod.mk.inj hab
      have hs := splitAfter_eq hr
      obtain ⟨body, rfl, hbody⟩ := ih hr
      refine ⟨c :: body, rfl, fun x y hxy => ?_⟩
      cases x with
      | nil =>
        refine absurd (List.isPrefixOf_iff_prefix.2 ⟨y ++ b', ?_⟩) hno
        rw [← hs, ← List.append_assoc, ← List.cons_append, ← List.cons_append, hxy]
        rfl
      | cons x xs => exact hbody xs y (List.cons.inj hxy).2

/-- The reader decides whether a marker is found at the end only. -/
theorem firstAtEnd_of_splitAfter {p body : Text} (hp : p ≠ [])
    (h : splitAfter p (body ++ p) = some (body ++ p, [])) : FirstAtEnd p body := by
  obtain ⟨body', hbody, hfirst⟩ := splitAfter_shape hp h
  rwa [List.append_cancel_right hbody]

/-! ## Dollar-quoted literals -/

theorem dollarMarker_ne_nil (tag : Text) : dollarMarker tag ≠ [] := by simp [dollarMarker]

theorem canOpenDollar_iff (before : Option Char) :
    canOpenDollar before = true ↔ MayOpenDollar before := by
  cases before <;> simp [canOpenDollar, MayOpenDollar]

theorem dollarTag?_of {tag : Text} (h : IsTag tag) (body : Text) :
    dollarTag? (tag ++ '$' :: body) = some (tag, body) := by
  obtain ⟨hname, hdigit⟩ := h
  have hd : isNameChar '$' = false := by decide
  obtain ⟨ht, hr⟩ : (tag ++ '$' :: body).takeWhile isNameChar = tag ∧
      (tag ++ '$' :: body).dropWhile isNameChar = '$' :: body :=
    span_append hname (by simp [hd])
  have hno : (tag.head?.any isAnyDigit) = false := by
    cases tag with
    | nil => rfl
    | cons c tag => simpa using hdigit c rfl
  simp [dollarTag?, ht, hr, hno]

theorem dollarTag?_shape {s tag body : Text} (h : dollarTag? s = some (tag, body)) :
    IsTag tag := by
  unfold dollarTag? at h
  split at h
  · split at h
    · simp at h
    · next hd =>
      obtain ⟨rfl, -⟩ := Prod.mk.inj (Option.some.inj h)
      refine ⟨fun c hc => List.mem_takeWhile_imp hc, fun c hc => ?_⟩
      simpa [hc] using hd
  · simp at h

/-! ## One token -/

theorem closed_eq_ok {span : Span} {opener : Text} {u : Unclosed} {r : Option (Text × Text)}
    {t : Token} {rest : Text} (h : Token.closed span opener u r = .ok (t, rest)) :
    ∃ a, r = some (a, rest) ∧ t = .skipped span (opener ++ a) := by
  rcases r with _ | ⟨a, b⟩
  · simp [Token.closed] at h
  · simp only [Token.closed, Except.ok.injEq, Prod.mk.injEq] at h
    obtain ⟨rfl, rfl⟩ := h
    exact ⟨a, rfl, rfl⟩

section

variable {d : Delimiter} {before : Option Char} {c : Char} {s rest : Text} {t : Token}

theorem opensSpan_cons_iff {d : Char} : OpensSpan d before (c :: s) ↔
    c = '\'' ∨ c = '"' ∨ (c = '-' ∧ s.head? = some '-') ∨ (c = '/' ∧ s.head? = some '*') ∨
      (c = '$' ∧ d ≠ '$' ∧ MayOpenDollar before ∧ ∃ tag body, dollarTag? s = some (tag, body)) := by
  constructor
  · intro h
    generalize hx : c :: s = x at h
    cases h with
    | string | identifier | line | block => simp_all
    | @dollar tag s' hd hbefore htag =>
      obtain ⟨rfl, rfl⟩ : c = '$' ∧ s = tag ++ '$' :: s' := by simpa [dollarMarker] using hx
      simp [hd, hbefore, dollarTag?_of htag]
  · rintro (rfl | rfl | ⟨rfl, hs⟩ | ⟨rfl, hs⟩ | ⟨rfl, hd, hbefore, tag, body, htag⟩)
    · exact .string s
    · exact .identifier s
    · obtain ⟨s, rfl⟩ := List.head?_eq_some_iff.1 hs
      exact .line s
    · obtain ⟨s, rfl⟩ := List.head?_eq_some_iff.1 hs
      exact .block s
    · rw [← dollarTag?_eq htag]
      simpa [dollarMarker] using OpensSpan.dollar body hd hbefore (dollarTag?_shape htag)

theorem not_opensSpan_of_isNameChar {d : Char} (h : isNameChar c = true) (s : Text) :
    ¬ OpensSpan d before (c :: s) := by
  rw [opensSpan_cons_iff]
  rintro (rfl | rfl | ⟨rfl, -⟩ | ⟨rfl, -⟩ | ⟨rfl, -⟩) <;> revert h <;> decide

/-- Where no span opens, only the delimiter matters. -/
theorem next_of_not_opensSpan {d : Char} (h : ¬ OpensSpan d before (c :: s)) :
    Token.next d before c s = .ok (if c = d then Token.atDelimiter d s else (.plain c, s)) := by
  simp only [opensSpan_cons_iff, not_or] at h
  obtain ⟨hq, hi, hl, hb, hd⟩ := h
  unfold Token.next
  rw [if_neg hq, if_neg hi, if_neg hl, if_neg hb]
  split
  · next hc =>
    obtain ⟨rfl, hne⟩ := hc
    rw [if_neg (Ne.symm hne)]
    split
    · next tag body ht =>
      split at ht
      · next hcan => exact absurd ⟨rfl, hne, (canOpenDollar_iff before).1 hcan, tag, body, ht⟩ hd
      · simp at ht
    · rfl
  · split <;> rfl

/-- The last step of reading decides between the kinds that skip nothing. -/
theorem stands_atDelimiter (hopen : ¬ OpensSpan d.char before (d.char :: s))
    (h : Token.atDelimiter d.char s = (t, rest)) : Stands d.char before t rest := by
  unfold Token.atDelimiter at h
  split at h
  · next hd =>
    obtain ⟨s', rfl⟩ := List.head?_eq_some_iff.1 hd
    obtain ⟨rfl, rfl⟩ := Prod.mk.inj h
    exact .doubled hopen
  split at h
  · next hd hname =>
    obtain ⟨rfl, rfl⟩ := Prod.mk.inj h
    refine .plain hopen fun _ x hx => ⟨fun hxd => hd (hxd ▸ hx), ?_⟩
    obtain ⟨s', rfl⟩ := List.head?_eq_some_iff.1 hx
    by_contra hx'
    simp [hx'] at hname
  · next hname =>
    obtain ⟨rfl, rfl⟩ := Prod.mk.inj h
    refine .placeholder ?_ hname (fun c hc => List.mem_takeWhile_imp hc) fun c hc => ?_
    · simpa using hopen
    · exact not_of_mem_head?_dropWhile hc

theorem stands_of_next (h : Token.next d.char before c s = .ok (t, rest)) :
    Stands d.char before t rest := by
  by_cases hopen : OpensSpan d.char before (c :: s)
  · -- A span opens, so its reader has found the end.
    rcases opensSpan_cons_iff.1 hopen with
      rfl | rfl | ⟨rfl, hs⟩ | ⟨rfl, hs⟩ | ⟨rfl, hd, hbefore, tag, body, htag⟩
    · obtain ⟨a, ha, rfl⟩ := closed_eq_ok (by simpa [Token.next] using h)
      obtain ⟨body, rfl, hbody, hrest⟩ := splitQuoted_shape ha
      exact .string hbody hrest
    · obtain ⟨a, ha, rfl⟩ := closed_eq_ok (by simpa [Token.next] using h)
      obtain ⟨body, rfl, hbody, hrest⟩ := splitQuoted_shape ha
      exact .identifier hbody hrest
    · simp only [Token.next, hs, Char.reduceEq, if_false, and_self, if_true, Except.ok.injEq,
        Prod.mk.injEq] at h
      obtain ⟨rfl, rfl⟩ := h
      obtain ⟨body, hbody, h | ⟨h, hnil⟩⟩ := splitLine_shape s.tail
      · rw [h]
        exact .line hbody
      · rw [h, hnil]
        exact .lastLine hbody
    · obtain ⟨a, ha, rfl⟩ := closed_eq_ok (by simpa [Token.next, hs] using h)
      obtain ⟨body, rfl, hbody⟩ := splitAfter_shape (by simp) ha
      exact .block hbody
    · obtain ⟨a, ha, rfl⟩ := closed_eq_ok
        (by simpa [Token.next, hd, (canOpenDollar_iff before).2 hbefore, htag] using h)
      obtain ⟨body, rfl, hbody⟩ := splitAfter_shape (dollarMarker_ne_nil tag) ha
      rw [← List.append_assoc]
      exact .dollar hd hbefore (dollarTag?_shape htag) hbody
  · rw [next_of_not_opensSpan hopen, Except.ok.injEq] at h
    split at h
    · next hc => exact stands_atDelimiter (hc ▸ hopen) h
    · next hc =>
      obtain ⟨rfl, rfl⟩ := Prod.mk.inj h
      exact .plain hopen fun hcd => absurd hcd hc

theorem next_of_stands (h : Stands d.char before t rest) (hs : c :: s = t.source d.char ++ rest) :
    Token.next d.char before c s = .ok (t, rest) := by
  cases h with
  | string hbody hrest | identifier hbody hrest =>
    simp only [Token.source, List.cons_append, List.append_assoc, List.cons.injEq] at hs
    obtain ⟨rfl, rfl⟩ := hs
    simp [Token.next, splitQuoted_of hbody hrest, Token.closed]
  | line hbody =>
    simp only [Token.source, List.cons_append, List.append_assoc, List.cons.injEq] at hs
    obtain ⟨rfl, rfl⟩ := hs
    simp [Token.next, splitLine_of hbody]
  | lastLine hbody =>
    simp only [Token.source, List.append_nil, List.cons.injEq] at hs
    obtain ⟨rfl, rfl⟩ := hs
    simp [Token.next, splitLine_of_last hbody]
  | @block body _ hbody =>
    simp only [Token.source, List.cons_append, List.append_assoc, List.cons.injEq] at hs
    obtain ⟨rfl, rfl⟩ := hs
    have hsplit := splitAfter_of (by simp) hbody rest
    simp only [List.cons_append, List.nil_append] at hsplit
    simp [Token.next, hsplit, Token.closed]
  | @dollar tag body _ hd hbefore htag hbody =>
    have hsplit := splitAfter_of (dollarMarker_ne_nil tag) hbody rest
    simp only [Token.source, dollarMarker, List.cons_append, List.append_assoc, List.nil_append,
      List.cons.injEq] at hs hsplit
    obtain ⟨rfl, rfl⟩ := hs
    simp [Token.next, hd, (canOpenDollar_iff before).2 hbefore, dollarTag?_of htag, dollarMarker,
      hsplit, Token.closed]
  | doubled hopen =>
    simp only [Token.source, List.cons_append, List.nil_append, List.cons.injEq] at hs
    obtain ⟨rfl, rfl⟩ := hs
    simp [next_of_not_opensSpan hopen, Token.atDelimiter]
  | @placeholder name _ hopen hne hnames hrest =>
    simp only [Token.source, List.cons_append, List.cons.injEq] at hs
    obtain ⟨rfl, rfl⟩ := hs
    obtain ⟨ht, hr⟩ := span_append hnames hrest
    have hhead : (name ++ rest).head? ≠ some d.char := by
      obtain ⟨x, name, rfl⟩ := List.exists_cons_of_ne_nil hne
      intro hx
      have := hnames d.char (by simp_all)
      simp [d.not_isNameChar] at this
    rw [List.cons_append] at hopen
    rw [next_of_not_opensSpan hopen, if_pos rfl, Token.atDelimiter, if_neg hhead, ht, hr,
      if_neg hne]
  | plain hopen hrest =>
    simp only [Token.source, List.cons_append, List.nil_append, List.cons.injEq] at hs
    obtain ⟨rfl, rfl⟩ := hs
    rw [next_of_not_opensSpan hopen]
    split
    · next hc =>
      have hhead : s.head? ≠ some d.char := fun h => (hrest hc _ h).1 rfl
      have hnil : s.takeWhile isNameChar = [] := by
        cases s with
        | nil => rfl
        | cons x s => simp [(hrest hc x rfl).2]
      simp [Token.atDelimiter, hhead, hnil, hc]
    · rfl

/-- **Reading one token follows the grammar.** -/
theorem next_eq_ok_iff : Token.next d.char before c s = .ok (t, rest) ↔
    c :: s = t.source d.char ++ rest ∧ Stands d.char before t rest :=
  ⟨fun h => ⟨(Token.next_source h).symm, stands_of_next h⟩, fun ⟨hs, h⟩ => next_of_stands h hs⟩

end

end NamedSql
