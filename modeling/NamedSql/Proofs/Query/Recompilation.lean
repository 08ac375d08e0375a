import NamedSql.Proofs.Query.Factoring
import NamedSql.Proofs.Text.Numerals

/-!
# Compiling a compiled query

A compiled query is text again, and one would like to compile it once more without any change. The
markers may be in the way, because a marker is not shielded from the text around it (`Fuses`):

* its `$` closes a `$tag` that stands in front of it,
* a `?` does not keep a `$tag$` after it from opening a literal, as the name before it did, and
* a `?` that is also the delimiter joins a doubled one after it.

**Theorem (`recompile_of_apart`).** When no marker of a query fuses, its compiled text compiles to
itself and skips the same spans. Each of the three ways to fuse does break this
(`recompile_of_fused`).

The proof finds the tokens of the compiled text. A marker is read as a placeholder of its own, or
as plain characters (`reread`); every other token stays. A token still stands where it stood,
because a marker changes what is next to it in a way that matters to `$` only, and there it would
fuse. Markers that are delimiters may come in a row, and are then read in pairs (`pairUp`).
-/

namespace NamedSql

/-! ## Markers that fuse -/

/-- A marker that stands between two texts, in the place of a placeholder, fuses with one of
them. -/
inductive Fuses (d : Char) (style : Style) : Text → Text → Prop
  | closes {before tag after : Text} : style = .numeric → d ≠ '$' →
      MayOpenDollar before.getLast? → IsTag tag → Fuses d style (before ++ '$' :: tag) after
  | uncovers {before tag after : Text} : style = .question → d ≠ '$' → IsTag tag →
      Fuses d style before (dollarMarker tag ++ after)
  | joins {before after : Text} : style = .question → d = '?' →
      Fuses d style before ('?' :: '?' :: after)

/-- No marker of a query fuses with the text around it. -/
def Apart (d : Char) (style : Style) (sql : Text) : Prop :=
  ∀ l name r, Factors d sql (l ++ .placeholder name :: r) →
    ¬ Fuses d style (sourceOf d l) (sourceOf d r)

def Token.skipped? : Token → Option (Span × Text)
  | skipped span text => some (span, text)
  | _ => none

/-- The spans that are skipped among tokens. -/
def skippedSpans (ts : List Token) : List (Span × Text) := ts.filterMap Token.skipped?

/-! ## Markers -/

/-- What a marker has after its lead character. -/
def Style.suffix (style : Style) (n : Nat) : Text := (style.marker n).tail

theorem isNameChar_of_isDigit {c : Char} (h : c.isDigit = true) : isNameChar c = true := by
  simp [isNameChar, isAlphanumeric, lt_128_of_isDigit h, Char.isAlphanum, h]

theorem isAnyDigit_of_isDigit {c : Char} (h : c.isDigit = true) : isAnyDigit c = true := by
  rw [isAnyDigit, isDecimal_of_isDigit h, Bool.true_or]

theorem isDigit_of_mem_decimal {n : Nat} {c : Char} (h : c ∈ decimal n) : c.isDigit = true :=
  Nat.isDigit_of_mem_toDigits (by decide) (by decide) h

namespace Style

variable {style : Style} {n : Nat}

theorem marker_eq (style : Style) (n : Nat) : style.marker n = style.lead :: style.suffix n := rfl

theorem isNameChar_lead (style : Style) : isNameChar style.lead = false := by
  cases style <;> decide

theorem isNameChar_of_mem_suffix {c : Char} (h : c ∈ style.suffix n) : isNameChar c = true := by
  cases style with
  | numeric | colon => exact isNameChar_of_isDigit (isDigit_of_mem_decimal h)
  | question => contradiction
  | percent =>
    obtain rfl := List.mem_singleton.1 h
    decide

theorem suffix_ne_nil (h : style ≠ .question) : style.suffix n ≠ [] := by
  cases style with
  | numeric | colon => exact Nat.toDigits_ne_nil
  | question => contradiction
  | percent => simp [suffix, marker]

/-- Only the marker that is a lone `?` ends with a character after which a `$` may open. -/
theorem eq_question_of_mayOpenDollar (h : MayOpenDollar (style.marker n).getLast?) :
    style = .question := by
  by_contra hne
  have hsuffix : style.suffix n ≠ [] := suffix_ne_nil hne
  have hlast := h ((style.suffix n).getLast hsuffix)
  rw [marker_eq, List.getLast?_cons_of_ne_nil hsuffix, List.getLast?_eq_some_getLast hsuffix]
    at hlast
  simp [isNameChar_of_mem_suffix (List.getLast_mem hsuffix)] at hlast

/-- A marker does not open a span, whatever follows: the tag of a literal starts with no digit. -/
theorem not_opensSpan_marker (d : Char) (before : Option Char) (after : Text) :
    ¬ OpensSpan d before (style.marker n ++ after) := by
  rw [marker_eq, List.cons_append, opensSpan_cons_iff]
  rintro (h | h | ⟨h, -⟩ | ⟨h, -⟩ | ⟨h, -, -, tag, body, htag⟩) <;>
    cases style <;> simp only [lead, Char.reduceEq] at h
  have hsource : tag ++ '$' :: body = decimal n ++ after := dollarTag?_eq htag
  obtain ⟨c, s, hs⟩ := List.exists_cons_of_ne_nil (Nat.toDigits_ne_nil (n := n) (b := 10))
  have hc : c.isDigit = true := isDigit_of_mem_decimal (n := n) (by simp [decimal, hs])
  rw [decimal, hs] at hsource
  cases tag with
  | nil =>
    obtain ⟨rfl, -⟩ := List.cons.inj hsource
    simp at hc
  | cons x tag =>
    obtain ⟨rfl, -⟩ := List.cons.inj hsource
    have := (dollarTag?_shape htag).2 x rfl
    simp [isAnyDigit_of_isDigit hc] at this

end Style

/-! ## The text of a compiled query -/

section

variable {d : Char} {style : Style} {n : Nat} {ts : List Token}

/-- The text of tokens in which the placeholders are rendered; the first has number `n`. -/
def rendered (d : Char) (style : Style) (n : Nat) : List Token → Text
  | [] => []
  | .placeholder _ :: ts => style.marker n ++ rendered d style (n + 1) ts
  | t :: ts => t.source d ++ rendered d style n ts

theorem flatMap_consLiteral (style : Style) (text : Text) (p : Nat) (segs : List Segment) :
    (consLiteral text p segs).flatMap (Scanned.renderSegment style) =
      text ++ segs.flatMap (Scanned.renderSegment style) := by
  unfold consLiteral
  split <;> simp [Scanned.renderSegment]

theorem flatMap_segments (d : Char) (style : Style) (p n : Nat) (ts : List Token) :
    (segments d p n ts).flatMap (Scanned.renderSegment style) = rendered d style n ts := by
  induction ts generalizing p n with
  | nil => rfl
  | cons t ts ih =>
    cases t with
    | placeholder name => simp [segments, rendered, Scanned.renderSegment, ih]
    | _ => simp only [segments, rendered, flatMap_consLiteral, ih]

theorem compile_of_lex {d : Delimiter} {sql : Text} (h : lex d.char none sql = ⟨ts, none⟩)
    (style : Style) : compile d style sql =
      .ok ((⟨sql, segments d.char 0 1 ts⟩ : Scanned).render style) := by
  rw [compile, scan_of_lex h]
  rfl

theorem factors_of_compile {d : Delimiter} {sql : Text} {q : Compiled}
    (h : compile d style sql = .ok q) :
    ∃ ts, Factors d.char sql ts ∧ q.sql = rendered d.char style 1 ts := by
  unfold compile at h
  cases hscan : scan d sql with
  | error e => simp [hscan, Except.map] at h
  | ok s =>
    obtain ⟨ts, hts, rfl⟩ := scan_eq_ok_iff.1 hscan
    rw [hscan] at h
    refine ⟨ts, hts, ?_⟩
    rw [← Except.ok.inj h]
    exact flatMap_segments ..

theorem compile_ne_ok_of_lex {d : Delimiter} {sql : Text} {u : Unclosed}
    (h : lex d.char none sql = ⟨ts, some u⟩) (style : Style) (q : Compiled) :
    compile d style sql ≠ .ok q := by
  intro hq
  obtain ⟨us, hus, -⟩ := factors_of_compile hq
  simp [lex_eq_iff.2 hus] at h

/-- Rendering changes the first character of a text only from a delimiter to a marker's lead. -/
theorem head?_rendered (d : Char) (style : Style) (n : Nat) (ts : List Token) :
    (rendered d style n ts).head? = (sourceOf d ts).head? ∨
      (sourceOf d ts).head? = some d ∧ (rendered d style n ts).head? = some style.lead := by
  induction ts with
  | nil => exact .inl rfl
  | cons t ts ih =>
    cases t with
    | placeholder name => exact .inr ⟨rfl, rfl⟩
    | doubled | plain c => exact .inl rfl
    | skipped span text =>
      cases text with
      | nil => exact ih
      | cons c text => exact .inl rfl

theorem head?_of_rendered {c : Char} (hc : c ≠ style.lead)
    (h : (rendered d style n ts).head? = some c) : (sourceOf d ts).head? = some c := by
  rcases head?_rendered d style n ts with hhead | ⟨-, hhead⟩
  · rw [← hhead, h]
  · rw [hhead, Option.some.injEq] at h
    exact absurd h.symm hc

theorem isNameChar_head_rendered
    (h : ∀ c, (sourceOf d ts).head? = some c → isNameChar c = false) (c : Char)
    (hc : (rendered d style n ts).head? = some c) : isNameChar c = false := by
  rcases head?_rendered d style n ts with hhead | ⟨-, hhead⟩
  · exact h c (hhead ▸ hc)
  · rw [hhead, Option.some.injEq] at hc
    exact hc ▸ style.isNameChar_lead

/-- A `$` in the text of a compiled query, with nothing but a tag in front of it, was there before,
or it belongs to a marker. -/
theorem sourceOf_of_rendered {tag body : Text} (htag : ∀ c ∈ tag, isNameChar c = true)
    (h : rendered d style n ts = tag ++ '$' :: body) :
    (∃ body, sourceOf d ts = tag ++ '$' :: body) ∨
      style = .numeric ∧ ∃ l name r, ts = l ++ .placeholder name :: r ∧ sourceOf d l = tag := by
  induction ts generalizing tag n with
  | nil => simp [rendered] at h
  | cons t ts ih =>
    have verbatim (h : t.source d ++ rendered d style n ts = tag ++ '$' :: body) :
        (∃ body, sourceOf d (t :: ts) = tag ++ '$' :: body) ∨
          style = .numeric ∧
            ∃ l name r, t :: ts = l ++ .placeholder name :: r ∧ sourceOf d l = tag := by
      rcases List.append_eq_append_iff.1 h with ⟨tag', rfl, hafter⟩ | ⟨rest, hsource, hafter⟩
      · -- The `$` comes after this token.
        rcases ih (fun c hc => htag c (List.mem_append_right _ hc)) hafter with
          ⟨body, hbody⟩ | ⟨hstyle, l, name, r, rfl, hl⟩
        · exact .inl ⟨body, by rw [sourceOf_cons, hbody, List.append_assoc]⟩
        · exact .inr ⟨hstyle, t :: l, name, r, rfl, by rw [sourceOf_cons, hl]⟩
      · cases rest with
        | nil =>
          rw [List.append_nil] at hsource
          rcases ih (List.forall_mem_nil _) hafter.symm with
            ⟨body, hbody⟩ | ⟨hstyle, l, name, r, rfl, hl⟩
          · exact .inl ⟨body, by rw [sourceOf_cons, hsource, hbody]; rfl⟩
          · exact .inr ⟨hstyle, t :: l, name, r, rfl, by
              rw [sourceOf_cons, hsource, hl, List.append_nil]⟩
        | cons c rest =>
          obtain ⟨rfl, -⟩ := List.cons.inj hafter
          exact .inl ⟨rest ++ sourceOf d ts, by simp [hsource]⟩
    cases t with
    | placeholder name =>
      rw [rendered, Style.marker_eq, List.cons_append] at h
      cases tag with
      | nil =>
        obtain ⟨hlead, -⟩ := List.cons.inj h
        refine .inr ⟨?_, [], name, ts, rfl, rfl⟩
        cases style <;> simp_all [Style.lead]
      | cons c tag =>
        obtain ⟨rfl, -⟩ := List.cons.inj h
        have := htag _ List.mem_cons_self
        simp [Style.isNameChar_lead] at this
    | _ => exact verbatim h

/-! ## The tokens of a compiled query -/

/-- How a marker is read: as a placeholder of its own when its lead is the delimiter and something
of a name follows, and otherwise character by character. -/
def markerTokens (d : Char) (style : Style) (n : Nat) : List Token :=
  if style.lead ≠ d ∨ style = .question then (style.marker n).map .plain
  else [.placeholder (style.suffix n)]

/-- The tokens with those of markers in the place of placeholders. -/
def reread (d : Char) (style : Style) (n : Nat) : List Token → List Token
  | [] => []
  | .placeholder _ :: ts => markerTokens d style n ++ reread d style (n + 1) ts
  | t :: ts => t :: reread d style n ts

/-- Puts plain delimiters in a row together, two by two. -/
def pairUp (d : Char) : List Token → List Token
  | .plain a :: .plain b :: ts =>
    if a = d ∧ b = d then .doubled :: pairUp d ts else .plain a :: pairUp d (.plain b :: ts)
  | t :: ts => t :: pairUp d ts
  | [] => []

theorem sourceOf_markerTokens (d : Char) (style : Style) (n : Nat) :
    sourceOf d (markerTokens d style n) = style.marker n := by
  unfold markerTokens
  split
  · exact sourceOf_map_plain d _
  · next h =>
    simp only [not_or, Decidable.not_not] at h
    simp [Token.source, Style.marker_eq, h.1]

theorem sourceOf_reread (d : Char) (style : Style) (n : Nat) (ts : List Token) :
    sourceOf d (reread d style n ts) = rendered d style n ts := by
  induction ts generalizing n with
  | nil => rfl
  | cons t ts ih =>
    cases t with
    | placeholder name => simp only [reread, rendered, sourceOf_append, sourceOf_markerTokens, ih]
    | _ => simp only [reread, rendered, sourceOf_cons, ih]

theorem sourceOf_pairUp (d : Char) (ts : List Token) :
    sourceOf d (pairUp d ts) = sourceOf d ts := by
  induction ts using pairUp.induct d with
  | case1 a b ts h ih =>
    obtain ⟨rfl, rfl⟩ := h
    simp [pairUp, Token.source, ih]
  | case2 a b ts h ih => simp [pairUp, h, ih]
  | case3 t ts h ih => simp [pairUp, ih]
  | case4 => rfl

/-! ## Rendering again -/

theorem rendered_map_plain_append (d : Char) (style : Style) (n : Nat) (s : Text)
    (ts : List Token) :
    rendered d style n (s.map .plain ++ ts) = s ++ rendered d style n ts := by
  induction s with
  | nil => rfl
  | cons c s ih => simp [rendered, Token.source, ih]

/-- The markers of a compiled query are rendered as themselves: those that are read as placeholders
come in the order of their numbers. -/
theorem rendered_reread {m : Nat} (h : m = n ∨ style.lead ≠ d ∨ style = .question) :
    rendered d style m (reread d style n ts) = rendered d style n ts := by
  induction ts generalizing m n with
  | nil => rfl
  | cons t ts ih =>
    cases t with
    | placeholder name =>
      rw [reread, rendered]
      by_cases hplain : style.lead ≠ d ∨ style = .question
      · rw [markerTokens, if_pos hplain, rendered_map_plain_append, ih (.inr hplain)]
      · obtain rfl : m = n := h.resolve_right hplain
        rw [markerTokens, if_neg hplain, List.singleton_append, rendered, ih (.inl rfl)]
    | _ => simp only [reread, rendered, ih h]

theorem rendered_pairUp (d : Char) (style : Style) (n : Nat) (ts : List Token) :
    rendered d style n (pairUp d ts) = rendered d style n ts := by
  induction ts using pairUp.induct d generalizing n with
  | case1 a b ts h ih =>
    obtain ⟨rfl, rfl⟩ := h
    simp [pairUp, rendered, Token.source, ih]
  | case2 a b ts h ih => simp [pairUp, h, rendered, ih]
  | case3 t ts h ih => cases t <;> simp [pairUp, rendered, ih]
  | case4 => rfl

/-! ## Skipped spans -/

theorem skippedSpans_append (ts us : List Token) :
    skippedSpans (ts ++ us) = skippedSpans ts ++ skippedSpans us := List.filterMap_append

theorem skippedSpans_cons (t : Token) (ts : List Token) :
    skippedSpans (t :: ts) = t.skipped?.toList ++ skippedSpans ts := by
  cases t <;> rfl

theorem skippedSpans_markerTokens (d : Char) (style : Style) (n : Nat) :
    skippedSpans (markerTokens d style n) = [] := by
  unfold markerTokens
  split
  · simp [skippedSpans, Token.skipped?, List.filterMap_map]
  · rfl

theorem skippedSpans_reread (d : Char) (style : Style) (n : Nat) (ts : List Token) :
    skippedSpans (reread d style n ts) = skippedSpans ts := by
  induction ts generalizing n with
  | nil => rfl
  | cons t ts ih =>
    cases t with
    | placeholder name =>
      rw [reread, skippedSpans_append, skippedSpans_markerTokens, ih]
      rfl
    | _ => simp only [reread, skippedSpans_cons, ih]

theorem skippedSpans_pairUp (d : Char) (ts : List Token) :
    skippedSpans (pairUp d ts) = skippedSpans ts := by
  induction ts using pairUp.induct d with
  | case1 a b ts h ih => simp [pairUp, h, skippedSpans_cons, Token.skipped?, ih]
  | case2 a b ts h ih => simp only [pairUp, if_neg h, skippedSpans_cons, ih]
  | case3 t ts h ih => rw [pairUp, skippedSpans_cons, skippedSpans_cons, ih]; exact h
  | case4 => rfl

/-! ## Standing in a compiled query -/

/-- Each token stands, or is a delimiter with another plain one after it. -/
def Loose (d : Char) (before : Option Char) : List Token → Prop
  | [] => True
  | t :: ts =>
    (Stands d before t (sourceOf d ts) ∨ t = .plain d ∧ ts.head? = some (.plain d) ∧
      ¬ OpensSpan d before (d :: sourceOf d ts)) ∧ Loose d (t.lastChar? d) ts

theorem Loose.chained {before : Option Char} (h : Loose d before ts) :
    Chained d before (pairUp d ts) := by
  induction ts using pairUp.induct d generalizing before with
  | case1 a b ts hpair ih =>
    obtain ⟨rfl, rfl⟩ := hpair
    obtain ⟨hfirst, -, hts⟩ := h
    simp only [pairUp, and_self, if_true]
    refine ⟨.doubled ?_, ih hts⟩
    rw [sourceOf_pairUp]
    rcases hfirst with hstands | ⟨-, -, hopen⟩
    · cases hstands with
      | plain hopen => exact hopen
    · exact hopen
  | case2 a b ts hpair ih =>
    obtain ⟨hfirst, hts⟩ := h
    simp only [pairUp, hpair, if_false]
    refine ⟨?_, ih hts⟩
    rw [sourceOf_pairUp]
    refine hfirst.resolve_right ?_
    rintro ⟨ha, hb, -⟩
    simp_all
  | case3 t ts hshape ih =>
    obtain ⟨hfirst, hts⟩ := h
    rw [pairUp]
    · refine ⟨?_, ih hts⟩
      rw [sourceOf_pairUp]
      refine hfirst.resolve_right ?_
      rintro ⟨rfl, hhead, -⟩
      obtain ⟨ts', rfl⟩ := List.head?_eq_some_iff.1 hhead
      exact hshape d d ts' rfl rfl
    · exact hshape
  | case4 => trivial

/-- `before'` takes the place of `before`, in front of a text, and lets a literal open that did not
open there only where there is none. -/
structure Replaces (d : Char) (style : Style) (before before' : Option Char) (after : Text) :
    Prop where
  keeps : MayOpenDollar before → MayOpenDollar before'
  guards : d ≠ '$' → MayOpenDollar before' → MayOpenDollar before ∨
    style = .question ∧ ∀ tag body, IsTag tag → after ≠ dollarMarker tag ++ body

theorem Replaces.refl (d : Char) (style : Style) (before : Option Char) (after : Text) :
    Replaces d style before before after := ⟨id, fun _ => .inl⟩

section

variable {pre : Text} {before' : Option Char}

/-- Where no span opened, none opens when the text after is rendered. -/
theorem not_opensSpan_rendered {c : Char} (hopen : ¬ OpensSpan d pre.getLast? (c :: sourceOf d ts))
    (hbefore : Replaces d style pre.getLast? before' (c :: sourceOf d ts))
    (hfuses : ∀ l name r, ts = l ++ .placeholder name :: r →
      ¬ Fuses d style (pre ++ c :: sourceOf d l) (sourceOf d r)) :
    ¬ OpensSpan d before' (c :: rendered d style n ts) := by
  intro h
  rcases opensSpan_cons_iff.1 h with
    rfl | rfl | ⟨rfl, hs⟩ | ⟨rfl, hs⟩ | ⟨rfl, hd, hmay, tag, body, htag⟩
  · exact hopen (.string _)
  · exact hopen (.identifier _)
  · have hs' := head?_of_rendered (by cases style <;> decide) hs
    exact hopen (opensSpan_cons_iff.2 (.inr (.inr (.inl ⟨rfl, hs'⟩))))
  · have hs' := head?_of_rendered (by cases style <;> decide) hs
    exact hopen (opensSpan_cons_iff.2 (.inr (.inr (.inr (.inl ⟨rfl, hs'⟩)))))
  · have hIsTag := dollarTag?_shape htag
    rcases sourceOf_of_rendered hIsTag.1 (dollarTag?_eq htag).symm with
      ⟨body', hsource⟩ | ⟨hstyle, l, name, r, hts, rfl⟩
    · have hmarker : '$' :: sourceOf d ts = dollarMarker tag ++ body' := by
        simp [dollarMarker, hsource]
      rcases hbefore.guards hd hmay with hmay' | ⟨-, hno⟩
      · rw [hmarker] at hopen
        exact hopen (.dollar body' hd hmay' hIsTag)
      · exact hno tag body' hIsTag hmarker
    · rcases hbefore.guards hd hmay with hmay' | ⟨hquestion, -⟩
      · exact hfuses l name r hts (.closes hstyle hd hmay' hIsTag)
      · simp [hstyle] at hquestion

end

end

section

variable {d : Delimiter} {style : Style} {n : Nat} {ts : List Token} {pre : Text}
  {before before' : Option Char}

theorem loose_map_plain_append {s : Text} (hs : ∀ c ∈ s, isNameChar c = true)
    (h : Loose d.char (s.getLast?.or before) ts) :
    Loose d.char before (s.map .plain ++ ts) := by
  induction s generalizing before with
  | nil => exact h
  | cons c s ih =>
    obtain ⟨hc, hs⟩ := List.forall_mem_cons.1 hs
    refine ⟨.inl (.plain (not_opensSpan_of_isNameChar hc _) ?_), ih hs ?_⟩
    · rintro rfl
      simp [d.not_isNameChar] at hc
    · cases s <;> simpa [Token.lastChar?, Token.source, List.getLast?_cons] using h

/-- A delimiter `?` that a marker puts in front of tokens stands there, or another one follows. -/
theorem stands_or_head?_reread {after : Option Char} (hstyle : style = .question)
    (hd : d.char = '?') (hts : Chained d.char after ts)
    (hname : ∀ c, (sourceOf d.char ts).head? = some c → isNameChar c = false)
    (hfuses : ¬ Fuses d.char style pre (sourceOf d.char ts)) :
    (reread d.char style n ts).head? = some (.plain d.char) ∨
      ∀ c, (rendered d.char style n ts).head? = some c → c ≠ d.char ∧ isNameChar c = false := by
  cases ts with
  | nil => exact .inr nofun
  | cons t ts =>
    obtain ⟨ht, -⟩ := hts
    generalize sourceOf d.char ts = after at ht
    cases ht with
    | placeholder =>
      exact .inl (by simp [reread, markerTokens, hstyle, hd, Style.marker, Style.lead])
    | doubled =>
      refine absurd ?_ hfuses
      rw [sourceOf_cons, Token.source, hd]
      exact .joins hstyle rfl
    | @plain c =>
      by_cases hc : c = d.char
      · exact .inl (by rw [hc]; rfl)
      · refine .inr fun x hx => ?_
        obtain rfl := Option.some.inj hx
        exact ⟨hc, hname c rfl⟩
    | _ =>
      refine .inr fun x hx => ?_
      obtain rfl := Option.some.inj hx
      exact ⟨by simp [hd], by decide⟩

/-- The tokens of a marker stand in front of those of what follows it. -/
theorem loose_markerTokens_append (hts : Chained d.char before ts)
    (hname : ∀ c, (sourceOf d.char ts).head? = some c → isNameChar c = false)
    (hfuses : ¬ Fuses d.char style pre (sourceOf d.char ts))
    (hrest : Loose d.char (style.marker n).getLast? (reread d.char style (n + 1) ts)) :
    Loose d.char before' (markerTokens d.char style n ++ reread d.char style (n + 1) ts) := by
  have hopen (after : Text) : ¬ OpensSpan d.char before' (style.marker n ++ after) :=
    style.not_opensSpan_marker d.char before' after
  by_cases hlead : style.lead = d.char
  · by_cases hstyle : style = .question
    · have hd : d.char = '?' := by rw [← hlead, hstyle]; rfl
      have hmarker : style.marker n = [d.char] := by rw [hstyle, hd]; rfl
      rw [markerTokens, if_pos (.inr hstyle), hmarker]
      rw [hmarker] at hrest
      refine ⟨?_, hrest⟩
      have hopen := hopen (sourceOf d.char (reread d.char style (n + 1) ts))
      rw [hmarker, List.singleton_append] at hopen
      rcases stands_or_head?_reread hstyle hd hts hname hfuses with hhead | hhead
      · exact .inr ⟨rfl, hhead, hopen⟩
      · exact .inl (.plain hopen fun _ c hc => hhead c (sourceOf_reread .. ▸ hc))
    · have hmarker : style.marker n = d.char :: style.suffix n := by rw [Style.marker_eq, hlead]
      rw [markerTokens, if_neg (by simp [hlead, hstyle])]
      refine ⟨.inl (.placeholder ?_ (Style.suffix_ne_nil hstyle)
        (fun c hc => Style.isNameChar_of_mem_suffix hc) fun c hc => ?_), ?_⟩
      · rw [← hmarker]
        exact hopen _
      · exact isNameChar_head_rendered hname c (sourceOf_reread .. ▸ hc)
      · rwa [Token.lastChar?, Token.source, ← hmarker]
  · rw [markerTokens, if_pos (.inl hlead), Style.marker_eq, List.map_cons, List.cons_append]
    refine ⟨.inl (.plain ?_ fun h => absurd h hlead), loose_map_plain_append ?_ ?_⟩
    · rw [sourceOf_append, sourceOf_map_plain, ← List.cons_append, ← Style.marker_eq]
      exact hopen _
    · exact fun c hc => Style.isNameChar_of_mem_suffix hc
    · cases h : style.suffix n <;>
        simpa [Style.marker_eq, h, Token.lastChar?, Token.source, List.getLast?_cons] using hrest

theorem Stands.lastChar?_eq {d : Char} {t : Token} {after : Text} (h : Stands d before t after)
    (pre : Text) : t.lastChar? d = (pre ++ t.source d).getLast? := by
  obtain ⟨c, hc⟩ := Option.isSome_iff_exists.1 (List.getLast?_isSome.2 h.source_ne_nil)
  simp [Token.lastChar?, hc]

/-- Whether a span may be skipped depends little on what is around it. -/
theorem Stands.skipped_congr {d : Char} {span : Span} {text after after' : Text}
    (h : Stands d before (.skipped span text) after)
    (hbefore : MayOpenDollar before → MayOpenDollar before')
    (hquote : ∀ q, q = '\'' ∨ q = '"' → after.head? ≠ some q → after'.head? ≠ some q)
    (hnil : after = [] → after' = []) : Stands d before' (.skipped span text) after' := by
  cases h with
  | string hbody hafter => exact .string hbody (hquote _ (.inl rfl) hafter)
  | identifier hbody hafter => exact .identifier hbody (hquote _ (.inr rfl) hafter)
  | line hbody => exact .line hbody
  | lastLine hbody =>
    rw [hnil rfl]
    exact .lastLine hbody
  | block hbody => exact .block hbody
  | dollar hd hmay htag hbody => exact .dollar hd (hbefore hmay) htag hbody

/-- A name is nothing that a `$` may open after, so only what the marker ends with counts. -/
theorem Replaces.marker {name after : Text} (hne : name ≠ [])
    (hname : ∀ c ∈ name, isNameChar c = true)
    (hfuses : ¬ Fuses d.char style pre after) :
    Replaces d.char style (pre ++ d.char :: name).getLast? (style.marker n).getLast? after where
  keeps h := by
    have hlast := h (name.getLast hne)
    rw [List.getLast?_append, List.getLast?_cons_of_ne_nil hne,
      List.getLast?_eq_some_getLast hne] at hlast
    simp [hname _ (List.getLast_mem hne)] at hlast
  guards hd h := by
    have hstyle := Style.eq_question_of_mayOpenDollar h
    refine .inr ⟨hstyle, fun tag body htag hafter => hfuses ?_⟩
    rw [hafter]
    exact .uncovers hstyle hd htag

/-- **A query whose markers do not fuse stands as before, with its markers in it.** -/
theorem loose_reread (hts : Chained d.char pre.getLast? ts)
    (hbefore : Replaces d.char style pre.getLast? before' (sourceOf d.char ts))
    (hfuses : ∀ l name r, ts = l ++ .placeholder name :: r →
      ¬ Fuses d.char style (pre ++ sourceOf d.char l) (sourceOf d.char r)) :
    Loose d.char before' (reread d.char style n ts) := by
  induction ts generalizing pre before' n with
  | nil => trivial
  | cons t ts ih =>
    obtain ⟨ht, hts⟩ := hts
    have hlast := ht.lastChar?_eq pre
    rw [hlast] at hts
    have hfuses' (l name r) (h : ts = l ++ .placeholder name :: r) :
        ¬ Fuses d.char style (pre ++ t.source d.char ++ sourceOf d.char l)
          (sourceOf d.char r) := by
      have := hfuses (t :: l) name r (by rw [h, List.cons_append])
      rwa [sourceOf_cons, ← List.append_assoc] at this
    have hrest : Loose d.char (t.lastChar? d.char) (reread d.char style n ts) :=
      hlast ▸ ih hts (.refl ..) hfuses'
    cases t with
    | placeholder name =>
      cases ht with
      | placeholder _ hne hname hafter =>
        have hapart : ¬ Fuses d.char style pre (sourceOf d.char ts) := by
          simpa using hfuses [] name ts rfl
        exact loose_markerTokens_append hts hafter hapart
          (ih hts (.marker hne hname hapart) hfuses')
    | doubled =>
      cases ht with
      | doubled hopen =>
        refine ⟨.inl (.doubled fun h => hopen ?_), hrest⟩
        rw [opensSpan_cons_iff] at h ⊢
        rcases h with h | h | h | h | ⟨hd, hne, -⟩
        · exact .inl h
        · exact .inr (.inl h)
        · exact .inr (.inr (.inl h))
        · exact .inr (.inr (.inr (.inl h)))
        · exact absurd hd hne
    | plain c =>
      cases ht with
      | plain hopen hafter =>
        refine ⟨.inl (.plain ?_ fun hc x hx => ?_), hrest⟩
        · rw [sourceOf_reread]
          refine not_opensSpan_rendered hopen hbefore fun l name r h => ?_
          simpa [Token.source] using hfuses' l name r h
        · -- A placeholder after a delimiter would have made it a doubled one.
          rw [sourceOf_reread] at hx
          rcases head?_rendered d.char style n ts with hhead | ⟨hhead, -⟩
          · exact hafter hc x (hhead ▸ hx)
          · exact absurd rfl (hafter hc _ hhead).1
    | skipped span text =>
      refine ⟨.inl (ht.skipped_congr hbefore.keeps (fun q hq => ?_) fun hnil => ?_), hrest⟩
      · rw [sourceOf_reread]
        exact mt (head?_of_rendered (by rcases hq with rfl | rfl <;> cases style <;> decide))
      · cases ts with
        | nil => rfl
        | cons u ts =>
          have := hts.1.source_ne_nil
          simp_all

/-! ## Compiling again -/

/-- **A query whose markers do not fuse compiles to a text that compiles to itself.** What is
skipped as a whole is the same in both. -/
theorem recompile_of_apart {sql : Text} {q : Compiled} (h : compile d style sql = .ok q)
    (hapart : Apart d.char style sql) :
    (∃ q', compile d style q.sql = .ok q' ∧ q'.sql = q.sql) ∧
      ∃ ts us, Factors d.char sql ts ∧ Factors d.char q.sql us ∧
        skippedSpans us = skippedSpans ts := by
  obtain ⟨ts, hts, hq⟩ := factors_of_compile h
  have hchained : Chained d.char (List.getLast? []) ts := hts.chained
  have hloose : Loose d.char none (reread d.char style 1 ts) :=
    loose_reread hchained (.refl ..) fun l name r hr => by
      rw [List.nil_append]
      exact hapart l name r (hr ▸ hts)
  have hlex := lex_of_chained hloose.chained
  rw [sourceOf_pairUp, sourceOf_reread, ← hq] at hlex
  refine ⟨⟨_, compile_of_lex hlex style, ?_⟩, ts, _, hts, lex_eq_iff.1 hlex, ?_⟩
  · have hrendered := flatMap_segments d.char style 0 1 (pairUp d.char (reread d.char style 1 ts))
    rwa [rendered_pairUp, rendered_reread (.inl rfl), ← hq] at hrendered
  · rw [skippedSpans_pairUp, skippedSpans_reread]

end

/-- A name keeps the `$` after it from opening a literal, and so does the number in its place. -/
theorem recompile_of_apart_dollar :
    ∃ q, compile .colon .numeric ":a$b$".toList = .ok q ∧ Apart ':' .numeric ":a$b$".toList ∧
      ∃ q', compile .colon .numeric q.sql = .ok q' ∧ q'.sql = "$1$b$".toList := by
  have hlex : lex Delimiter.colon.char none ":a$b$".toList =
      ⟨[.placeholder ['a'], .plain '$', .plain 'b', .plain '$'], none⟩ := by
    refine lex_eq_cons "$b$".toList (by decide +kernel) ?_
    refine lex_eq_cons "b$".toList (by decide +kernel) ?_
    refine lex_eq_cons "$".toList (by decide +kernel) ?_
    exact lex_eq_cons [] (by decide +kernel) (lex_nil ..)
  have hapart : Apart ':' .numeric ":a$b$".toList := by
    intro l name r h hfuses
    have hts := (lex_eq_iff.1 hlex).unique h
    cases l with
    | nil =>
      generalize hbefore : sourceOf ':' [] = before at hfuses
      generalize sourceOf ':' r = after at hfuses
      cases hfuses with
      | closes => simp at hbefore
      | uncovers hstyle | joins hstyle => contradiction
    | cons t l => simp [List.append_eq_cons_iff, List.cons_eq_append_iff] at hts
  have h := compile_of_lex hlex .numeric
  exact ⟨_, h, hapart, (recompile_of_apart h hapart).1⟩

/-- **Markers that fuse break this, in each of the three ways.** A `$` before a placeholder, and a
`$b$` after one, become the opener of a literal that never ends; a doubled `?` after one leaves a
placeholder that was none. -/
theorem recompile_of_fused :
    (∃ q, compile .colon .numeric "$:a".toList = .ok q ∧
      ∀ q', compile .colon .numeric q.sql ≠ .ok q') ∧
    (∃ q, compile .colon .question ":a$b$".toList = .ok q ∧
      ∀ q', compile .colon .question q.sql ≠ .ok q') ∧
    ∃ q q', compile ⟨'?', by decide⟩ .question "?a??b".toList = .ok q ∧
      compile ⟨'?', by decide⟩ .question q.sql = .ok q' ∧ q'.sql ≠ q.sql := by
  refine ⟨?_, ?_, ?_⟩
  · have hlex : lex Delimiter.colon.char none "$:a".toList =
        ⟨[.plain '$', .placeholder ['a']], none⟩ := by
      refine lex_eq_cons ":a".toList (by decide +kernel) ?_
      exact lex_eq_cons [] (by decide +kernel) (lex_nil ..)
    have hstop : lex Delimiter.colon.char none "$$1".toList = ⟨[], some .dollar⟩ :=
      lex_of_error (by decide +kernel)
    exact ⟨_, compile_of_lex hlex .numeric, compile_ne_ok_of_lex hstop .numeric⟩
  · have hlex : lex Delimiter.colon.char none ":a$b$".toList =
        ⟨[.placeholder ['a'], .plain '$', .plain 'b', .plain '$'], none⟩ := by
      refine lex_eq_cons "$b$".toList (by decide +kernel) ?_
      refine lex_eq_cons "b$".toList (by decide +kernel) ?_
      refine lex_eq_cons "$".toList (by decide +kernel) ?_
      exact lex_eq_cons [] (by decide +kernel) (lex_nil ..)
    have hnext : Token.next ':' none '?' "$b$".toList = .ok (.plain '?', "$b$".toList) := by
      decide +kernel
    have hlast : lex ':' (Token.lastChar? ':' (.plain '?')) "$b$".toList = ⟨[], some .dollar⟩ :=
      lex_of_error (by decide +kernel)
    have hstop : lex Delimiter.colon.char none "?$b$".toList = ⟨[.plain '?'], some .dollar⟩ := by
      have h := lex_of_next hnext
      rwa [hlast] at h
    exact ⟨_, compile_of_lex hlex .question, compile_ne_ok_of_lex hstop .question⟩
  · let d : Delimiter := ⟨'?', by decide⟩
    have hlex : lex d.char none "?a??b".toList =
        ⟨[.placeholder ['a'], .doubled, .plain 'b'], none⟩ := by
      refine lex_eq_cons "??b".toList (by decide +kernel) ?_
      refine lex_eq_cons "b".toList (by decide +kernel) ?_
      exact lex_eq_cons [] (by decide +kernel) (lex_nil ..)
    have hagain : lex d.char none "???b".toList = ⟨[.doubled, .placeholder ['b']], none⟩ := by
      refine lex_eq_cons "?b".toList (by decide +kernel) ?_
      exact lex_eq_cons [] (by decide +kernel) (lex_nil ..)
    exact ⟨_, _, compile_of_lex hlex .question, compile_of_lex hagain .question, by decide +kernel⟩

end NamedSql
