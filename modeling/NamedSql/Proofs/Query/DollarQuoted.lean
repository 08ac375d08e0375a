import NamedSql.Proofs.Query.Opacity

/-!
# Dollar-quoted literals after one another

A `$` that comes right after another `$` opens no literal, whichever token the first one belongs
to. So of two dollar-quoted literals with nothing between them only the first is skipped: the
opener of the second is read as plain characters, and the rest of it as SQL.

**Theorem (`adds_nothing_after_dollarQuoted`).** After a text that ends with a dollar-quoted
literal, another such literal adds no placeholder and no error if an inert character stands
between the two. With nothing between them, it does so exactly when what follows its opener is
read to its end without a placeholder (`Inactive`). It need not be (`adjacent_literal_is_read`).
-/

namespace NamedSql

/-- A query `a` that scans still does with `x` after it, and has the same placeholders. -/
def AddsNothing (d : Delimiter) (a x : Text) : Prop :=
  ∃ qa q, scan d a = .ok qa ∧ scan d (a ++ x) = .ok q ∧ q.placeholders = qa.placeholders

/-- A text that is read to its end after `before`, and has no placeholder. -/
def Inactive (d : Char) (before : Option Char) (s : Text) : Prop :=
  (lex d before s).stop = none ∧ ∀ name, .placeholder name ∉ (lex d before s).tokens

/-! ## What is read after a query -/

theorem occurrences_eq_nil_iff {d : Char} {p n : Nat} {ts : List Token} :
    occurrences d p n ts = [] ↔ ∀ name, .placeholder name ∉ ts := by
  induction ts generalizing p n with
  | nil => simp [occurrences]
  | cons t ts ih =>
    cases t with
    | placeholder name =>
      simp only [occurrences, reduceCtorEq, false_iff]
      intro h
      exact h name List.mem_cons_self
    | _ => simp [occurrences, ih]

variable {d : Delimiter} {before : Option Char} {a x : Text} {ts : List Token}

theorem addsNothing_iff {l : Lexing} (ha : lex d.char none a = ⟨ts, none⟩)
    (hx : lex d.char none (a ++ x) = l.push ts) :
    AddsNothing d a x ↔ l.stop = none ∧ ∀ name, .placeholder name ∉ l.tokens := by
  have hplaceholders (us : List Token) (h : l = ⟨us, none⟩) :
      ∃ q, scan d (a ++ x) = .ok q ∧ q.placeholders = occurrences d.char 0 1 (ts ++ us) := by
    rw [h] at hx
    exact ⟨_, scan_of_lex hx, placeholders_of_tokens ..⟩
  constructor
  · rintro ⟨qa, q, hqa, hq, hsame⟩
    obtain ⟨us, stop⟩ := l
    cases stop with
    | some u =>
      have herror := scan_eq_error_iff.2 ⟨_, u, hx, rfl⟩
      simp [herror] at hq
    | none =>
      obtain ⟨q', hq', hus⟩ := hplaceholders us rfl
      obtain rfl : q = q' := Except.ok.inj (hq.symm.trans hq')
      obtain rfl := Except.ok.inj (hqa.symm.trans (scan_of_lex ha))
      rw [hus, placeholders_of_tokens, occurrences_append] at hsame
      exact ⟨rfl, occurrences_eq_nil_iff.1 (List.append_right_eq_self.1 hsame)⟩
  · rintro ⟨hstop, hnone⟩
    obtain ⟨q, hq, hus⟩ := hplaceholders l.tokens (by rw [← hstop])
    refine ⟨_, q, scan_of_lex ha, hq, ?_⟩
    rw [hus, placeholders_of_tokens, occurrences_append, occurrences_eq_nil_iff.2 hnone,
      List.append_nil]

/-! ## After a dollar-quoted literal -/

theorem getLast?_append_dollarMarker (s tag : Text) :
    (s ++ dollarMarker tag).getLast? = some '$' := by
  rw [dollarMarker, ← List.append_assoc, List.getLast?_concat]

theorem Chained.getLast?_of_dollar {d : Char} {text : Text}
    (h : Chained d before (ts ++ [.skipped .dollar text])) :
    (sourceOf d (ts ++ [.skipped .dollar text])).getLast? = some '$' := by
  have hlast := chained_iff.1 h ts _ [] rfl
  rw [sourceOf_append, sourceOf_cons, sourceOf_nil, List.append_nil, Token.source]
  cases hlast with
  | dollar => rw [← List.append_assoc, getLast?_append_dollarMarker]

/-- A dollar-quoted literal keeps what comes next out of itself and of the tokens before it. -/
theorem Chained.chainedTo_of_dollar {d : Char} {text : Text}
    (h : Chained d before (ts ++ [.skipped .dollar text])) (x : Text) :
    ChainedTo d before x (ts ++ [.skipped .dollar text]) := by
  induction ts generalizing before with
  | nil =>
    obtain ⟨ht, -⟩ := h
    refine ⟨?_, trivial⟩
    cases ht with
    | dollar hd hbefore htag hbody => exact .dollar hd hbefore htag hbody
  | cons t ts ih =>
    obtain ⟨ht, hts⟩ := h
    refine ⟨?_, ih hts⟩
    have hlast := hts.getLast?_of_dollar
    refine ht.append (.inl ⟨'$', List.mem_of_getLast? hlast, by decide⟩)
      (Option.eq_none_iff_forall_ne_some.2 fun line hline => ?_)
    obtain ⟨hnil, -⟩ := ht.of_openLine? hline
    exact absurd (hlast.symm.trans (congrArg List.getLast? hnil)) (by simp)

theorem not_opensSpan_dollar {d : Char} (h : ¬ MayOpenDollar before) (s : Text) :
    ¬ OpensSpan d before ('$' :: s) := by
  rw [opensSpan_cons_iff]
  simp [h]

/-- After a name character or a `$`, the rest of a marker is plain. -/
theorem chainedTo_marker (hd : d.char ≠ '$') {tag : Text} (htag : ∀ c ∈ tag, isNameChar c = true)
    (hbefore : ¬ MayOpenDollar before) (x : Text) :
    ChainedTo d.char before x ((tag ++ ['$']).map .plain) := by
  induction tag generalizing before with
  | nil => exact ⟨.plain (not_opensSpan_dollar hbefore _) fun h => absurd h.symm hd, trivial⟩
  | cons c tag ih =>
    obtain ⟨hc, htag⟩ := List.forall_mem_cons.1 htag
    refine ⟨.plain (not_opensSpan_of_isNameChar hc _) ?_, ih htag ?_⟩
    · rintro rfl
      simp [d.not_isNameChar] at hc
    · intro h
      have := h c rfl
      simp [hc] at this

theorem lex_after_dollar {text : Text} (ha : Factors d.char a (ts ++ [.skipped .dollar text]))
    (x : Text) : lex d.char none (a ++ x) =
      (lex d.char (some '$') x).push (ts ++ [.skipped .dollar text]) := by
  have hlex := lex_of_chainedTo (ha.chained.chainedTo_of_dollar x)
  rwa [ha.chained.getLast?_of_dollar, ha.source_eq] at hlex

/-- The opener of a literal right after another `$` is read as plain characters. -/
theorem lex_marker_after_dollar (hd : d.char ≠ '$') {tag : Text} (htag : IsTag tag) (x : Text) :
    lex d.char (some '$') (dollarMarker tag ++ x) =
      (lex d.char (some '$') x).push ((dollarMarker tag).map .plain) := by
  have hbefore : ¬ MayOpenDollar (some '$') := fun h => (h '$' rfl).2 rfl
  have hchained : ChainedTo d.char (some '$') x ((dollarMarker tag).map .plain) :=
    ⟨.plain (not_opensSpan_dollar hbefore _) fun h => absurd h.symm hd,
      chainedTo_marker hd htag.1 hbefore x⟩
  have hlast : (dollarMarker tag).getLast? = some '$' := getLast?_append_dollarMarker [] tag
  have hlex := lex_of_chainedTo hchained
  rwa [sourceOf_map_plain, hlast] at hlex

/-- An inert character ends whatever was read, so a literal opens after it. -/
theorem lex_inert_dollarQuoted (hd : d.char ≠ '$') {c : Char} (hc : Inert d.char c)
    {tag body : Text} (htag : IsTag tag) (hbody : FirstAtEnd (dollarMarker tag) body) :
    lex d.char before (c :: (Enclosure.dollar tag).enclose body) =
      ⟨[.plain c, .skipped .dollar ((Enclosure.dollar tag).enclose body)], none⟩ := by
  obtain ⟨hne, hname, hinert⟩ := hc
  simp only [List.mem_cons, List.not_mem_nil, or_false, not_or] at hinert
  obtain ⟨hstring, hidentifier, hline, -, hdollar⟩ := hinert
  have hopen (s : Text) : ¬ OpensSpan d.char before (c :: '$' :: s) := by
    rw [opensSpan_cons_iff]
    simp [hstring, hidentifier, hline, hdollar]
  have hmay : MayOpenDollar (Token.lastChar? d.char (.plain c)) := by
    rintro c' hc'
    obtain rfl : c = c' := Option.some.inj hc'
    exact ⟨hname, hdollar⟩
  have hchained : Chained d.char before
      [.plain c, .skipped .dollar ((Enclosure.dollar tag).enclose body)] :=
    ⟨.plain (hopen _) fun h => absurd h hne, .dollar hd hmay htag hbody, trivial⟩
  have hlex := lex_of_chained hchained
  simpa [Token.source] using hlex

/-- **After a dollar-quoted literal, another one adds nothing if an inert character comes between.**
With nothing between them, that depends on what the second one holds. -/
theorem adds_nothing_after_dollarQuoted {text tag body : Text} (hd : d.char ≠ '$')
    (ha : Factors d.char a (ts ++ [.skipped .dollar text])) (htag : IsTag tag)
    (hbody : FirstAtEnd (dollarMarker tag) body) :
    (∀ c, Inert d.char c → AddsNothing d a (c :: (Enclosure.dollar tag).enclose body)) ∧
    (AddsNothing d a ((Enclosure.dollar tag).enclose body) ↔
      Inactive d.char (some '$') (body ++ dollarMarker tag)) := by
  have hlex := lex_eq_iff.2 ha
  constructor
  · intro c hc
    have hx := lex_after_dollar ha (c :: (Enclosure.dollar tag).enclose body)
    rw [lex_inert_dollarQuoted hd hc htag hbody] at hx
    exact (addsNothing_iff hlex hx).2 ⟨rfl, by simp⟩
  · have hx := lex_after_dollar ha ((Enclosure.dollar tag).enclose body)
    have hsplit : (Enclosure.dollar tag).enclose body =
        dollarMarker tag ++ (body ++ dollarMarker tag) := List.append_assoc ..
    rw [hsplit, lex_marker_after_dollar hd htag] at hx
    rw [hsplit, addsNothing_iff hlex hx, Inactive]
    simp [Lexing.push]

/-- A comma between two literals, with the delimiter in the second one. -/
theorem adds_nothing_after_dollarQuoted_comma :
    Factors ':' "$$a$$".toList [.skipped .dollar "$$a$$".toList] ∧ Inert ':' ',' ∧
      AddsNothing .colon "$$a$$".toList ",$$:b$$".toList := by
  have ha : Factors Delimiter.colon.char "$$a$$".toList ([] ++ [.skipped .dollar "$$a$$".toList]) :=
    lex_eq_iff.1 (by decide +kernel)
  have htag : IsTag [] := ⟨by simp, by simp⟩
  have hbody : FirstAtEnd (dollarMarker []) ":b".toList :=
    firstAtEnd_of_splitAfter (dollarMarker_ne_nil []) (by decide +kernel)
  have hcomma : Inert Delimiter.colon.char ',' := ⟨by decide, by decide, by decide⟩
  have h := adds_nothing_after_dollarQuoted (d := .colon) (by decide) ha htag hbody
  exact ⟨ha, hcomma, h.1 ',' hcomma⟩

/-- **A literal right after another one is read as SQL.** What it holds becomes a placeholder, or
its closing marker opens a literal that never ends. -/
theorem adjacent_literal_is_read :
    Factors ':' "$$a$$".toList [.skipped .dollar "$$a$$".toList] ∧ IsTag [] ∧
      FirstAtEnd (dollarMarker []) ":b".toList ∧ FirstAtEnd (dollarMarker []) " ".toList ∧
      ¬ AddsNothing .colon "$$a$$".toList "$$:b$$".toList ∧
      (∃ q, scan .colon "$$a$$$$:b$$".toList = .ok q ∧
        q.placeholders = [.placeholder ['b'] 7 1 ":b".toList]) ∧
      scan .colon "$$a$$$$ $$".toList = .error ⟨.dollar, "$$a$$$$ $$".toList, 8⟩ := by
  have ha : scan .colon "$$a$$".toList =
      .ok ⟨"$$a$$".toList, [.literal "$$a$$".toList 0]⟩ := by decide +kernel
  have hb : scan .colon "$$a$$$$:b$$".toList = .ok ⟨"$$a$$$$:b$$".toList,
      [.literal "$$a$$$$".toList 0, .placeholder ['b'] 7 1 ":b".toList,
        .literal "$$".toList 9]⟩ := by decide +kernel
  have hlit : lex Delimiter.colon.char none "$$a$$".toList =
      ⟨[.skipped .dollar "$$a$$".toList], none⟩ := by decide +kernel
  refine ⟨lex_eq_iff.1 hlit, ⟨by simp, by simp⟩,
    firstAtEnd_of_splitAfter (dollarMarker_ne_nil []) (by decide +kernel),
    firstAtEnd_of_splitAfter (dollarMarker_ne_nil []) (by decide +kernel),
    ?_, ⟨_, hb, by decide +kernel⟩, by decide +kernel⟩
  rintro ⟨qa, q, hqa, hq, hsame⟩
  obtain rfl := Except.ok.inj (hqa.symm.trans ha)
  obtain rfl := Except.ok.inj (hq.symm.trans hb)
  revert hsame
  decide +kernel

end NamedSql
