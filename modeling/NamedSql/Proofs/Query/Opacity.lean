import NamedSql.Proofs.Query.Joining
import NamedSql.Proofs.Query.Tiling

/-!
# Opaque text

Quoted literals, comments and dollar-quoted literals hold texts that no reader looks into
(`Enclosure`). What an enclosure can hold is said by its closer alone; delimiters, other quotes,
openers of comments and tags may stand in it in any mix.

**Theorem (`scan_within`).** Two queries that differ in an opaque text on lines of its own scan
alike: both or neither scan, their placeholders correspond to each other (`Corresponds`), and so
do their errors.

An enclosure with its text is one token (`stands_token`), so it is a query without placeholders.
The rest is joining it to what comes before and after it.
-/

namespace NamedSql

/-! ## Enclosures -/

/-- The kinds of opaque text. -/
inductive Enclosure where
  | string
  | identifier
  | line
  | block
  | dollar (tag : Text)

namespace Enclosure

def span : Enclosure → Span
  | string => .string
  | identifier => .identifier
  | line => .line
  | block => .block
  | dollar _ => .dollar

def opener : Enclosure → Text
  | string => ['\'']
  | identifier => ['"']
  | line => ['-', '-']
  | block => ['/', '*']
  | dollar tag => dollarMarker tag

/-- What closes an enclosure on its line; a line comment goes on to the end. -/
def closer : Enclosure → Text
  | string => ['\'']
  | identifier => ['"']
  | line => []
  | block => ['*', '/']
  | dollar tag => dollarMarker tag

/-- There are such enclosures in queries with delimiter `d`. -/
def Valid (d : Char) : Enclosure → Prop
  | dollar tag => d ≠ '$' ∧ IsTag tag
  | _ => True

/-- A text in which the enclosure does not end. -/
def Holds : Enclosure → Text → Prop
  | string, s => Paired '\'' s
  | identifier, s => Paired '"' s
  | line, s => '\n' ∉ s
  | block, s => ¬ ['*', '/'] <:+: s
  | dollar tag, s => FirstAtEnd (dollarMarker tag) s

/-- The enclosure with its text. -/
def enclose (e : Enclosure) (s : Text) : Text := e.opener ++ s ++ e.closer

/-- The enclosure with its text, on lines of its own between `a` and `b`. -/
def within (e : Enclosure) (a b s : Text) : Text := a ++ '\n' :: (e.enclose s ++ '\n' :: b)

end Enclosure

/-- A marker of two characters ends a text first if it is not in it: it does not overlap itself. -/
theorem firstAtEnd_block {s : Text} (h : ¬ ['*', '/'] <:+: s) : FirstAtEnd ['*', '/'] s := by
  intro a b hab
  by_contra hb
  obtain ⟨b, c, rfl⟩ := (List.eq_nil_or_concat' b).resolve_left hb
  have hlast : s ++ ['*'] ++ ['/'] = a ++ ['*', '/'] ++ b ++ [c] := by simpa using hab
  obtain ⟨hinit, -⟩ := List.append_inj' hlast rfl
  rcases List.eq_nil_or_concat' b with rfl | ⟨b, c', rfl⟩
  · have hinit : s ++ ['*'] = a ++ ['*'] ++ ['/'] := by simpa using hinit
    obtain ⟨-, hc⟩ := List.append_inj' hinit rfl
    simp at hc
  · have hinit : s ++ ['*'] = a ++ ['*', '/'] ++ b ++ [c'] := by simpa using hinit
    obtain ⟨hs, -⟩ := List.append_inj' hinit rfl
    exact h ⟨a, b, hs.symm⟩

namespace Enclosure

variable {d : Delimiter} {e : Enclosure} {s : Text}

/-- **Whatever it holds, an enclosure is one token.** -/
theorem stands_token (he : e.Valid d.char) (hs : e.Holds s) :
    Stands d.char none (.skipped e.span (e.enclose s)) [] := by
  cases e with
  | string => exact .string hs (by simp)
  | identifier => exact .identifier hs (by simp)
  | line =>
    have htext : enclose line s = '-' :: '-' :: s := by simp [enclose, opener, closer]
    rw [htext]
    exact .lastLine hs
  | block => exact .block (firstAtEnd_block hs)
  | dollar tag => exact .dollar he.1 nofun he.2 hs

theorem scan_enclose (he : e.Valid d.char) (hs : e.Holds s) :
    ∃ q, scan d (e.enclose s) = .ok q ∧ q.placeholders = [] := by
  have hchained : Chained d.char none [.skipped e.span (e.enclose s)] :=
    ⟨stands_token he hs, trivial⟩
  have hlex := lex_of_chained hchained
  rw [sourceOf_cons, sourceOf_nil, List.append_nil] at hlex
  exact ⟨_, scan_of_lex hlex, placeholders_of_tokens ..⟩

/-! ## Between two queries -/

/-- Where `b` starts in a query that has an enclosure before it. -/
def restAt (e : Enclosure) (a s : Text) : Nat := a.length + 1 + (e.enclose s).length + 1

theorem restAt_add_length (e : Enclosure) (a s s' : Text) :
    e.restAt a s' + s.length = e.restAt a s + s'.length := by
  simp only [restAt, enclose, List.length_append]
  omega

variable {a b : Text} {qa : Scanned}

/-- **An opaque text only moves what comes after it.** -/
theorem scan_within_cases (he : e.Valid d.char) (hs : e.Holds s) (ha : scan d a = .ok qa)
    (b : Text) :
    (∃ qb q, scan d b = .ok qb ∧ scan d (e.within a b s) = .ok q ∧
      q.placeholders = qa.placeholders ++
        qb.placeholders.map (Segment.shift (e.restAt a s) qa.placeholders.length)) ∨
    ∃ u, scan d b = .error u ∧ scan d (e.within a b s) =
      .error ⟨u.cause, e.within a b s, e.restAt a s + u.position⟩ := by
  obtain ⟨qs, hqs, hnone⟩ := scan_enclose he hs
  cases hb : scan d b with
  | ok qb =>
    obtain ⟨q, hq, hplaceholders⟩ := scan_newline_of_ok hqs hb
    obtain ⟨q', hq', hplaceholders'⟩ := scan_newline_of_ok ha hq
    refine .inl ⟨qb, q', rfl, hq', ?_⟩
    have hshift : Segment.shift (a.length + 1) qa.placeholders.length ∘
        Segment.shift ((e.enclose s).length + 1) 0 =
          Segment.shift (e.restAt a s) qa.placeholders.length := by
      funext x
      rw [Function.comp_apply, Segment.shift_shift, Nat.zero_add]
      congr 1
      unfold restAt
      omega
    rw [hplaceholders', hplaceholders, hnone, List.nil_append, List.length_nil, List.map_map,
      hshift]
  | error u =>
    refine .inr ⟨u, rfl, ?_⟩
    have hu := scan_newline_of_error ha (scan_newline_of_error hqs hb)
    have hrest : a.length + 1 + ((e.enclose s).length + 1 + u.position) =
        e.restAt a s + u.position := by
      unfold restAt
      omega
    dsimp only at hu
    rwa [hrest] at hu

theorem exists_scan_within_iff (he : e.Valid d.char) (hs : e.Holds s) (ha : scan d a = .ok qa) :
    (∃ q, scan d (e.within a b s) = .ok q) ↔ ∃ qb, scan d b = .ok qb := by
  rcases scan_within_cases he hs ha b with ⟨qb, q, hb, hq, -⟩ | ⟨u, hb, hu⟩
  · simp [hb, hq]
  · simp [hb, hu]

/-! ## Two runs -/

/-- A placeholder when an enclosure that starts at `start` holds `s`, and the same one when it
holds `s'`. -/
inductive Corresponds (e : Enclosure) (start : Nat) (s s' : Text) : Segment → Segment → Prop
  | before {name text : Text} {p n : Nat} : p < start →
      Corresponds e start s s' (.placeholder name p n text) (.placeholder name p n text)
  | after {name text : Text} {p p' n : Nat} : start + (e.enclose s).length ≤ p →
      p' + s.length = p + s'.length →
      Corresponds e start s s' (.placeholder name p n text) (.placeholder name p' n text)

theorem Corresponds.name?_eq {start : Nat} {s s' : Text} {x x' : Segment}
    (h : Corresponds e start s s' x x') : x.name? = x'.name? := by
  cases h <;> rfl

theorem filterMap_name?_eq {start : Nat} {s s' : Text} {xs xs' : List Segment}
    (h : List.Forall₂ (Corresponds e start s s') xs xs') :
    xs.filterMap Segment.name? = xs'.filterMap Segment.name? := by
  induction h with
  | nil => rfl
  | cons hx _ ih => rw [List.filterMap_cons, List.filterMap_cons, hx.name?_eq, ih]

theorem forall₂_before {start : Nat} (h : scan d a = .ok qa) (hstart : a.length ≤ start)
    (s s' : Text) : List.Forall₂ (Corresponds e start s s') qa.placeholders qa.placeholders := by
  refine List.forall₂_same.2 fun x hx => ?_
  obtain ⟨hmem, hname⟩ := List.mem_filter.1 hx
  cases x with
  | literal => contradiction
  | placeholder name p n text =>
    obtain ⟨ts, hts, rfl⟩ := scan_eq_ok_iff.1 h
    obtain ⟨l, r, rfl, -, rfl⟩ := placeholder_mem_segments hmem
    have hlength := congrArg List.length hts.source_eq
    simp only [sourceOf_append, sourceOf_cons, List.length_append, Token.source,
      List.length_cons] at hlength
    exact .before (by omega)

theorem forall₂_after (e : Enclosure) (a s s' : Text) (n : Nat) (qb : Scanned) :
    List.Forall₂ (Corresponds e (a.length + 1) s s')
      (qb.placeholders.map (Segment.shift (e.restAt a s) n))
      (qb.placeholders.map (Segment.shift (e.restAt a s') n)) := by
  rw [List.forall₂_map_left_iff, List.forall₂_map_right_iff]
  refine List.forall₂_same.2 fun x hx => ?_
  cases x with
  | literal => exact absurd (List.mem_filter.1 hx).2 (by simp)
  | placeholder name p m text =>
    have hrest := e.restAt_add_length a s s'
    refine .after ?_ (by omega)
    unfold restAt
    omega

/-- **Two queries that differ in an opaque text have the same placeholders**, but for where they
are. -/
theorem forall₂_corresponds {q q' : Scanned} {s' : Text} (he : e.Valid d.char) (hs : e.Holds s)
    (hs' : e.Holds s') (ha : scan d a = .ok qa) (hq : scan d (e.within a b s) = .ok q)
    (hq' : scan d (e.within a b s') = .ok q') :
    List.Forall₂ (Corresponds e (a.length + 1) s s') q.placeholders q'.placeholders := by
  rcases scan_within_cases he hs ha b with ⟨qb, r, hb, hr, hplaceholders⟩ | ⟨u, -, hu⟩
  · rcases scan_within_cases he hs' ha b with ⟨qb', r', hb', hr', hplaceholders'⟩ | ⟨u, hu, -⟩
    · obtain rfl : q = r := Except.ok.inj (hq.symm.trans hr)
      obtain rfl : q' = r' := Except.ok.inj (hq'.symm.trans hr')
      obtain rfl : qb = qb' := Except.ok.inj (hb.symm.trans hb')
      rw [hplaceholders, hplaceholders']
      exact List.rel_append (forall₂_before ha (by omega) s s') (forall₂_after e a s s' _ qb)
    · simp [hb] at hu
  · simp [hq] at hu

theorem error_within {u u' : LexError} {s' : Text} (he : e.Valid d.char) (hs : e.Holds s)
    (hs' : e.Holds s') (ha : scan d a = .ok qa) (hu : scan d (e.within a b s) = .error u)
    (hu' : scan d (e.within a b s') = .error u') :
    u'.cause = u.cause ∧ u'.position + s.length = u.position + s'.length := by
  have hrest := e.restAt_add_length a s s'
  rcases scan_within_cases he hs ha b with ⟨qb, q, -, hq, -⟩ | ⟨w, hb, hw⟩
  · simp [hu] at hq
  · rcases scan_within_cases he hs' ha b with ⟨qb, q, hb', -⟩ | ⟨w', hb', hw'⟩
    · simp [hb] at hb'
    · obtain rfl : w = w' := Except.error.inj (hb.symm.trans hb')
      obtain rfl := Except.error.inj (hu.symm.trans hw)
      obtain rfl := Except.error.inj (hu'.symm.trans hw')
      refine ⟨rfl, ?_⟩
      dsimp only
      omega

end Enclosure

end NamedSql
