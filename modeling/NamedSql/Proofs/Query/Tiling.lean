import Mathlib.Data.List.Chain
import NamedSql.Proofs.Query.Factoring

/-!
# Segments tile the query

Scanning cuts a query into slices and loses nothing, and compiling touches nothing but the slices
of placeholders.

**Theorem (`scan_segmentation`).** The segments of a query that scans form a `Segmentation`: they
tile it, literals are as long as they can be, placeholders are a delimiter and a name read to its
end, and ordinals count from one. In every style, the compiled query is the query with the spans
of its placeholders replaced by the markers in order (`replaceSpans`).

The segments of tokens are followed along the tokens, where verbatim text is put in front of what
comes after it (`consLiteral`). Rendering is then followed along the tiling alone, so it needs no
knowledge of tokens.
-/

namespace NamedSql

/-! ## Slices -/

def slice (s : Text) (start stop : Nat) : Text := (s.drop start).take (stop - start)

@[simp] theorem slice_self (s : Text) (p : Nat) : slice s p p = [] := by simp [slice]

theorem slice_append_slice {s : Text} {p q r : Nat} (hpq : p ≤ q) (hqr : q ≤ r) :
    slice s p q ++ slice s q r = slice s p r := by
  unfold slice
  rw [show r - p = (q - p) + (r - q) by omega, List.take_add, List.drop_drop,
    show p + (q - p) = q by omega]

theorem slice_append_drop {s : Text} {p q : Nat} (hpq : p ≤ q) :
    slice s p q ++ s.drop q = s.drop p := by
  have h := List.take_append_drop (q - p) (s.drop p)
  rwa [List.drop_drop, show p + (q - p) = q by omega] at h

theorem slice_of_append (a b c : Text) :
    slice (a ++ b ++ c) a.length (a.length + b.length) = b := by simp [slice]

theorem slice_succ (s : Text) (p q : Nat) : slice s (p + 1) q = (slice s p q).tail := by
  unfold slice
  rw [← List.drop_one, List.drop_take, List.drop_drop, Nat.sub_sub]

/-! ## Tilings -/

/-- From `p` on, each segment starts where the one before it ends and is the slice of the text
there, and the last one ends where the text ends. -/
def Tiles (sql : Text) (p : Nat) : List Segment → Prop
  | [] => p = sql.length
  | s :: rest => s.position = p ∧ slice sql p (p + s.source.length) = s.source ∧
      Tiles sql (p + s.source.length) rest

/-- At least one of two neighbours is a placeholder. -/
def Separated (s t : Segment) : Prop := s.name?.isSome ∨ t.name?.isSome

def Segment.ordinal? : Segment → Option Nat
  | literal _ _ => none
  | placeholder _ _ n _ => some n

/-- A query cut into literals and placeholders. -/
structure Segmentation (d : Char) (sql : Text) (segs : List Segment) : Prop where
  tiles : Tiles sql 0 segs
  literal_ne_nil : ∀ text p, .literal text p ∈ segs → text ≠ []
  separated : segs.IsChain Separated
  placeholder : ∀ name p n text, .placeholder name p n text ∈ segs →
    text = d :: name ∧ name ≠ [] ∧ (∀ c ∈ name, isNameChar c = true) ∧
      ∀ c, sql[p + text.length]? = some c → isNameChar c = false
  ordinals : segs.filterMap Segment.ordinal? =
    List.range' 1 (segs.filterMap Segment.name?).length

/-! ## Verbatim text in front of segments -/

section

variable {text : Text} {p : Nat} {segs : List Segment}

theorem mem_consLiteral {s : Segment} (h : s ∈ consLiteral text p segs) :
    (∃ after, s = .literal (text ++ after) p) ∨ s ∈ segs := by
  unfold consLiteral at h
  split at h
  · next after q rest =>
    rcases List.mem_cons.1 h with rfl | h
    · exact .inl ⟨after, rfl⟩
    · exact .inr (List.mem_cons_of_mem _ h)
  · rcases List.mem_cons.1 h with rfl | h
    · exact .inl ⟨[], by simp⟩
    · exact .inr h

theorem Tiles.consLiteral {sql : Text} (htext : slice sql p (p + text.length) = text)
    (h : Tiles sql (p + text.length) segs) : Tiles sql p (consLiteral text p segs) := by
  unfold NamedSql.consLiteral
  split
  · next after q rest =>
    obtain ⟨-, hafter, hrest⟩ := h
    simp only [Segment.source] at hafter hrest
    refine ⟨rfl, ?_, ?_⟩
    · simp only [Segment.source, List.length_append, ← Nat.add_assoc]
      rw [← slice_append_slice (q := p + text.length) (by omega) (by omega), htext, hafter]
    · simpa only [Segment.source, List.length_append, ← Nat.add_assoc] using hrest
  · exact ⟨rfl, htext, h⟩

theorem isChain_consLiteral (h : segs.IsChain Separated) :
    (consLiteral text p segs).IsChain Separated := by
  unfold consLiteral
  split
  · next after q rest =>
    cases rest with
    | nil => exact .singleton _
    | cons t rest =>
      rw [List.isChain_cons_cons] at h ⊢
      exact ⟨.inr (by simpa [Separated, Segment.name?] using h.1), h.2⟩
  · next hne =>
    cases segs with
    | nil => exact .singleton _
    | cons s rest =>
      cases s with
      | literal after q => exact absurd rfl (hne after q rest)
      | placeholder name q n text => exact .cons_cons (.inr rfl) h

end

/-! ## The segments of tokens -/

theorem tiles_segments {d : Char} {sql pre : Text} {ts : List Token} (n : Nat)
    (h : sql = pre ++ sourceOf d ts) : Tiles sql pre.length (segments d pre.length n ts) := by
  induction ts generalizing pre n with
  | nil => simp [segments, Tiles, h]
  | cons t ts ih =>
    have hsql : sql = (pre ++ t.source d) ++ sourceOf d ts := by simp [h]
    have hslice : slice sql pre.length (pre.length + (t.source d).length) = t.source d := by
      rw [hsql, slice_of_append]
    cases t with
    | placeholder name =>
      refine ⟨rfl, hslice, ?_⟩
      have := ih (n + 1) hsql
      rwa [List.length_append] at this
    | _ =>
      refine Tiles.consLiteral hslice ?_
      have := ih n hsql
      rwa [List.length_append] at this

theorem literal_ne_nil_of_mem_segments {d : Char} {before : Option Char} {ts : List Token}
    (h : Chained d before ts) {p n : Nat} {text : Text} {q : Nat}
    (hmem : .literal text q ∈ segments d p n ts) : text ≠ [] := by
  induction ts generalizing before p n with
  | nil => simp [segments] at hmem
  | cons t ts ih =>
    obtain ⟨ht, hts⟩ := h
    cases t with
    | placeholder name => exact ih hts (by simpa [segments] using hmem)
    | _ =>
      rcases mem_consLiteral hmem with ⟨after, hafter⟩ | hmem
      · have := ht.source_ne_nil
        simp_all
      · exact ih hts hmem

theorem isChain_segments (d : Char) (p n : Nat) (ts : List Token) :
    (segments d p n ts).IsChain Separated := by
  induction ts generalizing p n with
  | nil => exact .nil
  | cons t ts ih =>
    cases t with
    | placeholder name =>
      have hrest := ih (p + (d :: name).length) (n + 1)
      rw [segments]
      cases hs : segments d (p + (d :: name).length) (n + 1) ts with
      | nil => exact .singleton _
      | cons s rest => exact .cons_cons (.inl rfl) (hs ▸ hrest)
    | _ => exact isChain_consLiteral (ih ..)

/-- A placeholder segment comes from a placeholder token, at the offset of that token. -/
theorem placeholder_mem_segments {d : Char} {p n : Nat} {ts : List Token} {name text : Text}
    {q k : Nat} (h : .placeholder name q k text ∈ segments d p n ts) :
    ∃ l r, ts = l ++ .placeholder name :: r ∧ text = d :: name ∧ q = p + (sourceOf d l).length := by
  induction ts generalizing p n with
  | nil => simp [segments] at h
  | cons t ts ih =>
    have step {p' n'} (hp : p' = p + (t.source d).length)
        (h : .placeholder name q k text ∈ segments d p' n' ts) :
        ∃ l r, t :: ts = l ++ .placeholder name :: r ∧ text = d :: name ∧
          q = p + (sourceOf d l).length := by
      obtain ⟨l, r, rfl, htext, hq⟩ := ih h
      exact ⟨t :: l, r, rfl, htext, by simp only [sourceOf_cons, List.length_append]; omega⟩
    cases t with
    | placeholder name' =>
      rw [segments] at h
      rcases List.mem_cons.1 h with h | h
      · obtain ⟨rfl, rfl, -, rfl⟩ := Segment.placeholder.inj h
        exact ⟨[], ts, rfl, rfl, by simp⟩
      · exact step rfl h
    | _ =>
      rcases mem_consLiteral h with ⟨after, hafter⟩ | h
      · simp at hafter
      · exact step rfl h

theorem ordinals_segments (d : Char) (p n : Nat) (ts : List Token) :
    (segments d p n ts).filterMap Segment.ordinal? =
      List.range' n ((segments d p n ts).filterMap Segment.name?).length := by
  induction ts generalizing p n with
  | nil => rfl
  | cons t ts ih =>
    cases t with
    | placeholder name =>
      simp [segments, Segment.ordinal?, Segment.name?, ih, List.range'_succ]
    | _ =>
      simp only [segments]
      rw [filterMap_consLiteral (fun _ _ => rfl), filterMap_consLiteral (fun _ _ => rfl), ih]

theorem segmentation_of_factors {d : Char} {sql : Text} {ts : List Token}
    (h : Factors d sql ts) : Segmentation d sql (segments d 0 1 ts) where
  tiles := tiles_segments 1 (show sql = [] ++ sourceOf d ts from h.source_eq.symm)
  literal_ne_nil _ _ := literal_ne_nil_of_mem_segments h.chained
  separated := isChain_segments d 0 1 ts
  placeholder name p n text hmem := by
    obtain ⟨l, r, hts, rfl, rfl⟩ := placeholder_mem_segments hmem
    cases h.stands l _ r hts with
    | placeholder _ hne hnames hafter =>
      refine ⟨rfl, hne, hnames, fun c hc => hafter c ?_⟩
      have hsql : sql = (sourceOf d l ++ d :: name) ++ sourceOf d r := by
        rw [← h.source_eq, hts]
        simp [sourceOf, Token.source]
      rw [Nat.zero_add, hsql, ← List.length_append, List.getElem?_append_right (Nat.le_refl _),
        Nat.sub_self, ← List.head?_eq_getElem?] at hc
      exact hc
  ordinals := ordinals_segments d 0 1 ts

/-! ## Rendering -/

/-- Where the source text of a placeholder starts and stops. -/
def Segment.span? : Segment → Option (Nat × Nat)
  | literal _ _ => none
  | placeholder _ p _ text => some (p, p + text.length)

/-- The text from `p` on, in which the spans, given in order, are replaced by what `mark` gives
for their numbers; the first has number `n`. -/
def replaceSpans (mark : Nat → Text) (sql : Text) (n p : Nat) : List (Nat × Nat) → Text
  | [] => sql.drop p
  | (start, stop) :: rest => slice sql p start ++ mark n ++ replaceSpans mark sql (n + 1) stop rest

/-- Text before the first span is kept. -/
theorem replaceSpans_of_le {mark : Nat → Text} {sql : Text} {n p q : Nat}
    {spans : List (Nat × Nat)} (hpq : p ≤ q) (h : ∀ span ∈ spans, q ≤ span.1) :
    replaceSpans mark sql n p spans = slice sql p q ++ replaceSpans mark sql n q spans := by
  cases spans with
  | nil => exact (slice_append_drop hpq).symm
  | cons span rest =>
    obtain ⟨start, stop⟩ := span
    have hq : q ≤ start := h (start, stop) (by simp)
    simp only [replaceSpans, ← List.append_assoc, slice_append_slice hpq hq]

theorem Tiles.le_span {sql : Text} {p : Nat} {segs : List Segment} (h : Tiles sql p segs) :
    ∀ span ∈ segs.filterMap Segment.span?, p ≤ span.1 := by
  induction segs generalizing p with
  | nil => simp
  | cons s segs ih =>
    obtain ⟨rfl, -, hrest⟩ := h
    intro span hspan
    cases s with
    | literal text q =>
      have := ih hrest span (by simpa [Segment.span?] using hspan)
      exact Nat.le_of_add_right_le this
    | placeholder name q n text =>
      simp only [Segment.span?, List.filterMap_cons, List.mem_cons] at hspan
      rcases hspan with rfl | hspan
      · exact Nat.le_refl _
      · exact Nat.le_of_add_right_le (ih hrest span hspan)

/-- Rendering replaces the spans of the placeholders. -/
theorem Tiles.flatMap_renderSegment {sql : Text} {p n : Nat} {segs : List Segment}
    (h : Tiles sql p segs) (style : Style)
    (hn : segs.filterMap Segment.ordinal? =
      List.range' n (segs.filterMap Segment.name?).length) :
    segs.flatMap (Scanned.renderSegment style) =
      replaceSpans style.marker sql n p (segs.filterMap Segment.span?) := by
  induction segs generalizing p n with
  | nil =>
    obtain rfl : p = sql.length := h
    simp [replaceSpans]
  | cons s segs ih =>
    obtain ⟨rfl, hslice, hrest⟩ := h
    cases s with
    | literal text q =>
      rw [List.flatMap_cons, ih hrest hn]
      refine Eq.trans ?_ (replaceSpans_of_le (Nat.le_add_right _ _) hrest.le_span).symm
      rw [hslice]
      rfl
    | placeholder name q k text =>
      simp only [Segment.ordinal?, Segment.name?, List.filterMap_cons, List.length_cons,
        List.range'_succ, List.cons.injEq] at hn
      obtain ⟨rfl, hn⟩ := hn
      rw [List.flatMap_cons, ih hrest hn]
      simp [Segment.span?, Segment.position, Segment.source, replaceSpans, Scanned.renderSegment]

theorem Tiles.names_eq {d : Char} {sql : Text} {p : Nat} {segs : List Segment}
    (h : Tiles sql p segs)
    (htext : ∀ name p n text, .placeholder name p n text ∈ segs → text = d :: name) :
    segs.filterMap Segment.name? =
      (segs.filterMap Segment.span?).map fun span => slice sql (span.1 + 1) span.2 := by
  induction segs generalizing p with
  | nil => rfl
  | cons s segs ih =>
    obtain ⟨rfl, hslice, hrest⟩ := h
    have hsegs := ih hrest fun name p n text hmem =>
      htext name p n text (List.mem_cons_of_mem _ hmem)
    cases s with
    | literal text q => exact hsegs
    | placeholder name q k text =>
      obtain rfl := htext name q k text (by simp)
      simp only [Segment.name?, Segment.span?, List.filterMap_cons, List.map_cons, hsegs]
      rw [slice_succ]
      exact congrArg (·.tail :: _) hslice.symm

/-- **Scanning is a lossless tiling, and compiling touches only the spans of placeholders.** If a
query scans, its segments are a segmentation of it. In every style it compiles to itself with the
`i`-th span replaced by the `i`-th marker, and the `i`-th name is the one in that span. -/
theorem scan_segmentation {d : Delimiter} {sql : Text} {q : Scanned} (h : scan d sql = .ok q) :
    Segmentation d.char sql q.segments ∧
      ∀ style, compile d style sql =
        .ok ⟨replaceSpans style.marker sql 1 0 (q.segments.filterMap Segment.span?),
          (q.segments.filterMap Segment.span?).map fun span => slice sql (span.1 + 1) span.2⟩ := by
  obtain ⟨ts, hts, rfl⟩ := scan_eq_ok_iff.1 h
  have hseg := segmentation_of_factors hts
  refine ⟨hseg, fun style => ?_⟩
  have hsql := hseg.tiles.flatMap_renderSegment style hseg.ordinals
  have hnames := hseg.tiles.names_eq fun name p n text hmem => (hseg.placeholder _ _ _ _ hmem).1
  rw [compile, h, ← hsql, ← hnames]
  rfl

/-- A repeated name and a cast. -/
theorem scan_segmentation_cast :
    ∃ q, scan .colon "x=:a::t,:a".toList = .ok q ∧
      Segmentation ':' "x=:a::t,:a".toList q.segments ∧
      compile .colon .numeric "x=:a::t,:a".toList =
        .ok ⟨"x=$1::t,$2".toList, [['a'], ['a']]⟩ := by
  have hlex : lex ':' none "x=:a::t,:a".toList =
      ⟨[.plain 'x', .plain '=', .placeholder ['a'], .doubled, .plain 't', .plain ',',
        .placeholder ['a']], none⟩ := by
    refine lex_eq_cons "=:a::t,:a".toList (by decide +kernel) ?_
    refine lex_eq_cons ":a::t,:a".toList (by decide +kernel) ?_
    refine lex_eq_cons "::t,:a".toList (by decide +kernel) ?_
    refine lex_eq_cons "t,:a".toList (by decide +kernel) ?_
    refine lex_eq_cons ",:a".toList (by decide +kernel) ?_
    refine lex_eq_cons ":a".toList (by decide +kernel) ?_
    exact lex_eq_cons [] (by decide +kernel) (lex_nil ..)
  have h : scan .colon "x=:a::t,:a".toList = .ok _ := scan_of_lex hlex
  refine ⟨_, h, (scan_segmentation h).1, ?_⟩
  rw [(scan_segmentation h).2 .numeric]
  rfl

end NamedSql
