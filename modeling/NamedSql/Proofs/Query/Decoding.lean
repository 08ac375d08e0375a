import NamedSql.Proofs.Query.Recompilation

/-!
# Reading a compiled query back

Compiling puts markers in the place of names, and in general one cannot tell from the result which
characters are markers. If the query has no lead character of the style in it, then one can: each
lead character of the compiled query starts a marker (`pieces`).

**Theorem (`compiled_text_decodes`).** The markers that are read from the compiled query are those
of the occurrences, in order. With the names in their place the query is back (`restore`), so
different queries differ in their compiled text or in their names.

A marker takes nothing from the text after it, because that text goes on where a name has ended,
and a digit would have been part of the name.
-/

namespace NamedSql

/-! ## Digits belong to names -/

/-- Each range of the first table lies in a range of the second. -/
def RangeTable.within (t t' : RangeTable) : Bool :=
  t.all fun r => t'.any fun r' => r'.1.ble r.1 && r.2.ble r'.2

theorem RangeTable.contains_of_within {t t' : RangeTable} {n : Nat} (h : t.within t' = true)
    (hn : t.contains n = true) : t'.contains n = true := by
  obtain ⟨r, hr, hin⟩ := List.any_eq_true.1 hn
  obtain ⟨r', hr', hwithin⟩ := List.any_eq_true.1 (List.all_eq_true.1 h r hr)
  simp only [Bool.and_eq_true, decide_eq_true_eq, Nat.ble_eq] at hin hwithin
  apply List.any_eq_true.2
  refine ⟨r', hr', ?_⟩
  simp only [Bool.and_eq_true, decide_eq_true_eq]
  omega

theorem decimalRanges_within : decimalRanges.within alphanumericRanges = true := by
  decide +kernel

theorem isNameChar_of_isDecimal {c : Char} (h : isDecimal c = true) : isNameChar c = true := by
  unfold isDecimal decimalValue? at h
  split at h
  · split at h
    · next hdigit => exact isNameChar_of_isDigit hdigit
    · simp at h
  · next hascii =>
    rw [Option.isSome_map, RangeTable.block?, Option.isSome_map, List.find?_isSome] at h
    have hn : decimalRanges.contains c.toNat = true := by
      simpa [RangeTable.contains] using h
    have halpha := RangeTable.contains_of_within decimalRanges_within hn
    simp [isNameChar, isAlphanumeric, hascii, halpha]

/-! ## Reading markers -/

/-- What a marker takes from the text after its lead character: the longest run of digits, of any
script, if it is numbered. -/
def Style.readSuffix (style : Style) (s : Text) : Text :=
  match style with
  | numeric | colon => s.takeWhile isDecimal
  | question => []
  | percent => s.take 1

/-- A compiled query is made of these. -/
inductive Piece where
  | verbatim (c : Char)
  | marker (text : Text)
  deriving DecidableEq

def Piece.marker? : Piece → Option Text
  | verbatim _ => none
  | marker text => some text

/-- Reads a text from left to right, where each lead character of the style starts a marker. -/
def pieces (style : Style) (s : Text) : List Piece :=
  match s with
  | [] => []
  | c :: s =>
    if c = style.lead then
      .marker (c :: style.readSuffix s) :: pieces style (s.drop (style.readSuffix s).length)
    else .verbatim c :: pieces style s
termination_by s.length
decreasing_by
  all_goals
    simp only [List.length_drop, List.length_cons]
    omega

/-- The text in which a delimiter and a name take the place of each marker, name by name. -/
def restore (d : Char) : List Text → List Piece → Text
  | _, [] => []
  | names, .verbatim c :: ps => c :: restore d names ps
  | [], .marker text :: ps => text ++ restore d [] ps
  | name :: names, .marker _ :: ps => (d :: name) ++ restore d names ps

section

variable {style : Style} {n : Nat} {s rest : Text}

/-- A marker takes all that belongs to it and no more. -/
theorem Style.readSuffix_append (h : ∀ c, rest.head? = some c → isNameChar c = false) :
    style.readSuffix (style.suffix n ++ rest) = style.suffix n := by
  have hstop : ∀ c ∈ rest.head?, isDecimal c = false := by
    intro c hc
    by_contra hdecimal
    have hname := h c hc
    rw [isNameChar_of_isDecimal (Bool.of_not_eq_false hdecimal)] at hname
    contradiction
  cases style with
  | numeric | colon =>
    have hdigits : ∀ c ∈ decimal n, isDecimal c = true := by
      intro c hc
      exact isDecimal_of_isDigit (isDigit_of_mem_decimal hc)
    exact (span_append hdigits hstop).1
  | question => rfl
  | percent => rfl

theorem Style.lead_not_mem_suffix (style : Style) (n : Nat) : style.lead ∉ style.suffix n := by
  intro h
  have hname := isNameChar_of_mem_suffix h
  simp [isNameChar_lead] at hname

theorem pieces_nil (style : Style) : pieces style [] = [] := by
  rw [pieces]

theorem pieces_append (h : style.lead ∉ s) :
    pieces style (s ++ rest) = s.map .verbatim ++ pieces style rest := by
  induction s with
  | nil => rfl
  | cons c s ih =>
    simp only [List.mem_cons, not_or] at h
    obtain ⟨hc, hs⟩ := h
    rw [List.cons_append, pieces, if_neg (Ne.symm hc), ih hs]
    rfl

theorem pieces_marker_append (h : ∀ c, rest.head? = some c → isNameChar c = false) :
    pieces style (style.marker n ++ rest) = .marker (style.marker n) :: pieces style rest := by
  rw [Style.marker_eq, List.cons_append, pieces, if_pos rfl, Style.readSuffix_append h,
    List.drop_left]

end

/-! ## The pieces of a compiled query -/

section

variable {d : Char} {style : Style} {before : Option Char} {ts : List Token}

/-- The pieces that tokens are rendered as; the first placeholder has number `n`. -/
def renderedPieces (d : Char) (style : Style) (n : Nat) : List Token → List Piece
  | [] => []
  | .placeholder _ :: ts => .marker (style.marker n) :: renderedPieces d style (n + 1) ts
  | t :: ts => (t.source d).map .verbatim ++ renderedPieces d style n ts

/-- **A compiled query is read as it was rendered.** -/
theorem pieces_rendered (hts : Chained d before ts) (hfree : style.lead ∉ sourceOf d ts)
    (n : Nat) : pieces style (rendered d style n ts) = renderedPieces d style n ts := by
  induction ts generalizing before n with
  | nil => exact pieces_nil style
  | cons t ts ih =>
    obtain ⟨ht, hts⟩ := hts
    rw [sourceOf_cons, List.mem_append, not_or] at hfree
    obtain ⟨hsource, hrest⟩ := hfree
    have hrest (n : Nat) := ih hts hrest n
    cases t with
    | placeholder name =>
      cases ht with
      | placeholder hopen hne hname hafter =>
        have hstop : ∀ c, (rendered d style (n + 1) ts).head? = some c → isNameChar c = false :=
          isNameChar_head_rendered hafter
        rw [rendered, pieces_marker_append hstop, hrest, renderedPieces]
    | _ => simp only [rendered, renderedPieces, pieces_append hsource, hrest]

theorem markers_renderedPieces (d : Char) (style : Style) (p n : Nat) (ts : List Token) :
    (renderedPieces d style n ts).filterMap Piece.marker? =
      (List.range' n ((segments d p n ts).filterMap Segment.name?).length).map style.marker := by
  have hverbatim (s : Text) : (s.map Piece.verbatim).filterMap Piece.marker? = [] := by
    rw [List.filterMap_map]
    exact List.filterMap_eq_nil_iff.2 fun _ _ => rfl
  induction ts generalizing p n with
  | nil => rfl
  | cons t ts ih =>
    cases t with
    | placeholder name =>
      simp only [renderedPieces, segments, List.filterMap_cons, Piece.marker?, Segment.name?,
        List.length_cons, List.range'_succ, List.map_cons, ih (p + (d :: name).length)]
    | _ =>
      simp only [renderedPieces, segments, List.filterMap_append, hverbatim, List.nil_append]
      rw [filterMap_consLiteral (fun _ _ => rfl)]
      exact ih ..

theorem restore_renderedPieces (d : Char) (style : Style) (p n : Nat) (ts : List Token) :
    restore d ((segments d p n ts).filterMap Segment.name?) (renderedPieces d style n ts) =
      sourceOf d ts := by
  have hverbatim (names : List Text) (s : Text) (ps : List Piece) :
      restore d names (s.map .verbatim ++ ps) = s ++ restore d names ps := by
    induction s with
    | nil => rfl
    | cons c s ih => simp [restore, ih]
  induction ts generalizing p n with
  | nil => rfl
  | cons t ts ih =>
    cases t with
    | placeholder name =>
      simp only [renderedPieces, segments, List.filterMap_cons, Segment.name?, restore, ih,
        sourceOf_cons, Token.source]
    | _ =>
      simp only [renderedPieces, segments]
      rw [filterMap_consLiteral (fun _ _ => rfl), hverbatim, ih, sourceOf_cons]

theorem count_lead_rendered (hfree : style.lead ∉ sourceOf d ts) (p n : Nat) :
    (rendered d style n ts).count style.lead =
      ((segments d p n ts).filterMap Segment.name?).length := by
  induction ts generalizing p n with
  | nil => rfl
  | cons t ts ih =>
    rw [sourceOf_cons, List.mem_append, not_or] at hfree
    obtain ⟨hsource, hrest⟩ := hfree
    cases t with
    | placeholder name =>
      have hsuffix : (style.suffix n).count style.lead = 0 :=
        List.count_eq_zero.2 (style.lead_not_mem_suffix n)
      rw [rendered, segments, List.count_append, Style.marker_eq, List.count_cons_self, hsuffix,
        ih hrest (p + (d :: name).length)]
      simp only [List.filterMap_cons, Segment.name?, List.length_cons]
      omega
    | _ =>
      simp only [rendered, segments, List.count_append, List.count_eq_zero.2 hsource, Nat.zero_add]
      rw [filterMap_consLiteral (fun _ _ => rfl)]
      exact ih hrest ..

end

/-! ## Decoding -/

section

variable {d : Delimiter} {style : Style} {sql : Text}

theorem compile_of_factors {ts : List Token} (hts : Factors d.char sql ts) (style : Style) :
    compile d style sql =
      .ok ⟨rendered d.char style 1 ts, (segments d.char 0 1 ts).filterMap Segment.name?⟩ := by
  rw [compile_of_lex (lex_eq_iff.2 hts), Scanned.render, flatMap_segments]
  rfl

theorem restore_of_compile {c : Compiled} (hc : compile d style sql = .ok c)
    (hfree : style.lead ∉ sql) : restore d.char c.names (pieces style c.sql) = sql := by
  obtain ⟨ts, hts, -⟩ := factors_of_compile hc
  obtain rfl := Except.ok.inj (hc.symm.trans (compile_of_factors hts style))
  rw [← hts.source_eq] at hfree ⊢
  rw [pieces_rendered hts.chained hfree, restore_renderedPieces]

/-- **A compiled query can be read back if the lead character of its style was free.** That
character then occurs once for each name, the markers that it starts have the numbers from one on,
and with the names in their place the text is the query. So no two such queries have the same
compiled text and the same names. -/
theorem compiled_text_decodes {q : Scanned} (hq : scan d sql = .ok q)
    (hfree : style.lead ∉ sql) :
    ∃ c, compile d style sql = .ok c ∧
      c.sql.count style.lead = c.names.length ∧
      (pieces style c.sql).filterMap Piece.marker? =
        (List.range' 1 c.names.length).map style.marker ∧
      restore d.char c.names (pieces style c.sql) = sql ∧
      ∀ sql' c', compile d style sql' = .ok c' → style.lead ∉ sql' → c'.sql = c.sql →
        c'.names = c.names → sql' = sql := by
  obtain ⟨ts, hts, -⟩ := scan_eq_ok_iff.1 hq
  have hc := compile_of_factors hts style
  have hrestore := restore_of_compile hc hfree
  refine ⟨_, hc, ?_, ?_, hrestore, ?_⟩
  · rw [← hts.source_eq] at hfree
    exact count_lead_rendered hfree 0 1
  · rw [← hts.source_eq] at hfree
    rw [pieces_rendered hts.chained hfree]
    exact markers_renderedPieces d.char style 0 1 ts
  · intro sql' c' hc' hfree' hsql hnames
    calc sql' = restore d.char c'.names (pieces style c'.sql) :=
          (restore_of_compile hc' hfree').symm
      _ = sql := by rw [hsql, hnames, hrestore]

end

/-- A name that ends in a digit, right in front of another placeholder. -/
theorem compiled_text_decodes_digit :
    ∃ q c, scan .colon "x=:a1:b".toList = .ok q ∧ Style.numeric.lead ∉ "x=:a1:b".toList ∧
      compile .colon .numeric "x=:a1:b".toList = .ok c ∧ c.sql = "x=$1$2".toList ∧
      (pieces .numeric c.sql).filterMap Piece.marker? = ["$1".toList, "$2".toList] ∧
      restore ':' [['a', '1'], ['b']] (pieces .numeric c.sql) = "x=:a1:b".toList := by
  have hq : scan .colon "x=:a1:b".toList = .ok ⟨"x=:a1:b".toList,
      [.literal "x=".toList 0, .placeholder "a1".toList 2 1 ":a1".toList,
        .placeholder "b".toList 5 2 ":b".toList]⟩ := by decide +kernel
  have hfree : Style.numeric.lead ∉ "x=:a1:b".toList := by decide
  obtain ⟨c, hc, -, hmarkers, hrestore, -⟩ := compiled_text_decodes hq hfree
  have hcompiled : compile .colon .numeric "x=:a1:b".toList =
      .ok ⟨"x=$1$2".toList, [['a', '1'], ['b']]⟩ := by decide +kernel
  obtain rfl := Except.ok.inj (hc.symm.trans hcompiled)
  exact ⟨_, _, hq, hfree, hc, rfl, hmarkers, hrestore⟩

end NamedSql
