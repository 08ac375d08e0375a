import NamedSql.Proofs.Rows.Reading

/-!
# The only row of a source

Asking for the only row stops at the second one, so it sees less of a source than asking for all
rows. A source of less than two rows is read to its end by both, and then they can only differ in
what they make of the rows; of several rows the first two are read, whatever comes behind them, and
that is enough to know that there is no only row.

**Theorem (`only_row_restricts_all`).** The only row is `d` exactly if all rows are `[d]`, and what
fails is told by the source: none or several rows, or the failure of the source itself.
-/

namespace NamedSql

namespace RowSource

variable {src : RowSource} {columns : List Text}

theorem read_of_columns_error {e : Failure} (h : src.columns = .error e) (limit : Option Nat) :
    src.read limit = .error e := by
  unfold read
  rw [h]
  rfl

theorem read_of_columns (h : src.columns = .ok columns) (limit : Option Nat) :
    src.read limit = (pulled src.failure limit src.rows).map (·.map (rowEntries columns)) := by
  unfold read
  rw [h]
  cases pulled src.failure limit src.rows <;> rfl

/-- Less than two rows are read to their end. -/
theorem read_two_of_few (hrows : src.rows.length < 2) : src.read (some 2) = src.read none := by
  unfold read pulled
  simp only [Option.any_some, decide_eq_true_eq, Nat.not_le.mpr hrows, if_false]
  rfl

/-- Of several rows two are read. -/
theorem read_two_of_several (h : src.columns = .ok columns) {row row' : List Value}
    {rows : List (List Value)} (hrows : src.rows = row :: row' :: rows) :
    src.read (some 2) = .ok [rowEntries columns row, rowEntries columns row'] := by
  rw [read_of_columns h, hrows]
  simp [pulled, Except.map]

/-- Without a limit, a source that fails gives nothing. -/
theorem read_none_of_failure {e : Failure} (h : src.columns = .ok columns)
    (hfailure : src.failure = some e) : src.read none = .error e := by
  rw [read_of_columns h, hfailure]
  rfl

/-- Without a limit, all rows of a source that does not fail are read. -/
theorem read_none_of_end (h : src.columns = .ok columns) (hfailure : src.failure = none) :
    src.read none = .ok (src.rows.map (rowEntries columns)) := by
  rw [read_of_columns h, hfailure]
  rfl

theorem length_of_read {rows : List Entries} (h : src.read none = .ok rows) :
    rows.length = src.rows.length := by
  cases hcolumns : src.columns with
  | error e =>
    rw [read_of_columns_error hcolumns] at h
    contradiction
  | ok columns =>
    cases hfailure : src.failure with
    | some e =>
      rw [read_none_of_failure hcolumns hfailure] at h
      contradiction
    | none =>
      rw [read_none_of_end hcolumns hfailure] at h
      rw [← Except.ok.inj h, List.length_map]

/-- Two rows and their closing are all that happens to a source of several rows. -/
theorem readEvents_two_of_several (h : src.columns = .ok columns) (hrows : 2 ≤ src.rows.length) :
    src.readEvents (some 2) = [.columns, .pull, .pull] := by
  unfold readEvents pulls
  rw [h]
  simp only [Option.elim_some, Nat.min_eq_left (Nat.le_succ_of_le hrows)]
  rfl

end RowSource

namespace Decoder

variable {δ : Type} (D : Decoder δ) {src : RowSource} {rows : List Entries}

/-- What one row is decoded to is a list of one record. -/
theorem resultOnly_of_one (hrows : rows.length = 1) (r : Except Failure δ) :
    D.resultOnly rows = r ↔ D.result rows = r.map ([·]) := by
  obtain ⟨row, rfl⟩ := List.length_eq_one_iff.mp hrows
  have honly : D.resultOnly [row] =
      D.result [row] >>= fun ds => ds.head?.elim (.error (.error (.noRow none))) .ok := rfl
  cases hresult : D.result [row] with
  | error e =>
    rw [hresult] at honly
    rw [honly]
    cases r <;> simp [bind, Except.bind, Except.map]
  | ok ds =>
    obtain ⟨d, rfl⟩ := List.length_eq_one_iff.mp (D.length_of_result hresult)
    rw [hresult] at honly
    rw [honly]
    cases r <;> simp [bind, Except.bind, Except.map]

/-- A row is the only one exactly if it is what a list of one row is decoded to. -/
theorem resultOnly_eq_ok_iff {d : δ} : D.resultOnly rows = .ok d ↔ D.result rows = .ok [d] := by
  match rows with
  | [row] => exact D.resultOnly_of_one rfl (.ok d)
  | [] | _ :: _ :: _ =>
    refine iff_of_false nofun fun h => ?_
    have hlength := D.length_of_result h
    simp at hlength

theorem resultOne_eq_of_few (hrows : src.rows.length < 2) :
    D.resultOne src = src.read none >>= D.resultOnly := by
  unfold resultOne
  rw [RowSource.read_two_of_few hrows]

theorem resultOne_of_columns_error {e : Failure} (h : src.columns = .error e) :
    D.resultOne src = .error e := by
  unfold resultOne
  rw [RowSource.read_of_columns_error h]
  rfl

/-- A source without rows fails as it ends. -/
theorem resultOne_of_empty {columns : List Text} (h : src.columns = .ok columns)
    (hrows : src.rows = []) :
    D.resultOne src = .error (src.failure.getD (.error (.noRow none))) := by
  rw [D.resultOne_eq_of_few (by rw [hrows]; exact Nat.two_pos), RowSource.read_of_columns h, hrows]
  cases src.failure <;> rfl

/-- Of several rows none is the only one, and none of them is decoded. -/
theorem exec_one_of_several {columns : List Text} (h : src.columns = .ok columns)
    (hrows : 2 ≤ src.rows.length) :
    (D.one src).exec [] = (.error (.error .severalRows), [.columns, .pull, .pull, .close]) := by
  have hread := (Scan.does_readRows src (some 2)).closing
  rw [RowSource.readEvents_two_of_several h hrows] at hread
  match hsrc : src.rows, hrows with
  | row :: row' :: rows, _ =>
    rw [RowSource.read_two_of_several h hsrc] at hread
    exact (hread.bind (.throw _)) []

theorem resultOne_of_several {columns : List Text} (h : src.columns = .ok columns)
    (hrows : 2 ≤ src.rows.length) : D.resultOne src = .error (.error .severalRows) := by
  obtain ⟨n, hone⟩ := D.does_one src
  rw [← hone.fst_eq, D.exec_one_of_several h hrows]

end Decoder

/-! ## One row and all rows -/

/-- `one` gives the only row of what `all` gives of a source. -/
structure Scan.Restricts {δ : Type} (src : RowSource) (all : Scan (List δ)) (one : Scan δ) :
    Prop where
  /-- There is an only row exactly if all rows are this one. -/
  ok_iff (d : δ) : (one.exec []).1 = .ok d ↔ (all.exec []).1 = .ok [d]
  /-- A single row fails with what all rows fail with. -/
  error_iff (e : Failure) :
    src.rows.length = 1 → ((one.exec []).1 = .error e ↔ (all.exec []).1 = .error e)
  /-- A source that ends before its first row has no row. -/
  empty (columns : List Text) : src.columns = .ok columns → src.rows = [] → src.failure = none →
    (one.exec []).1 = .error (.error (.noRow none))
  /-- Several rows are too many. Two are pulled, and nothing is decoded. -/
  several (columns : List Text) : src.columns = .ok columns → 2 ≤ src.rows.length →
    one.exec [] = (.error (.error .severalRows), [.columns, .pull, .pull, .close])
  /-- A source that fails before its second row fails as it does. -/
  failing (columns : List Text) (e : Failure) : src.columns = .ok columns → src.rows.length < 2 →
    src.failure = some e → (one.exec []).1 = .error e
  /-- Columns that cannot be told fail as they do. -/
  unnamed (e : Failure) : src.columns = .error e → (one.exec []).1 = .error e

namespace Decoder

variable {δ : Type} (D : Decoder δ) (src : RowSource)

theorem ok_iff (d : δ) : D.resultOne src = .ok d ↔ D.resultAll src = .ok [d] := by
  rcases Nat.lt_or_ge src.rows.length 2 with hfew | hseveral
  · rw [D.resultOne_eq_of_few hfew]
    unfold resultAll
    cases src.read none with
    | error e => exact iff_of_false nofun nofun
    | ok rows => exact D.resultOnly_eq_ok_iff
  · cases hcolumns : src.columns with
    | error e =>
      unfold resultAll
      rw [D.resultOne_of_columns_error hcolumns, RowSource.read_of_columns_error hcolumns]
      exact iff_of_false nofun nofun
    | ok columns =>
      rw [D.resultOne_of_several hcolumns hseveral]
      refine iff_of_false nofun fun hall => ?_
      unfold resultAll at hall
      cases hread : src.read none with
      | error e =>
        rw [hread] at hall
        contradiction
      | ok rows =>
        rw [hread] at hall
        have hlength := (D.length_of_result hall).symm.trans List.length_singleton
        rw [RowSource.length_of_read hread] at hlength
        omega

theorem error_iff (e : Failure) (hrows : src.rows.length = 1) :
    D.resultOne src = .error e ↔ D.resultAll src = .error e := by
  rw [D.resultOne_eq_of_few (by omega)]
  unfold resultAll
  cases hread : src.read none with
  | error e' =>
    simp [bind, Except.bind]
  | ok rows =>
    exact D.resultOnly_of_one ((RowSource.length_of_read hread).trans hrows) (.error e)

theorem restricts : Scan.Restricts src (D.all src) (D.one src) := by
  obtain ⟨n, hone⟩ := D.does_one src
  obtain ⟨_, hall⟩ := D.does_all src
  have hfst := hone.fst_eq
  constructor
  case ok_iff =>
    rw [hfst, hall.fst_eq]
    exact D.ok_iff src
  case error_iff =>
    rw [hfst, hall.fst_eq]
    exact D.error_iff src
  case empty =>
    intro columns hcolumns hrows hfailure
    rw [hfst, D.resultOne_of_empty hcolumns hrows, hfailure]
    rfl
  case several =>
    intro columns hcolumns hrows
    exact D.exec_one_of_several hcolumns hrows
  case failing =>
    intro columns e hcolumns hrows hfailure
    rw [hfst, D.resultOne_eq_of_few hrows, RowSource.read_none_of_failure hcolumns hfailure]
    rfl
  case unnamed =>
    intro e hcolumns
    rw [hfst, D.resultOne_of_columns_error hcolumns]

end Decoder

/-- **The only row is what all rows are restricted to one.** For every row source, whether its
columns can be told, however many rows it has and whatever it fails with behind them: the only row
is `d` exactly if all rows are `[d]`; a source without rows has none, and a source of several rows
has too many, which two pulls tell before anything is decoded; and what else a source fails with
leaves as it is. This holds however rows are decoded, and for the scans of every class. -/
theorem only_row_restricts_all {δ : Type} (D : Decoder δ) (installed : Installed)
    (schema : Option Class) (src : RowSource) :
    Scan.Restricts src (D.all src) (D.one src) ∧
      Scan.Restricts src (Scan.all installed schema src) (Scan.one installed schema src) := by
  refine ⟨D.restricts src, ?_⟩
  rw [← Decoder.all_ofSchema, ← Decoder.one_ofSchema]
  exact (Decoder.ofSchema installed schema).restricts src

/-- A source that fails behind its second row has several rows; its failure is not known. -/
example : (Scan.one .all none ⟨.ok [['a']], [[.int 1], [.int 2]], some (.ofKind .interrupt)⟩).exec
    [] = (.error (.error .severalRows), [.columns, .pull, .pull, .close]) := rfl

end NamedSql
