import NamedSql.Rows.Scan

/-!
# Reading a row source

What a scan does is told by its result and by the events that it notes, and both are the same
wherever the scan starts (`Scan.Does`). Reading a source up to a limit asks for its columns and then
pulls one row after the other, until the limit is reached or the source ends or fails
(`Scan.does_readRows`), and closing adds one event behind the others, whether reading has failed or
not (`Scan.Does.closing`).

**Decoders** (`Decoder`). How rows become records is left open. A decoder gives one record for each
row or fails, and notes nothing but decoding. The scans of the library decode into records of a
class, and they are the scans of one decoder (`Decoder.ofSchema`).
-/

namespace NamedSql

namespace Scan

variable {α β : Type}

/-! ## What a scan does -/

/-- What a scan gives, and the events with its own behind them. -/
def exec (m : Scan α) (es : List RowEvent) : Except Failure α × List RowEvent :=
  (ExceptT.run m).run es

theorem exec_bind (m : Scan α) (k : α → Scan β) (es : List RowEvent) :
    (m >>= k).exec es = match m.exec es with
      | (.ok a, es') => (k a).exec es'
      | (.error e, es') => (.error e, es') := by
  unfold exec
  rw [ExceptT.run_bind, StateT.run_bind]
  rcases (ExceptT.run m).run es with ⟨_ | a, es'⟩ <;> rfl

theorem exec_tryCatch (m : Scan α) (k : Failure → Scan α) (es : List RowEvent) :
    (tryCatch m k).exec es = match m.exec es with
      | (.ok a, es') => (.ok a, es')
      | (.error e, es') => (k e).exec es' := by
  unfold exec
  rw [ExceptT.run_tryCatch, StateT.run_bind]
  rcases (ExceptT.run m).run es with ⟨_ | a, es'⟩ <;> rfl

/-- Wherever it starts, `m` gives `r` and notes `es`. -/
def Does (m : Scan α) (r : Except Failure α) (es : List RowEvent) : Prop :=
  ∀ before, m.exec before = (r, before ++ es)

namespace Does

variable {m : Scan α} {k : α → Scan β} {es es₂ : List RowEvent}

theorem pure (a : α) : Does (Pure.pure a) (.ok a) [] := fun before => by
  rw [List.append_nil]
  rfl

theorem throw (e : Failure) : Does (throw e : Scan α) (.error e) [] := fun before => by
  rw [List.append_nil]
  rfl

theorem note (e : RowEvent) : Does (Scan.note e) (.ok ()) [e] := fun _ => rfl

/-- A step that succeeds is followed by the next one. -/
theorem bind {a : α} {r : Except Failure β} (hm : Does m (.ok a) es) (hk : Does (k a) r es₂) :
    Does (m >>= k) r (es ++ es₂) := by
  intro before
  rw [exec_bind, hm]
  dsimp only
  rw [hk, List.append_assoc]

/-- A step that fails is the last one. -/
theorem bind_error {e : Failure} (hm : Does m (.error e) es) : Does (m >>= k) (.error e) es := by
  intro before
  rw [exec_bind, hm]

/-- The step that follows is a pure one. -/
theorem bind_pure {g : α → β} {r : Except Failure α} (hm : Does m r es) :
    Does (m >>= fun a => Pure.pure (g a)) (r.map g) es := by
  cases r with
  | error e => exact hm.bind_error
  | ok a =>
    have h := hm.bind (k := fun a => Pure.pure (g a)) (pure (g a))
    rwa [List.append_nil] at h

/-- A source is closed once after a step, whether the step has failed or not. -/
theorem closing {r : Except Failure α} (hm : Does m r es) :
    Does (Scan.closing m) r (es ++ [.close]) := by
  intro before
  unfold Scan.closing
  rw [exec_bind, exec_tryCatch, exec_bind, hm, ← List.append_assoc]
  cases r <;> rfl

theorem fst_eq {r : Except Failure α} (hm : Does m r es) : (m.exec []).1 = r := by rw [hm]

end Does

end Scan

/-! ## Reading -/

namespace RowSource

/-- What comes of pulling rows: as many as the limit says, or all if the source ends before. -/
def pulled (failure : Option Failure) (limit : Option Nat) (rows : List (List Value)) :
    Except Failure (List (List Value)) :=
  if limit.any (· ≤ rows.length) then .ok (rows.take (limit.getD 0))
  else failure.elim (.ok rows) .error

/-- How often is pulled: for each row, and once more to see that there is none left. -/
def pulls (limit : Option Nat) (rows : List (List Value)) : Nat :=
  limit.elim (rows.length + 1) (min · (rows.length + 1))

/-- What is read of a source. -/
def read (src : RowSource) (limit : Option Nat) : Except Failure (List Entries) := do
  let columns ← src.columns
  let rows ← pulled src.failure limit src.rows
  return rows.map (rowEntries columns)

/-- What happens to a source that is read. -/
def readEvents (src : RowSource) (limit : Option Nat) : List RowEvent :=
  .columns :: match src.columns with
    | .ok _ => List.replicate (pulls limit src.rows) .pull
    | .error _ => []

section

variable {failure : Option Failure} {limit : Option Nat} (h : limit ≠ some 0) (row : List Value)
  (rows : List (List Value))

include h

theorem pulled_nil : pulled failure limit [] = failure.elim (.ok []) .error := by
  cases limit with
  | none => rfl
  | some n => simp_all [pulled]

theorem pulls_nil : pulls limit [] = 1 := by
  cases limit with
  | none => rfl
  | some n =>
    have : n ≠ 0 := fun hn => h (congrArg some hn)
    simp only [pulls, Option.elim_some, List.length_nil]
    omega

theorem pulled_cons : pulled failure limit (row :: rows) =
    (pulled failure (limit.map (· - 1)) rows).map (row :: ·) := by
  match limit, h with
  | none, _ => cases failure <;> rfl
  | some (n + 1), _ =>
    simp only [pulled, Option.map_some, Option.any_some, Option.getD_some, List.length_cons,
      Nat.add_le_add_iff_right, Nat.add_sub_cancel, List.take_succ_cons]
    split
    · rfl
    · cases failure <;> rfl

theorem pulls_cons : pulls limit (row :: rows) = pulls (limit.map (· - 1)) rows + 1 := by
  match limit, h with
  | none, _ => rfl
  | some (n + 1), _ =>
    simp only [pulls, Option.map_some, Option.elim_some, List.length_cons, Nat.add_sub_cancel]
    omega

end

end RowSource

namespace Scan

open RowSource

theorem does_pull (failure : Option Failure) (limit : Option Nat) (rows : List (List Value)) :
    Does (pull failure limit rows) (pulled failure limit rows)
      (List.replicate (pulls limit rows) .pull) := by
  induction rows generalizing limit with
  | nil =>
    by_cases h : limit = some 0
    · subst h
      rw [pull]
      exact .pure []
    · rw [pulled_nil h, pulls_nil h]
      cases failure with
      | none =>
        rw [pull]
        · exact (Does.note .pull).bind (.pure [])
        · exact h
      | some e =>
        rw [pull]
        · exact (Does.note .pull).bind (.throw e)
        · exact h
  | cons row rows ih =>
    by_cases h : limit = some 0
    · subst h
      rw [pull]
      exact .pure []
    · rw [pulled_cons h, pulls_cons h, pull]
      · exact (Does.note .pull).bind ((ih _).bind_pure)
      · exact h

/-- What is read of a source, and what happens to it. -/
theorem does_readRows (src : RowSource) (limit : Option Nat) :
    Does (readRows src limit) (src.read limit) (src.readEvents limit) := by
  have hcolumns : Does (askColumns src) src.columns [.columns] := by
    unfold askColumns
    cases src.columns with
    | ok columns => exact (Does.note .columns).bind (.pure columns)
    | error e => exact (Does.note .columns).bind (.throw e)
  have hpull := does_pull src.failure limit src.rows
  unfold RowSource.read readEvents
  cases hsrc : src.columns with
  | error e =>
    rw [hsrc] at hcolumns
    exact hcolumns.bind_error.bind_error
  | ok columns =>
    rw [hsrc] at hcolumns
    have hread : Does (Scan.read src limit)
        ((pulled src.failure limit src.rows).map (columns, ·))
        (.columns :: List.replicate (pulls limit src.rows) .pull) := hcolumns.bind hpull.bind_pure
    have hrows := hread.bind_pure (g := fun read => read.2.map (rowEntries read.1))
    cases hpulled : pulled src.failure limit src.rows <;> rw [hpulled] at hrows <;> exact hrows

end Scan

/-! ## Decoding -/

/-- A way to decode rows. It gives one record for each row or fails, it does the same wherever it
starts, and it notes nothing but the rows that it tries to decode. -/
structure Decoder (δ : Type) where
  decode : List Entries → Scan (List δ)
  lawful (rows : List Entries) : ∃ r n, (decode rows).Does r (List.replicate n .decode) ∧
    ∀ ds, r = .ok ds → ds.length = rows.length

namespace Decoder

variable {δ : Type} (D : Decoder δ)

/-- What rows are decoded to. -/
def result (rows : List Entries) : Except Failure (List δ) := ((D.decode rows).exec []).1

/-- Decodes the row if there is one row only. -/
def only : List Entries → Scan δ
  | [] => throw (.error (.noRow none))
  | [row] => do
    match ← D.decode [row] with
    | d :: _ => return d
    | [] => throw (.error (.noRow none))
  | _ => throw (.error .severalRows)

/-- What a row is decoded to if it is the only one. -/
def resultOnly : List Entries → Except Failure δ
  | [] => .error (.error (.noRow none))
  | [row] => D.result [row] >>= fun ds => ds.head?.elim (.error (.error (.noRow none))) .ok
  | _ => .error (.error .severalRows)

/-- Decodes all rows of a source. -/
def all (src : RowSource) : Scan (List δ) := do
  D.decode (← Scan.closing (Scan.readRows src none))

/-- Decodes the only row of a source. -/
def one (src : RowSource) : Scan δ := do
  D.only (← Scan.closing (Scan.readRows src (some 2)))

def resultAll (src : RowSource) : Except Failure (List δ) := src.read none >>= D.result

def resultOne (src : RowSource) : Except Failure δ := src.read (some 2) >>= D.resultOnly

/-! ### What decoding does -/

theorem does_decode (rows : List Entries) :
    ∃ n, (D.decode rows).Does (D.result rows) (List.replicate n .decode) := by
  obtain ⟨r, n, hdoes, -⟩ := D.lawful rows
  obtain rfl : D.result rows = r := hdoes.fst_eq
  exact ⟨n, hdoes⟩

theorem length_of_result {rows : List Entries} {ds : List δ} (h : D.result rows = .ok ds) :
    ds.length = rows.length := by
  obtain ⟨r, n, hdoes, hlength⟩ := D.lawful rows
  exact hlength ds (hdoes.fst_eq.symm.trans h)

theorem does_only (rows : List Entries) :
    ∃ n, (D.only rows).Does (D.resultOnly rows) (List.replicate n .decode) := by
  match rows with
  | [] => exact ⟨0, .throw _⟩
  | _ :: _ :: _ => exact ⟨0, .throw _⟩
  | [row] =>
    obtain ⟨n, hdecode⟩ := D.does_decode [row]
    refine ⟨n, ?_⟩
    rw [only, resultOnly]
    cases hds : D.result [row] with
    | error e =>
      rw [hds] at hdecode
      exact hdecode.bind_error
    | ok ds =>
      rw [hds] at hdecode
      rw [← List.append_nil (List.replicate n _)]
      cases ds with
      | nil => exact hdecode.bind (.throw _)
      | cons d ds => exact hdecode.bind (.pure d)

end Decoder

/-- A source that is read, closed once, and then decoded. -/
theorem Scan.does_closing_bind {α : Type} {decode : List Entries → Scan α}
    {result : List Entries → Except Failure α}
    (h : ∀ rows, ∃ n, (decode rows).Does (result rows) (List.replicate n .decode))
    (src : RowSource) (limit : Option Nat) :
    ∃ n, (closing (readRows src limit) >>= decode).Does (src.read limit >>= result)
      (src.readEvents limit ++ .close :: List.replicate n .decode) := by
  have hread := (does_readRows src limit).closing
  cases hsrc : src.read limit with
  | error e =>
    rw [hsrc] at hread
    exact ⟨0, hread.bind_error⟩
  | ok rows =>
    rw [hsrc] at hread
    obtain ⟨n, hdecode⟩ := h rows
    have hdoes := hread.bind hdecode
    rw [List.append_assoc] at hdoes
    exact ⟨n, hdoes⟩

namespace Decoder

variable {δ : Type} (D : Decoder δ)

theorem does_all (src : RowSource) : ∃ n, (D.all src).Does (D.resultAll src)
    (src.readEvents none ++ .close :: List.replicate n .decode) :=
  Scan.does_closing_bind D.does_decode src none

theorem does_one (src : RowSource) : ∃ n, (D.one src).Does (D.resultOne src)
    (src.readEvents (some 2) ++ .close :: List.replicate n .decode) :=
  Scan.does_closing_bind D.does_only src (some 2)

/-- Rows that are decoded one after the other. -/
theorem lawful_mapM {f : Entries → Scan δ} (hf : ∀ row, ∃ r, (f row).Does r [.decode])
    (rows : List Entries) : ∃ r n, (rows.mapM f).Does r (List.replicate n .decode) ∧
      ∀ ds, r = .ok ds → ds.length = rows.length := by
  induction rows with
  | nil =>
    refine ⟨_, 0, .pure [], fun ds h => ?_⟩
    obtain rfl := Except.ok.inj h
    rfl
  | cons row rows ih =>
    obtain ⟨r, hrow⟩ := hf row
    obtain ⟨rs, n, hrows, hlength⟩ := ih
    rw [List.mapM_cons]
    cases r with
    | error e => exact ⟨_, 1, hrow.bind_error, nofun⟩
    | ok d =>
      refine ⟨_, n + 1, hrow.bind hrows.bind_pure, fun ds h => ?_⟩
      cases rs with
      | error e => contradiction
      | ok ds' =>
        obtain rfl := Except.ok.inj h
        rw [List.length_cons, List.length_cons, hlength ds' rfl]

/-- Decoding into records of a class, or leaving rows as they are. -/
def ofSchema (installed : Installed) (schema : Option Class) : Decoder Decoded where
  decode := Scan.decodeRows installed schema
  lawful rows := by
    unfold Scan.decodeRows
    cases schema with
    | none => exact ⟨_, 0, .pure _, fun ds h => by rw [← Except.ok.inj h, List.length_map]⟩
    | some c =>
      dsimp only
      cases decodingOf? installed c with
      | none => exact ⟨_, 0, .throw _, nofun⟩
      | some how =>
        refine lawful_mapM (fun row => ?_) rows
        unfold Scan.decodeRow
        cases how.decode c row with
        | ok d => exact ⟨_, (Scan.Does.note .decode).bind (.pure d)⟩
        | error kind => exact ⟨_, (Scan.Does.note .decode).bind (.throw _)⟩

theorem all_ofSchema (installed : Installed) (schema : Option Class) :
    (ofSchema installed schema).all = Scan.all installed schema := rfl

theorem one_ofSchema (installed : Installed) (schema : Option Class) :
    (ofSchema installed schema).one = Scan.one installed schema := by
  refine funext fun src => bind_congr fun rows => ?_
  match rows with
  | [] => rfl
  | [row] => exact bind_congr fun ds => by cases ds <;> rfl
  | _ :: _ :: _ => rfl

end Decoder

end NamedSql
