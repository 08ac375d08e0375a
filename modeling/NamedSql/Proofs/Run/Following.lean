import NamedSql.Proofs.Rows.Reading
import NamedSql.Run.Driver

/-!
# Following a scan

Rows that are open follow the scans that read them: what a scan does to its source happens to the
rows, and where it closes the source, the cursor of the rows is closed with them, unless they were
closed before (`OpenRows.Follows`). One thing that happens is one step, and it never fails
(`OpenRows.exec_follow`); so a scan gives through open rows what it gives by itself, and closes
their cursor at most once, whatever was done to the rows before and however often they are closed
behind it (`OpenRows.exec_scan`, `OpenRows.exec_closeTimes`).
-/

namespace NamedSql

/-! ## Running -/

namespace Run

variable {α β : Type}

/-- What a run gives, and the progress that it makes. -/
def exec (m : Run α) (p : Progress) : Except Failure α × Progress := (ExceptT.run m).run p

@[simp] theorem exec_pure (a : α) (p : Progress) : (pure a : Run α).exec p = (.ok a, p) := rfl

@[simp] theorem exec_throw (e : Failure) (p : Progress) :
    (throw e : Run α).exec p = (.error e, p) := rfl

theorem exec_bind (m : Run α) (k : α → Run β) (p : Progress) :
    (m >>= k).exec p = match m.exec p with
      | (.ok a, p') => (k a).exec p'
      | (.error e, p') => (.error e, p') := by
  unfold exec
  rw [ExceptT.run_bind, StateT.run_bind]
  rcases (ExceptT.run m).run p with ⟨_ | a, p'⟩ <;> rfl

theorem exec_tryCatch (m : Run α) (k : Failure → Run α) (p : Progress) :
    (tryCatch m k).exec p = match m.exec p with
      | (.ok a, p') => (.ok a, p')
      | (.error e, p') => (k e).exec p' := by
  unfold exec
  rw [ExceptT.run_tryCatch, StateT.run_bind]
  rcases (ExceptT.run m).run p with ⟨_ | a, p'⟩ <;> rfl

@[simp] theorem exec_note (e : RunEvent) (p : Progress) :
    (note e).exec p = (.ok (), { p with events := p.events ++ [e] }) := rfl

/-- A coroutine does what it is made of, and its failure leaves it. -/
theorem exec_coroutine (m : Run α) (p : Progress) :
    (coroutine m).exec p =
      ((m.exec p).1.mapError (·.outOf .coroutine), (m.exec p).2) := by
  unfold coroutine
  rw [exec_tryCatch]
  rcases m.exec p with ⟨_ | a, p'⟩ <;> rfl

/-- What comes last is done in any case. -/
theorem exec_ensuring {last : Run Unit} {m : Run α} {p p' p'' : Progress} {r : Except Failure α}
    (h : m.exec p = (r, p')) (hlast : last.exec p' = (.ok (), p'')) :
    (ensuring last m).exec p = (r, p'') := by
  unfold ensuring
  rw [exec_bind, exec_tryCatch, h]
  cases r with
  | ok a => simp only [exec_bind, hlast, exec_pure]
  | error e => simp only [exec_bind, hlast, exec_throw]

end Run

theorem Mode.exec_run {α : Type} (mode : Mode) (m : Run α) (p : Progress) :
    (mode.run m).exec p = ((m.exec p).1.mapError mode.leaving, (m.exec p).2) := by
  cases mode with
  | sync => rcases hexec : m.exec p with ⟨_ | a, p'⟩ <;> exact hexec
  | async => exact Run.exec_coroutine m p

/-! ## What was noted -/

namespace Progress

/-- What queriers were asked so far. -/
def requests (p : Progress) : List (Operation × Bound) := p.events.filterMap RunEvent.request?

/-- What happened to rows so far. -/
def rowEvents (p : Progress) : List RowEvent := p.events.filterMap RunEvent.row?

/-- The cursors that were opened so far. -/
def opened (p : Progress) : List Nat := p.events.filterMap RunEvent.opening?

/-- The cursors that were closed so far, each as often as it was closed. -/
def closed (p : Progress) : List Nat := p.events.filterMap RunEvent.closing?

end Progress

namespace OpenRows

/-! ## Following -/

/-- The cursor that is closed when `es` happens to rows: their own, if they are closed and were not
closed before. -/
def released (rows : OpenRows) (es : List RowEvent) (p : Progress) : List Nat :=
  match rows.cursor? with
  | some n => if es.contains .close && !p.isClosed n then [n] else []
  | none => []

/-- From `p` to `p'` nothing is done but that `es` happens to rows. -/
structure Follows (rows : OpenRows) (es : List RowEvent) (p p' : Progress) : Prop where
  state : p'.state = p.state
  requests : p'.requests = p.requests
  rowEvents : p'.rowEvents = p.rowEvents ++ es
  opened : p'.opened = p.opened
  closed : p'.closed = p.closed ++ rows.released es p
  isClosed : ∀ n, rows.cursor? = some n → p'.isClosed n = (p.isClosed n || es.contains .close)

variable {rows : OpenRows} {es es' : List RowEvent} {p p' p'' : Progress}

theorem released_of_cursor {n : Nat} (h : rows.cursor? = some n) :
    rows.released es p = if es.contains .close && !p.isClosed n then [n] else [] := by
  rw [released, h]

theorem released_of_no_cursor (h : rows.cursor? = none) : rows.released es p = [] := by
  rw [released, h]

namespace Follows

theorem nil (rows : OpenRows) (p : Progress) : rows.Follows [] p p where
  state := rfl
  requests := rfl
  rowEvents := (List.append_nil _).symm
  opened := rfl
  closed := by
    rw [released]
    split <;> simp
  isClosed n _ := by simp

theorem append (h : rows.Follows es p p') (h' : rows.Follows es' p' p'') :
    rows.Follows (es ++ es') p p'' where
  state := h'.state.trans h.state
  requests := h'.requests.trans h.requests
  rowEvents := by rw [h'.rowEvents, h.rowEvents, List.append_assoc]
  opened := h'.opened.trans h.opened
  closed := by
    rw [h'.closed, h.closed, List.append_assoc]
    congr 1
    cases hcursor : rows.cursor? with
    | none => simp only [released_of_no_cursor hcursor, List.append_nil]
    | some n =>
      simp only [released_of_cursor hcursor, h.isClosed n hcursor, List.contains_append]
      cases p.isClosed n <;> cases es.contains .close <;> cases es'.contains .close <;> rfl
  isClosed n hcursor := by
    rw [h'.isClosed n hcursor, h.isClosed n hcursor, Bool.or_assoc, List.contains_append]

/-- The cursor of rows that were not closed before is closed by the first time. -/
theorem closed_eq (h : rows.Follows es p p') {n : Nat} (hcursor : rows.cursor? = some n)
    (hopen : p.isClosed n = false) :
    p'.closed = p.closed ++ if .close ∈ es then [n] else [] := by
  rw [h.closed, released_of_cursor hcursor, hopen]
  simp

end Follows

/-- Rows of a cursor are closed: the cursor is closed with them unless they were closed before. -/
theorem exec_close {n : Nat} (h : rows.cursor? = some n) (p : Progress) :
    rows.close.exec p = (.ok (),
      if p.isClosed n then { p with events := p.events ++ [.rows .close] }
      else { p with
        events := p.events ++ [.rows .close] ++ [.cursorClosed n]
        isClosed := fun m => if m = n then true else p.isClosed m }) := by
  unfold close
  rw [Run.exec_bind, Run.exec_note, h]
  change (if p.isClosed n then pure () else do
    Run.mark n true
    Run.note (.cursorClosed n) : Run Unit).exec _ = _
  cases p.isClosed n <;> rfl

/-- What is only noted closes nothing. -/
theorem Follows.note {e : RowEvent} (hreleased : rows.released [e] p = [])
    (hclosed : ∀ n, rows.cursor? = some n → e = .close → p.isClosed n = true) :
    rows.Follows [e] p { p with events := p.events ++ [.rows e] } where
  state := rfl
  requests := List.filterMap_append.trans (List.append_nil _)
  rowEvents := List.filterMap_append
  opened := List.filterMap_append.trans (List.append_nil _)
  closed := by
    rw [hreleased]
    exact List.filterMap_append
  isClosed n hn := by
    cases e with
    | close => simp [hclosed n hn rfl]
    | _ => simp

/-- **One thing that happens to rows is one step.** -/
theorem exec_follow (rows : OpenRows) (e : RowEvent) (p : Progress) :
    ∃ p', (rows.follow e).exec p = (.ok (), p') ∧ rows.Follows [e] p p' := by
  cases e with
  | columns | pull | decode =>
    refine ⟨_, rfl, .note ?_ nofun⟩
    rw [released]
    split <;> rfl
  | close =>
    rw [follow]
    cases hcursor : rows.cursor? with
    | none =>
      refine ⟨_, ?_, .note (released_of_no_cursor hcursor) fun n hn => ?_⟩
      · unfold close
        rw [Run.exec_bind, Run.exec_note, hcursor]
        rfl
      · exact nomatch hcursor.symm.trans hn
    | some n =>
      refine ⟨_, exec_close hcursor p, ?_⟩
      cases hclosed : p.isClosed n with
      | true =>
        refine .note (by simp [released_of_cursor hcursor, hclosed]) fun m hm _ => ?_
        obtain rfl := Option.some.inj (hcursor.symm.trans hm)
        exact hclosed
      | false =>
        have hreleased : rows.released [.close] p = [n] := by
          simp [released_of_cursor hcursor, hclosed]
        rw [if_neg Bool.false_ne_true]
        refine ⟨rfl, ?_, ?_, ?_, ?_, fun m hm => ?_⟩
        · simp [Progress.requests, RunEvent.request?]
        · simp [Progress.rowEvents, RunEvent.row?]
        · simp [Progress.opened, RunEvent.opening?]
        · rw [hreleased]
          simp only [Progress.closed, List.filterMap_append, List.append_assoc]
          rfl
        · obtain rfl := Option.some.inj (hcursor.symm.trans hm)
          simp

/-- Whatever happens to rows, one thing after the other, they follow it. -/
theorem exec_forM_follow (rows : OpenRows) (es : List RowEvent) (p : Progress) :
    ∃ p', (es.forM rows.follow).exec p = (.ok (), p') ∧ rows.Follows es p p' := by
  induction es generalizing p with
  | nil => exact ⟨p, rfl, .nil rows p⟩
  | cons e es ih =>
    obtain ⟨p', hexec, hfollows⟩ := rows.exec_follow e p
    obtain ⟨p'', hexec', hfollows'⟩ := ih p'
    refine ⟨p'', ?_, hfollows.append hfollows'⟩
    rw [List.forM_eq_forM, List.forM_cons, Run.exec_bind, hexec]
    exact hexec'

/-- A scan gives through open rows what it gives by itself, and the rows follow it. -/
theorem exec_scan {α : Type} (rows : OpenRows) (scan : RowSource → Scan α) (p : Progress) :
    ∃ p', (rows.scan scan).exec p = (((scan rows.source).exec []).1, p') ∧
      rows.Follows ((scan rows.source).exec []).2 p p' := by
  obtain ⟨p', hexec, hfollows⟩ := rows.exec_forM_follow ((scan rows.source).exec []).2 p
  refine ⟨p', ?_, hfollows⟩
  change (((scan rows.source).exec []).2.forM rows.follow >>= fun _ =>
    liftM ((scan rows.source).exec []).1).exec p = _
  rw [Run.exec_bind, hexec]
  rfl

/-- Rows that are closed a number of times follow that. -/
theorem exec_closeTimes (rows : OpenRows) (times : Nat) (p : Progress) :
    ∃ p', (rows.closeTimes times).exec p = (.ok (), p') ∧
      rows.Follows (List.replicate times .close) p p' := by
  induction times generalizing p with
  | zero => exact ⟨p, rfl, .nil rows p⟩
  | succ times ih =>
    obtain ⟨p', hexec, hfollows⟩ := rows.exec_follow .close p
    obtain ⟨p'', hexec', hfollows'⟩ := ih p'
    refine ⟨p'', ?_, hfollows.append hfollows'⟩
    rw [follow] at hexec
    rw [closeTimes, Run.exec_bind, hexec]
    exact hexec'

end OpenRows

/-! ## Scanners -/

/-- The scanner that decodes rows as `D` says. -/
def Scanner.of {δ : Type} (D : Option Class → Decoder δ) : Scanner OpenRows δ where
  all schema rows := rows.scan (D schema).all
  one schema rows := rows.scan (D schema).one

/-- The scanner of a driver that was given none. -/
theorem Scanner.schema_eq_of : schema = of (Decoder.ofSchema .all) := by
  unfold schema of
  simp only [Decoder.all_ofSchema, Decoder.one_ofSchema]

end NamedSql
