import NamedSql.Proofs.Run.Outcome

/-!
# Cursors are closed

Over a cursor channel every request opens a cursor. Until the statement is executed the cursor
belongs to the querier, after that to the rows that it hands out. These remember whether they were
closed, and the scanner closes them when it has read them, whether reading succeeds or fails.

There is one gap. A querier that is asked for rows closes its cursor when the execution fails, but
not when it is interrupted; a querier that is asked for a count closes it in any case.

**Theorem (`cursors_closed`).** Whatever the database does, with this exception each operation
closes the cursor that it opens, once, and rows that are handed out close their cursor once however
often they are closed and whatever else is done with them.
-/

namespace NamedSql

/-! ## Cursors of a channel -/

namespace Channel

theorem exec_send (reply : Reply) (c : Call) (p : Progress) :
    (send reply c).exec p =
      (match reply.failure? c with
        | some e => .error e
        | none => .ok (),
        { p with events := p.events ++ [.call c] }) := by
  unfold send
  rw [Run.exec_bind, Run.exec_note]
  cases reply.failure? c <;> rfl

theorem exec_affected (reply : Reply) (unknown : Int) (p : Progress) :
    ∃ r, (affected reply unknown).exec p = (r, p) := by
  unfold affected
  cases reply.affected with
  | ok n => exact ⟨_, rfl⟩
  | error e => exact ⟨_, rfl⟩

/-- A cursor that is opened for rows is left open if the statement is executed, and if the execution
is interrupted. -/
theorem exec_queryCursor (reply : Reply) (b : Bound) (p : Progress) :
    (queryCursor reply b).exec p =
      match reply.failure? (.execute b.sql b.parameters) with
      | none => (.ok ⟨reply.source, some p.cursors⟩, { p with
          events := p.events ++ [.cursorOpened p.cursors] ++ [.call (.execute b.sql b.parameters)]
          cursors := p.cursors + 1
          isClosed := fun m => if m = p.cursors then false else p.isClosed m })
      | some e => (.error e, { p with
          events := p.events ++ [.cursorOpened p.cursors] ++
            [.call (.execute b.sql b.parameters)] ++
              if e.isInterrupt then [] else [.cursorClosed p.cursors]
          cursors := p.cursors + 1 }) := by
  unfold queryCursor
  rw [Run.exec_bind]
  change (tryCatch (send reply (.execute b.sql b.parameters)) _ >>= _).exec { p with
    events := p.events ++ [.cursorOpened p.cursors], cursors := p.cursors + 1 } = _
  rw [Run.exec_bind, Run.exec_tryCatch, exec_send]
  cases reply.failure? (.execute b.sql b.parameters) with
  | none => rfl
  | some e =>
    dsimp only
    cases e.isInterrupt with
    | true =>
      simp only [if_true, List.append_nil]
      rfl
    | false => rfl

/-- A cursor that is opened for a count is closed in any case. -/
theorem exec_executeCursor (reply : Reply) (b : Bound) (p : Progress) :
    ∃ r, (executeCursor reply b).exec p = (r, { p with
      events := p.events ++ [.cursorOpened p.cursors] ++ [.call (.execute b.sql b.parameters)] ++
        [.cursorClosed p.cursors]
      cursors := p.cursors + 1 }) := by
  let opened : Progress := { p with
    events := p.events ++ [.cursorOpened p.cursors], cursors := p.cursors + 1 }
  have hstep : ∃ r, (do
      send reply (.execute b.sql b.parameters)
      return max (← affected reply (-1)) 0 : Run Int).exec opened =
        (r, { opened with events := opened.events ++ [.call (.execute b.sql b.parameters)] }) := by
    rw [Run.exec_bind, exec_send]
    cases reply.failure? (.execute b.sql b.parameters) with
    | some e => exact ⟨_, rfl⟩
    | none =>
      obtain ⟨r, hr⟩ := exec_affected reply (-1)
        { opened with events := opened.events ++ [.call (.execute b.sql b.parameters)] }
      dsimp only
      rw [Run.exec_bind, hr]
      cases r with
      | ok n => exact ⟨_, rfl⟩
      | error e => exact ⟨_, rfl⟩
  obtain ⟨r, hr⟩ := hstep
  exact ⟨r, Run.exec_ensuring hr rfl⟩

end Channel

/-! ## What is opened and closed -/

/-- The execution of a statement that is asked for is interrupted. -/
def Reply.Interrupts (reply : Reply) (asked : List (Operation × Bound)) : Prop :=
  ∃ a ∈ asked, ∃ e, reply.failure? (.execute a.2.sql a.2.parameters) = some e ∧
    e.isInterrupt = true

/-- The cursors of what is asked, as they are numbered from `p` on. -/
def Progress.next (p : Progress) (asked : List (Operation × Bound)) : List Nat :=
  List.range' p.cursors asked.length

/-- From `p` to `p'` a cursor is opened for each request, and each of them is closed once unless the
execution is interrupted. -/
structure Closes (reply : Reply) (asked : List (Operation × Bound)) (p p' : Progress) : Prop where
  opened : p'.opened = p.opened ++ p.next asked
  closed : ¬reply.Interrupts asked → p'.closed = p.closed ++ p.next asked
  leaked : reply.Interrupts asked → p'.closed = p.closed

/-- The rows `rows` have the next cursor of `p`, which is open in `p'`. -/
structure HandsOver (p p' : Progress) (rows : OpenRows) : Prop where
  cursor : rows.cursor? = some p.cursors
  opened : p'.opened = p.opened ++ [p.cursors]
  closed : p'.closed = p.closed
  isClosed : p'.isClosed p.cursors = false

section

variable {reply : Reply} {operation : Operation} {statement : Statement} {x : Source} {b : Bound}
  {p p₁ p' p'' : Progress} {rows : OpenRows} {asked : List (Operation × Bound)}

/-- Asking neither opens nor closes anything yet. -/
theorem Asks.untouched (h : Asks operation statement x p b p₁) :
    p₁.opened = p.opened ∧ p₁.closed = p.closed ∧ p₁.cursors = p.cursors := by
  obtain ⟨-, -⟩ := h
  unfold Progress.opened Progress.closed
  rw [List.filterMap_append, List.filterMap_append]
  exact ⟨List.append_nil _, List.append_nil _, rfl⟩

theorem HandsOver.of_asks (h : HandsOver p₁ p' rows) (hasks : Asks operation statement x p b p₁) :
    HandsOver p p' rows := by
  obtain ⟨hopened, hclosed, hcursors⟩ := hasks.untouched
  exact ⟨hcursors ▸ h.cursor, hcursors ▸ hopened ▸ h.opened, hclosed ▸ h.closed,
    hcursors ▸ h.isClosed⟩

theorem Closes.of_asks (h : Closes reply asked p₁ p') (hasks : Asks operation statement x p b p₁) :
    Closes reply asked p p' := by
  obtain ⟨hopened, hclosed, hcursors⟩ := hasks.untouched
  have hnext : p₁.next asked = p.next asked := by rw [Progress.next, hcursors, Progress.next]
  exact ⟨hnext ▸ hopened ▸ h.opened, hnext ▸ hclosed ▸ h.closed, hclosed ▸ h.leaked⟩

theorem Closes.nothing (reply : Reply) (p : Progress) (s : State) :
    Closes reply [] p { p with state := s } where
  opened := (List.append_nil _).symm
  closed _ := (List.append_nil _).symm
  leaked _ := rfl

/-- A statement that is executed has its cursor handed over to its rows. -/
theorem HandsOver.of_queryCursor (h : (Channel.queryCursor reply b).exec p = (.ok rows, p')) :
    HandsOver p p' rows ∧ reply.failure? (.execute b.sql b.parameters) = none := by
  rw [Channel.exec_queryCursor] at h
  split at h
  · next hnone =>
    obtain ⟨hrows, rfl⟩ := Prod.mk.inj h
    obtain rfl := Except.ok.inj hrows
    refine ⟨⟨rfl, ?_, ?_, if_pos rfl⟩, hnone⟩
    · simp [Progress.opened, RunEvent.opening?]
    · simp [Progress.closed, RunEvent.closing?]
  · obtain ⟨hrows, -⟩ := Prod.mk.inj h
    contradiction

/-- A request that fails closes its cursor unless it is interrupted, whatever is reported. -/
theorem Closes.refused {e : Failure} (h : (Channel.queryCursor reply b).exec p = (.error e, p'))
    (s : State) : Closes reply [(operation, b)] p { p' with state := s } := by
  rw [Channel.exec_queryCursor] at h
  split at h
  · obtain ⟨herror, -⟩ := Prod.mk.inj h
    contradiction
  · next e' hsome =>
    obtain ⟨-, rfl⟩ := Prod.mk.inj h
    refine ⟨?_, fun hcalm => ?_, fun hinterrupts => ?_⟩
    · cases e'.isInterrupt <;> simp [Progress.opened, Progress.next, RunEvent.opening?]
    · have hother : e'.isInterrupt = false := by
        rw [Bool.eq_false_iff]
        exact fun hinterrupt => hcalm ⟨_, List.mem_singleton_self _, e', hsome, hinterrupt⟩
      simp [hother, Progress.closed, Progress.next, List.filterMap_cons, RunEvent.closing?]
    · obtain ⟨a, ha, e, he, hinterrupt⟩ := hinterrupts
      obtain rfl := List.mem_singleton.mp ha
      obtain rfl := Option.some.inj (hsome.symm.trans he)
      simp [hinterrupt, Progress.closed, RunEvent.closing?]

/-- Rows whose cursor is handed over close it if they are closed. -/
theorem HandsOver.closed_eq {es : List RowEvent} (h : HandsOver p p' rows)
    (hfollows : rows.Follows es p' p'') : p''.opened = p'.opened ∧
      p''.closed = p'.closed ++ if .close ∈ es then [p.cursors] else [] :=
  ⟨hfollows.opened, hfollows.closed_eq h.cursor h.isClosed⟩

/-- The rows of a request are closed by the scan that reads them. -/
theorem Closes.read {es : List RowEvent}
    (h : (Channel.queryCursor reply b).exec p = (.ok rows, p'))
    (hfollows : rows.Follows es p' p'') (hclose : .close ∈ es) :
    Closes reply [(operation, b)] p p'' := by
  obtain ⟨hhands, hnone⟩ := HandsOver.of_queryCursor h
  obtain ⟨hopened, hclosed⟩ := hhands.closed_eq hfollows
  refine ⟨hopened.trans hhands.opened, fun _ => ?_, fun hinterrupts => ?_⟩
  · rw [hclosed, hhands.closed, if_pos hclose]
    rfl
  · obtain ⟨a, ha, e, he, -⟩ := hinterrupts
    obtain rfl := List.mem_singleton.mp ha
    exact nomatch hnone.symm.trans he

end

/-! ## Scans -/

/-- However it comes out, `m` closes the source that it reads. -/
def Scan.ClosesSource {α : Type} (m : Scan α) : Prop := .close ∈ (m.exec []).2

namespace Decoder

variable {δ : Type} (D : Decoder δ) (src : RowSource)

theorem closesSource_all : (D.all src).ClosesSource := by
  obtain ⟨n, hdoes⟩ := D.does_all src
  rw [Scan.ClosesSource, hdoes]
  simp

theorem closesSource_one : (D.one src).ClosesSource := by
  obtain ⟨n, hdoes⟩ := D.does_one src
  rw [Scan.ClosesSource, hdoes]
  simp

end Decoder

/-- Rows that are closed behind a scan were closed by the scan. -/
theorem HandsOver.closed_of_scan {α : Type} {p p' : Progress} {rows : OpenRows}
    (h : HandsOver p p' rows) {scan : RowSource → Scan α} (hscan : (scan rows.source).ClosesSource)
    (times : Nat) :
    ((rows.closeTimes times).exec ((rows.scan scan).exec p').2).2.closed =
      p'.closed ++ [p.cursors] := by
  obtain ⟨p₂, hexec, hfollows⟩ := rows.exec_scan scan p'
  obtain ⟨p₃, hexec', hfollows'⟩ := rows.exec_closeTimes times p₂
  simp only [hexec, hexec']
  rw [(h.closed_eq (hfollows.append hfollows')).2, if_pos (List.mem_append_left _ hscan)]

/-! ## Operations -/

/-- The driver over a cursor to a database that decodes rows in some way, and takes some faults to
mean that there are no rows. -/
def Driver.ofCursor {δ : Type} (isNoRows : FaultKind → Bool) (reply : Reply)
    (D : Option Class → Decoder δ) : NamedDriver OpenRows δ :=
  ⟨.sync, ⟨isNoRows, Channel.queryCursor reply, Channel.executeCursor reply⟩, .of D⟩

namespace Driver

theorem ofChannel_cursor (reply : Reply) : ofChannel .cursor reply =
    ofCursor (Channel.isNoRows .cursor) reply (Decoder.ofSchema .all) := by
  unfold ofChannel ofCursor
  rw [Scanner.schema_eq_of]
  rfl

variable {δ : Type} (isNoRows : FaultKind → Bool) (reply : Reply) (D : Option Class → Decoder δ)
  (statement : Statement) (x : Source) (schema : Option Class)

theorem select_ofCursor : (ofCursor isNoRows reply D).select statement x schema =
    perform isNoRows .query (Channel.queryCursor reply) (·.scan (D schema).all) statement x := rfl

theorem get_ofCursor : (ofCursor isNoRows reply D).get statement x schema =
    perform isNoRows .query (Channel.queryCursor reply) (·.scan (D schema).one) statement x := rfl

end Driver

section

variable {mode : Mode} {isNoRows : FaultKind → Bool} {reply : Reply} {statement : Statement}
  {x : Source} {p p' : Progress} {asked : List (Operation × Bound)}

theorem Outcome.closes {β : Type} {scan : RowSource → Scan β} {r : Except Failure β}
    (h : Outcome mode isNoRows .query (Channel.queryCursor reply) (·.scan scan) statement x p asked
      r p') (hscan : ∀ src, (scan src).ClosesSource) : Closes reply asked p p' := by
  cases h with
  | unbound => exact .nothing reply p _
  | refused hasks hask => exact (Closes.refused hask _).of_asks hasks
  | @unread _ _ p₂ _ rows _ hasks hask hreads | @done _ _ p₂ _ rows _ hasks hask hreads =>
    obtain ⟨p₃, hexec, hfollows⟩ := rows.exec_scan scan p₂
    obtain ⟨-, rfl⟩ := Prod.mk.inj (hexec.symm.trans hreads)
    exact (Closes.read hask hfollows (hscan rows.source)).of_asks hasks

/-- Rows that are not handed out have their cursor closed. -/
theorem Outcome.closes_of_error {e : Failure}
    (h : Outcome mode isNoRows .query (Channel.queryCursor reply) pure statement x p asked
      (.error e) p') : Closes reply asked p p' := by
  cases h with
  | unbound => exact .nothing reply p _
  | refused hasks hask => exact (Closes.refused hask _).of_asks hasks
  | unread _ _ hreads => nomatch hreads

/-- Rows that are handed out have their cursor handed over to them. -/
theorem Outcome.handsOver {rows : OpenRows}
    (h : Outcome mode isNoRows .query (Channel.queryCursor reply) pure statement x p asked
      (.ok rows) p') : HandsOver p p' rows := by
  cases h with
  | done hasks hask hreads =>
    obtain ⟨hrows, rfl⟩ := Prod.mk.inj hreads
    obtain rfl := Except.ok.inj hrows
    exact (HandsOver.of_queryCursor hask).1.of_asks hasks

/-- What is written has its cursor opened and closed. -/
theorem Outcome.closes_of_exec {r : Except Failure Int}
    (h : Outcome mode isNoRows .exec (Channel.executeCursor reply) pure statement x p asked r p') :
    p'.opened = p.opened ++ p.next asked ∧ p'.closed = p.closed ++ p.next asked := by
  have hasked {b : Bound} {p₁ p₂ : Progress} {r : Except Failure Int}
      (hasks : Asks .exec statement x p b p₁)
      (hexec : (Channel.executeCursor reply b).exec p₁ = (r, p₂)) :
      p₂.opened = p.opened ++ [p.cursors] ∧ p₂.closed = p.closed ++ [p.cursors] := by
    obtain ⟨hopened, hclosed, hcursors⟩ := hasks.untouched
    obtain ⟨r', hr'⟩ := Channel.exec_executeCursor reply b p₁
    obtain ⟨-, rfl⟩ := Prod.mk.inj (hr'.symm.trans hexec)
    rw [← hopened, ← hclosed, ← hcursors]
    constructor
    · simp [Progress.opened, RunEvent.opening?]
    · simp [Progress.closed, List.filterMap_cons, RunEvent.closing?]
  cases h with
  | unbound => exact ⟨(List.append_nil _).symm, (List.append_nil _).symm⟩
  | refused hasks hexec =>
    -- Guarding appends to the log of the session, and to nothing else.
    have h := hasked hasks hexec
    exact h
  | unread hasks hexec hreads =>
    obtain ⟨herror, -⟩ := Prod.mk.inj hreads
    contradiction
  | done hasks hexec hreads =>
    obtain ⟨-, rfl⟩ := Prod.mk.inj hreads
    exact hasked hasks hexec

end

/-- **Cursors are closed once.** Let a driver over cursors take any faults to mean that there are no
rows, and decode rows in any way, which may fail as it likes; the driver of a cursor channel is one
of these. Whatever the database does, reading all rows or the only row opens a cursor for what is
asked and closes it once, whether the operation succeeds or fails, unless the execution of the
statement is interrupted, and then it is left open. A writing operation closes its cursor in any
case. Rows that are handed out have an open cursor. It is closed once if the rows are closed at all,
whatever is done with them and in which order: however often they are closed, and also if they are
closed behind a scan, which has closed them already. -/
theorem cursors_closed {δ : Type} (isNoRows : FaultKind → Bool) (reply : Reply)
    (D : Option Class → Decoder δ) (statement : Statement) (x : Source) (p : Progress) :
    let d := Driver.ofCursor isNoRows reply D
    let reads := Driver.asks .query statement x p
    let writes := Driver.asks .exec statement x p
    let written := ((d.exec statement x).exec p).2
    Driver.ofChannel .cursor reply =
      Driver.ofCursor (Channel.isNoRows .cursor) reply (Decoder.ofSchema .all) ∧
    (∀ schema, Closes reply reads p ((d.select statement x schema).exec p).2) ∧
    (∀ schema, Closes reply reads p ((d.get statement x schema).exec p).2) ∧
    (written.opened = p.opened ++ p.next writes ∧ written.closed = p.closed ++ p.next writes) ∧
    (∀ e p', (d.query statement x).exec p = (.error e, p') → Closes reply reads p p') ∧
    ∀ rows p', (d.query statement x).exec p = (.ok rows, p') →
      HandsOver p p' rows ∧
      (∀ es,
        let p'' := ((List.forM es rows.follow).exec p').2
        p''.opened = p'.opened ∧
          p''.closed = p'.closed ++ if .close ∈ es then [p.cursors] else []) ∧
      (∀ times,
        let p'' := ((rows.closeTimes times).exec p').2
        p''.opened = p'.opened ∧
          p''.closed = p'.closed ++ if times = 0 then [] else [p.cursors]) ∧
      ∀ schema times,
        let scanned := ((d.scanner.all schema rows).exec p').2
        let scannedOne := ((d.scanner.one schema rows).exec p').2
        ((rows.closeTimes times).exec scanned).2.closed = p'.closed ++ [p.cursors] ∧
        ((rows.closeTimes times).exec scannedOne).2.closed = p'.closed ++ [p.cursors] := by
  intro d reads writes written
  have hreads {β : Type} {m : Run β} {scan : RowSource → Scan β}
      (hm : m = Driver.perform isNoRows .query (Channel.queryCursor reply) (·.scan scan)
        statement x)
      (hscan : ∀ src, (scan src).ClosesSource) : Closes reply reads p (m.exec p).2 := by
    subst hm
    exact (outcome_exec .sync isNoRows .query (Channel.queryCursor reply) (·.scan scan) statement x
      p).closes hscan
  have hquery {r : Except Failure OpenRows} {p' : Progress}
      (h : (d.query statement x).exec p = (r, p')) :
      Outcome .sync isNoRows .query (Channel.queryCursor reply) pure statement x p reads r p' := by
    obtain ⟨rfl, rfl⟩ := Prod.ext_iff.mp h
    exact outcome_exec .sync isNoRows .query (Channel.queryCursor reply) pure statement x p
  refine ⟨Driver.ofChannel_cursor reply, fun schema => ?_, fun schema => ?_, ?_,
    fun e p' h => ?_, fun rows p' h => ?_⟩
  · exact hreads (Driver.select_ofCursor ..) (D schema).closesSource_all
  · exact hreads (Driver.get_ofCursor ..) (D schema).closesSource_one
  · exact (outcome_exec .sync isNoRows .exec (Channel.executeCursor reply) pure statement x
      p).closes_of_exec
  · exact (hquery h).closes_of_error
  · have hhands := (hquery h).handsOver
    refine ⟨hhands, fun es => ?_, fun times => ?_, fun schema times => ⟨?_, ?_⟩⟩
    · obtain ⟨p'', hexec, hfollows⟩ := rows.exec_forM_follow es p'
      simp only [hexec]
      exact hhands.closed_eq hfollows
    · obtain ⟨p'', hexec, hfollows⟩ := rows.exec_closeTimes times p'
      simp only [hexec]
      refine ⟨hfollows.opened, (hhands.closed_eq hfollows).2.trans ?_⟩
      cases times <;> simp
    · exact hhands.closed_of_scan ((D schema).closesSource_all rows.source) times
    · exact hhands.closed_of_scan ((D schema).closesSource_one rows.source) times

/-- The rows of an executed statement are read, and reading is interrupted. Handed out instead, they
are closed three times. -/
theorem cursors_closed_interrupted_read :
    let interrupt : Failure := .ofKind .interrupt
    let reply : Reply := ⟨fun _ => none, .ok [['a']], [[.int 1]], some interrupt, .ok none, []⟩
    let d := Driver.ofCursor (Channel.isNoRows .cursor) reply (Decoder.ofSchema .all)
    let statement : Statement :=
      .prepared ⟨⟨[':', 'a'], [.placeholder ['a'] 0 1 [':', 'a']]⟩, .default, false⟩
    let x : Source := .mapping (.mappingNamed ['m']) [(['a'], .int 7)]
    let p : Progress := .initial (.initial .default)
    (∃ p', (d.select statement x none).exec p = (.error interrupt, p') ∧
      p'.opened = [0] ∧ p'.closed = [0]) ∧
    ∃ rows p', (d.query statement x).exec p = (.ok rows, p') ∧ p'.opened = [0] ∧ p'.closed = [] ∧
      ((rows.closeTimes 3).exec p').2.closed = [0] := by
  intro interrupt reply d statement x p
  obtain ⟨-, hselect, -, -, -, hquery⟩ := cursors_closed (Channel.isNoRows .cursor) reply
    (Decoder.ofSchema .all) statement x p
  have hcalm : ¬reply.Interrupts (Driver.asks .query statement x p) := by
    rintro ⟨a, -, e, he, -⟩
    contradiction
  obtain ⟨hhands, -, htimes, -⟩ := hquery _ _ rfl
  refine ⟨⟨_, rfl, (hselect none).opened, (hselect none).closed hcalm⟩, _, _, rfl, ?_, ?_, ?_⟩
  · exact hhands.opened
  · exact hhands.closed
  · exact (htimes 3).2

/-- The execution of a statement is interrupted, and the cursor is left open. -/
theorem interrupted_execution_leaks :
    let interrupt : Failure := .ofKind .interrupt
    let reply : Reply := ⟨fun _ => some interrupt, .ok [], [], none, .ok none, []⟩
    let statement : Statement :=
      .prepared ⟨⟨[':', 'a'], [.placeholder ['a'] 0 1 [':', 'a']]⟩, .default, false⟩
    let x : Source := .mapping (.mappingNamed ['m']) [(['a'], .int 7)]
    ∃ p, ((Driver.ofChannel .cursor reply).select statement x none).exec
        (.initial (.initial .default)) = (.error interrupt, p) ∧ p.opened = [0] ∧ p.closed = [] :=
  ⟨_, rfl, rfl, rfl⟩

end NamedSql
