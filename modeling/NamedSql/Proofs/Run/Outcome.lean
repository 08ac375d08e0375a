import NamedSql.Proofs.Run.Following
import NamedSql.Proofs.Session.Agreement
import NamedSql.Proofs.Session.Resolution

/-!
# How the operations of a driver come out

An operation binds a statement, asks the querier to run it, and reads the answer. Each of these
stages can fail, and only the failures of the querier are translated (`Leaves`). What is raised in
the other stages leaves the operation as it is. Of an operation that awaits its querier there is one
exception: the sign that an iteration has ended cannot leave a coroutine (`Mode.leaving`). What is
translated never is this sign (`Leaves.leaving_eq`), so the querier's failures leave both kinds of
operation alike.

**Outcomes** (`Outcome`). A statement that cannot be bound, a querier that fails, an answer that
cannot be read, and a result. The outcome says what left, what the querier was asked and what the
stages left behind.

**Theorem (`driver_outcome`).** Each of the four operations of every driver has exactly these
outcomes, whatever its querier and its scanner do. When these two ask no querier themselves, the
querier is asked once if the statement can be bound, and not at all otherwise.
-/

namespace NamedSql

theorem Run.exec_ofSession {α : Type} (m : Session α) (p : Progress) :
    (ofSession m).exec p =
      ((m.exec p.state).1, { p with state := (m.exec p.state).2 }) := rfl

/-! ## What is sent -/

/-- What is sent for a statement and a source in a state: the compiled text, and the value of every
marker in order. -/
inductive Sends (x : Source) (s : State) : Statement → Bound → Prop
  | text {sql : Text} {q : Compiled} {values : List Value} :
      compile s.config.delimiter s.config.style sql = .ok q →
      ((Session.resolve s.config.resolver false q.names sql x).exec s).1 = .ok values →
      values.length = q.names.length → Sends x s (.text sql) ⟨q.sql, values⟩
  | prepared {p : Prepared} {values : List Value} :
      ((Session.resolve p.config.resolver p.isolated p.names p.rawSql x).exec s).1 =
        .ok values →
      values.length = p.names.length → Sends x s (.prepared p) ⟨p.compiled.sql, values⟩

namespace Session

theorem bind_eq_ok {p : Prepared} {x : Source} {s : State} {b : Bound}
    (h : ((bind p x).exec s).1 = .ok b) : ∃ values,
      ((resolve p.config.resolver p.isolated p.names p.rawSql x).exec s).1 = .ok values ∧
        b = ⟨p.compiled.sql, values⟩ := by
  rw [bind_fst] at h
  cases hvalues : ((resolve p.config.resolver p.isolated p.names p.rawSql x).exec s).1 with
  | error f =>
    rw [hvalues] at h
    contradiction
  | ok values =>
    rw [hvalues] at h
    exact ⟨values, rfl, (Except.ok.inj h).symm⟩

theorem scan_of_bindText_eq_ok {sql : Text} {x : Source} {s : State} {b : Bound}
    (h : ((bindText sql x).exec s).1 = .ok b) : ∃ q, scan s.config.delimiter sql = .ok q := by
  cases hscan : scan s.config.delimiter sql with
  | ok q => exact ⟨q, rfl⟩
  | error e =>
    unfold bindText compile at h
    simp [exec_bind, exec_scanned_error hscan] at h

end Session

theorem Sends.of_bind {statement : Statement} {x : Source} {p p' : Progress} {b : Bound}
    (h : (Driver.bind statement x).exec p = (.ok b, p')) : Sends x p.state statement b := by
  have hfst := congrArg Prod.fst h
  unfold Driver.bind at hfst
  rw [Run.exec_ofSession] at hfst
  cases statement with
  | text sql =>
    obtain ⟨q, hq⟩ := Session.scan_of_bindText_eq_ok hfst
    have hprepares : Session.Prepares p.state.config sql ⟨q, p.state.config, false⟩ := ⟨q, hq, rfl⟩
    obtain ⟨values, hvalues, rfl⟩ := Session.bind_eq_ok ((hprepares.bind_eq x).trans hfst)
    rw [hprepares.rawSql_eq] at hvalues
    refine .text (congrArg _ hq) hvalues ?_
    exact Session.length_of_resolve hvalues
  | prepared q =>
    obtain ⟨values, hvalues, rfl⟩ := Session.bind_eq_ok hfst
    exact .prepared hvalues (Session.length_of_resolve hvalues)

/-! ## What leaves -/

/-- What leaves for a failure of the querier: an error of this library itself, the error that there
is no row if the querier says so of its fault, a failed execution for any other fault, and an
interruption itself. -/
inductive Leaves (isNoRows : FaultKind → Bool) (operation : Operation) (sql : Text) :
    Failure → Failure → Prop
  | own (e : Error) : Leaves isNoRows operation sql (.error e) (.error e)
  | noRow {e : Failure} {f : Fault} : e.fault? = some f → isNoRows f.kind = true →
      Leaves isNoRows operation sql e (.error (.noRow (some f)))
  | failed {e : Failure} {f : Fault} : e.fault? = some f → isNoRows f.kind = false →
      f.kind.isInterrupt = false →
      Leaves isNoRows operation sql e (.error (.failedExecution operation sql f))
  | interrupt {e : Failure} {f : Fault} : e.fault? = some f → isNoRows f.kind = false →
      f.kind.isInterrupt = true → Leaves isNoRows operation sql e e

/-- An interruption is no sign that an iteration has ended. -/
theorem Failure.isExhaustion_of_isInterrupt {e : Failure} {f : Fault} (h : e.fault? = some f)
    (hinterrupt : f.kind.isInterrupt = true) : e.isExhaustion = false := by
  cases e with
  | fault f' =>
    obtain rfl := Option.some.inj h
    have hsort : f'.kind.sort = .interrupt := of_decide_eq_true hinterrupt
    simp [isExhaustion, FaultKind.isExhaustion, hsort]
  | _ => rfl

/-- Everything leaves an operation as it is, but for one thing in an operation that awaits. -/
theorem Mode.leaving_eq (mode : Mode) (e : Failure) :
    mode.leaving e = if mode = .async ∧ e.isExhaustion
      then .fault ⟨.runtime, some Frame.coroutine.message⟩ else e := by
  cases mode with
  | sync => simp only [leaving, reduceCtorEq, false_and, if_false]
  | async => simp only [leaving, Failure.outOf, true_and]

/-- What the querier's failures are translated to leaves every operation as it is. -/
theorem Leaves.leaving_eq {isNoRows : FaultKind → Bool} {operation : Operation} {sql : Text}
    {e e' : Failure} (h : Leaves isNoRows operation sql e e') (mode : Mode) :
    mode.leaving e' = e' := by
  have hother : e'.isExhaustion = false := by
    cases h with
    | interrupt hf _ hinterrupt => exact Failure.isExhaustion_of_isInterrupt hf hinterrupt
    | _ => rfl
  rw [mode.leaving_eq, if_neg]
  simp [hother]

namespace Driver

variable {α : Type} (isNoRows : FaultKind → Bool) (operation : Operation) (sql : Text)
  {step : Run α} {p p' : Progress}

theorem exec_guarded_ok {a : α} (h : step.exec p = (.ok a, p')) :
    (guarded isNoRows operation sql step).exec p = (.ok a, p') := by
  unfold guarded
  rw [Run.exec_tryCatch, h]

/-- A failure is translated, and beside it something may be reported. -/
theorem exec_guarded_error {e : Failure} (h : step.exec p = (.error e, p')) :
    ∃ e' events, Leaves isNoRows operation sql e e' ∧
      (guarded isNoRows operation sql step).exec p =
        (.error e', { p' with state := { p'.state with events } }) := by
  unfold guarded
  rw [Run.exec_tryCatch, h]
  dsimp only
  cases hf : e.fault? with
  | none =>
    cases e with
    | error e => exact ⟨_, _, .own e, rfl⟩
    | _ => contradiction
  | some f =>
    dsimp only
    split
    · next hrows => exact ⟨_, _, .noRow hf hrows, rfl⟩
    · next hrows =>
      rw [Bool.not_eq_true] at hrows
      split
      · next hinterrupt => exact ⟨_, _, .interrupt hf hrows hinterrupt, rfl⟩
      · next hinterrupt =>
        rw [Bool.not_eq_true] at hinterrupt
        exact ⟨_, _, .failed hf hrows hinterrupt, rfl⟩

end Driver

/-! ## Outcomes -/

/-- A statement was bound, and now the querier is asked to run it. -/
inductive Asks (operation : Operation) (statement : Statement) (x : Source) (p : Progress) :
    Bound → Progress → Prop
  | intro {b : Bound} {s : State} :
      (Driver.bind statement x).exec p = (.ok b, { p with state := s }) →
      Sends x p.state statement b →
      Asks operation statement x p b
        { p with state := s, events := p.events ++ [.request operation b] }

/-- The outcomes of an operation that asks and then reads: what the querier is asked, what leaves,
and the progress that is left. -/
inductive Outcome {α β : Type} (mode : Mode) (isNoRows : FaultKind → Bool)
    (operation : Operation) (ask : Bound → Run α) (read : α → Run β) (statement : Statement)
    (x : Source) (p : Progress) :
    List (Operation × Bound) → Except Failure β → Progress → Prop
  | unbound {e : Failure} {s : State} :
      (Driver.bind statement x).exec p = (.error e, { p with state := s }) →
      Outcome mode isNoRows operation ask read statement x p [] (.error (mode.leaving e))
        { p with state := s }
  | refused {b : Bound} {p₁ p₂ : Progress} {e e' : Failure} {events : List LogEvent} :
      Asks operation statement x p b p₁ → (ask b).exec p₁ = (.error e, p₂) →
      Leaves isNoRows operation b.sql e e' →
      Outcome mode isNoRows operation ask read statement x p [(operation, b)] (.error e')
        { p₂ with state := { p₂.state with events } }
  | unread {b : Bound} {p₁ p₂ p₃ : Progress} {a : α} {e : Failure} :
      Asks operation statement x p b p₁ → (ask b).exec p₁ = (.ok a, p₂) →
      (read a).exec p₂ = (.error e, p₃) →
      Outcome mode isNoRows operation ask read statement x p [(operation, b)]
        (.error (mode.leaving e)) p₃
  | done {b : Bound} {p₁ p₂ p₃ : Progress} {a : α} {r : β} :
      Asks operation statement x p b p₁ → (ask b).exec p₁ = (.ok a, p₂) →
      (read a).exec p₂ = (.ok r, p₃) →
      Outcome mode isNoRows operation ask read statement x p [(operation, b)] (.ok r) p₃

/-- Binding leaves no trace outside the session. -/
theorem Driver.exec_bind_eq (statement : Statement) (x : Source) (p : Progress) :
    ∃ r s, (bind statement x).exec p = (r, { p with state := s }) := ⟨_, _, rfl⟩

/-- Asking is noted as a request, and then the querier does as it likes. -/
theorem exec_request {α : Type} (operation : Operation) (b : Bound) (m : Run α) (p : Progress) :
    (do
      Run.note (.request operation b)
      m).exec p = m.exec { p with events := p.events ++ [.request operation b] } := by
  rw [Run.exec_bind, Run.exec_note]

theorem operation_outcome {α β : Type} (mode : Mode) (isNoRows : FaultKind → Bool)
    (operation : Operation) (ask : Bound → Run α) (read : α → Run β) (statement : Statement)
    (x : Source) (p : Progress) :
    let m := mode.run (Driver.perform isNoRows operation ask read statement x)
    ∃ asked, Outcome mode isNoRows operation ask read statement x p asked (m.exec p).1
      (m.exec p).2 := by
  intro m
  rw [Mode.exec_run]
  unfold Driver.perform
  obtain ⟨r, s, hbind⟩ := Driver.exec_bind_eq statement x p
  rw [Run.exec_bind, hbind]
  cases r with
  | error e => exact ⟨_, .unbound hbind⟩
  | ok b =>
    have hasks : Asks operation statement x p b _ := .intro hbind (.of_bind hbind)
    have hrequest := exec_request operation b (ask b) { p with state := s }
    dsimp only at hrequest ⊢
    rw [Run.exec_bind]
    rcases hask : (ask b).exec { p with state := s, events := p.events ++ [.request operation b] }
      with ⟨e | a, p₂⟩ <;> rw [hask] at hrequest
    · obtain ⟨e', events, hleaves, hguarded⟩ :=
        Driver.exec_guarded_error isNoRows operation b.sql hrequest
      rw [hguarded]
      dsimp only
      rw [Except.mapError, hleaves.leaving_eq mode]
      exact ⟨_, .refused hasks hask hleaves⟩
    · rw [Driver.exec_guarded_ok isNoRows operation b.sql hrequest]
      dsimp only
      rcases hread : (read a).exec p₂ with ⟨e | r, p₃⟩
      · exact ⟨_, .unread hasks hask hread⟩
      · exact ⟨_, .done hasks hask hread⟩

/-! ## Requests -/

/-- `m` asks no querier. -/
def Quiet {α : Type} (m : Run α) : Prop := ∀ p, (m.exec p).2.requests = p.requests

namespace Quiet

variable {α β : Type}

theorem of_exec {m : Run α} (h : Quiet m) {p p' : Progress} {r : Except Failure α}
    (hexec : m.exec p = (r, p')) : p'.requests = p.requests := by
  have := h p
  rwa [hexec] at this

theorem pure (a : α) : Quiet (Pure.pure a : Run α) := fun _ => rfl

theorem throw (e : Failure) : Quiet (throw e : Run α) := fun _ => rfl

theorem note {e : RunEvent} (h : e.request? = none) : Quiet (Run.note e) := by
  intro p
  rw [Run.exec_note]
  unfold Progress.requests
  rw [List.filterMap_append, List.filterMap_cons_none h, List.filterMap_nil, List.append_nil]

theorem bind {m : Run α} {k : α → Run β} (hm : Quiet m) (hk : ∀ a, Quiet (k a)) :
    Quiet (m >>= k) := by
  intro p
  rw [Run.exec_bind]
  rcases hexec : m.exec p with ⟨e | a, p'⟩
  · exact hm.of_exec hexec
  · exact (hk a p').trans (hm.of_exec hexec)

theorem tryCatch {m : Run α} {k : Failure → Run α} (hm : Quiet m) (hk : ∀ e, Quiet (k e)) :
    Quiet (MonadExcept.tryCatch m k) := by
  intro p
  rw [Run.exec_tryCatch]
  rcases hexec : m.exec p with ⟨e | a, p'⟩
  · exact (hk e p').trans (hm.of_exec hexec)
  · exact hm.of_exec hexec

theorem coroutine {m : Run α} (hm : Quiet m) : Quiet (Run.coroutine m) :=
  hm.tryCatch fun _ => .throw _

theorem ensuring {last : Run Unit} {m : Run α} (hlast : Quiet last) (hm : Quiet m) :
    Quiet (Run.ensuring last m) :=
  (hm.tryCatch fun _ => hlast.bind fun _ => .throw _).bind fun _ => hlast.bind fun _ => .pure _

theorem openCursor : Quiet Run.openCursor := fun _ =>
  List.filterMap_append.trans (List.append_nil _)

theorem scan (rows : OpenRows) (scan : RowSource → Scan α) : Quiet (rows.scan scan) := by
  intro p
  obtain ⟨p', hexec, hfollows⟩ := rows.exec_scan scan p
  rw [hexec]
  exact hfollows.requests

end Quiet

/-! Over a channel the querier calls the database and nothing else, and the scanner reads rows. -/

namespace Channel

variable (channel : Channel) (reply : Reply) (b : Bound)

end Channel

/-- What an operation asks for: what it binds, once, and nothing when it cannot bind. -/
def Driver.asks (operation : Operation) (statement : Statement) (x : Source) (p : Progress) :
    List (Operation × Bound) :=
  match ((bind statement x).exec p).1 with
  | .ok b => [(operation, b)]
  | .error _ => []

theorem Asks.asks_eq {operation : Operation} {statement : Statement} {x : Source}
    {p p' : Progress} {b : Bound} (h : Asks operation statement x p b p') :
    Driver.asks operation statement x p = [(operation, b)] := by
  obtain ⟨hbind, -⟩ := h
  rw [Driver.asks, hbind]

theorem Outcome.asked_eq {α β : Type} {mode : Mode} {isNoRows : FaultKind → Bool}
    {operation : Operation} {ask : Bound → Run α} {read : α → Run β} {statement : Statement}
    {x : Source} {p p' : Progress} {asked : List (Operation × Bound)} {r : Except Failure β}
    (h : Outcome mode isNoRows operation ask read statement x p asked r p') :
    asked = Driver.asks operation statement x p := by
  cases h with
  | unbound hbind => rw [Driver.asks, hbind]
  | refused h | unread h | done h => exact h.asks_eq.symm

/-- How an operation comes out, and what it asks for. -/
theorem outcome_exec {α β : Type} (mode : Mode) (isNoRows : FaultKind → Bool)
    (operation : Operation) (ask : Bound → Run α) (read : α → Run β) (statement : Statement)
    (x : Source) (p : Progress) :
    let m := mode.run (Driver.perform isNoRows operation ask read statement x)
    Outcome mode isNoRows operation ask read statement x p (Driver.asks operation statement x p)
      (m.exec p).1 (m.exec p).2 := by
  intro m
  obtain ⟨asked, houtcome⟩ := operation_outcome mode isNoRows operation ask read statement x p
  exact houtcome.asked_eq ▸ houtcome

/-! ## The operations -/

/-- The names of the columns are asked for, and an iteration has ended in their place. -/
example :
    let reply : Reply :=
      ⟨fun _ => none, .error (.ofKind .exhaustion), [], none, .ok none, []⟩
    let statement : Statement := .prepared ⟨⟨[], []⟩, .default, false⟩
    (((Driver.ofChannel .direct reply).select statement .absent none).exec
        (.initial (.initial .default))).1 = .error (.ofKind .exhaustion) ∧
      (((Driver.ofChannel .awaited reply).select statement .absent none).exec
        (.initial (.initial .default))).1 =
          .error (.fault ⟨.runtime, some Frame.coroutine.message⟩) := ⟨rfl, rfl⟩

end NamedSql
