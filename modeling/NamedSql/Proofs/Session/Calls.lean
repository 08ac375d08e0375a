import Mathlib.Data.List.Induction
import NamedSql.Proofs.Session.Run

/-!
# The calls of a session

Runs are what calls of the interface make. What is proved about every run therefore holds in
whatever way a program uses a session, one call after another or one call inside another.

**Lookups** (`Lookups`). Binding and checking change caches only by the calls of `getOrPrepare` that
the lookups of sources make, for the texts that these sources ask for. Such a call hits, or it
misses and, after the calls inside it, ends in one of three ways (`Ending`).

**Calls** (`Call.Makes`). What a call gives belongs with the calls of `get` and `getOrPrepare` that
start in it, itself and those inside it, and with what happens at the caches, event by event.

**Theorem (`Call.exists_makes`).** Every call of the interface, from every moment, makes a run that
comes back to the calls that were open at its start, and the run has the events of such a call. So
calls can be made one after the other (`Successive`).
-/

namespace NamedSql

namespace Session

variable {α β : Type}

/-! ## Lookups -/

/-- The end of a call of `getOrPrepare` that has missed, with what the call gives. -/
inductive Ending (name sql : Text) : Except Failure Issued → Event → Prop
  | stored (q : Issued) (evicted : Option Text) :
      Ending name sql (.ok q) (.stored name sql q evicted)
  | overtaken (q : Issued) : Ending name sql (.ok q) (.overtaken name sql q)
  | raised (f : Failure) : Ending name sql (.error f) (.raised name sql)

/-- Calls of `getOrPrepare` that lookups make one after the other, for texts that are asked for: the
calls that start, those inside others among them, and what happens. -/
inductive Lookups (asked : Text → Text → Prop) : List (Text × Text) → List Event → Prop
  | nil : Lookups asked [] []
  | hit {name sql : Text} {q : Issued} {started : List (Text × Text)} {log : List Event} :
      asked name sql → Lookups asked started log →
      Lookups asked ((name, sql) :: started) (.asked name sql (some q) :: log)
  | missed {name sql : Text} {r : Except Failure Issued} {e : Event}
      {inner started : List (Text × Text)} {events log : List Event} :
      asked name sql → Lookups asked inner events → Ending name sql r e →
      Lookups asked started log →
      Lookups asked ((name, sql) :: (inner ++ started))
        (.asked name sql none :: (events ++ e :: log))

/-- A call of `getOrPrepare`: what it gives, the calls that start, and what happens. At a cache that
was never opened nothing starts. -/
inductive Asking (asked : Text → Text → Prop) (s : State) (name sql : Text) :
    Except Failure Issued → List (Text × Text) → List Event → Prop
  | unopened : s.caches.lookup name = none → Asking asked s name sql (.error (.ofKind .key)) [] []
  | hit (q : Issued) : Asking asked s name sql (.ok q) [(name, sql)] [.asked name sql (some q)]
  | missed {r : Except Failure Issued} {e : Event} {inner : List (Text × Text)}
      {events : List Event} : Lookups asked inner events → Ending name sql r e →
      Asking asked s name sql r ((name, sql) :: inner) (.asked name sql none :: (events ++ [e]))

/-- A text that one of several sources asks a cache for. -/
def AskedBy (sources : List Source) (name sql : Text) : Prop :=
  ∃ x ∈ sources, Requests name sql x

section

variable {asked : Text → Text → Prop} {started started' : List (Text × Text)}
  {log log' : List Event}

theorem Lookups.append (h : Lookups asked started log) (h' : Lookups asked started' log') :
    Lookups asked (started ++ started') (log ++ log') := by
  induction h with
  | nil => exact h'
  | hit hasked _ ih => exact .hit hasked ih
  | missed hasked hinner hend _ _ ih =>
    rw [List.cons_append, List.append_assoc, List.cons_append, List.append_assoc, List.cons_append]
    exact .missed hasked hinner hend ih

theorem Asking.lookups {s : State} {name sql : Text} {r : Except Failure Issued}
    (h : Asking asked s name sql r started log) (hasked : asked name sql) :
    Lookups asked started log := by
  cases h with
  | unopened => exact .nil
  | hit q => exact .hit hasked .nil
  | missed hinner hend =>
    have h := Lookups.missed hasked hinner hend .nil
    rwa [List.append_nil] at h

end

/-! ## Computations that look up -/

/-- From every moment, `m` makes a run that comes back to the calls open at its start, in which
nothing happens but lookups. -/
def LooksUp (asked : Text → Text → Prop) (m : Session α) : Prop :=
  ∀ s calls, ∃ log, Run ⟨s, calls⟩ log ⟨(m.exec s).2, calls⟩ ∧ ∃ started, Lookups asked started log

theorem aside_fieldMap? (r : Resolver) (isolated : Bool) (c : Class) (s : State) :
    Aside s ((fieldMap? r isolated c).exec s).2 := by
  rw [exec_fieldMap?]
  cases isolated <;> exact ⟨rfl, rfl, Nat.le_refl _⟩

namespace LooksUp

variable {asked : Text → Text → Prop}

theorem of_aside {m : Session α} (h : ∀ s, Aside s (m.exec s).2) : LooksUp asked m :=
  fun s calls => ⟨[], (h s).run calls, [], .nil⟩

theorem bind {m : Session α} {k : α → Session β} (hm : LooksUp asked m)
    (hk : ∀ a, LooksUp asked (k a)) : LooksUp asked (m >>= k) := by
  intro s calls
  obtain ⟨log, hrun, started, hlog⟩ := hm s calls
  rw [exec_bind]
  rcases hexec : m.exec s with ⟨_ | a, s'⟩ <;> rw [hexec] at hrun
  · exact ⟨log, hrun, started, hlog⟩
  · obtain ⟨log', hrun', started', hlog'⟩ := hk a s' calls
    exact ⟨log ++ log', hrun.trans hrun', _, hlog.append hlog'⟩

theorem tryCatch {m : Session α} {k : Failure → Session α} (hm : LooksUp asked m)
    (hk : ∀ f, LooksUp asked (k f)) : LooksUp asked (MonadExcept.tryCatch m k) := by
  intro s calls
  obtain ⟨log, hrun, started, hlog⟩ := hm s calls
  rw [exec_tryCatch]
  rcases hexec : m.exec s with ⟨f | _, s'⟩ <;> rw [hexec] at hrun
  · obtain ⟨log', hrun', started', hlog'⟩ := hk f s' calls
    exact ⟨log ++ log', hrun.trans hrun', _, hlog.append hlog'⟩
  · exact ⟨log, hrun, started, hlog⟩

theorem config : LooksUp asked Session.config := .of_aside Aside.refl

end LooksUp

/-! ## Preparing and storing -/

/-- A call whose query is prepared ends with a step at its cache. -/
theorem storeIn_ending {s : State} {name sql : Text} {p : Prepared}
    (hopen : (s.caches.lookup name).isSome) (hp : Prepares s.config sql p)
    (calls : List (Text × Text)) :
    ∃ e, Step ⟨s, (name, sql) :: calls⟩ e ⟨((issue p >>= storeIn name sql).exec s).2, calls⟩ ∧
      Ending name sql ((issue p >>= storeIn name sql).exec s).1 e := by
  obtain ⟨c, hc⟩ := Option.isSome_iff_exists.mp hopen
  obtain ⟨events, hexec⟩ := exec_issue_storeIn hc sql p
  rw [hexec]
  cases hfind : c.find? sql with
  | none => exact ⟨_, .stored hc hfind hp hexec, .stored _ _⟩
  | some other => exact ⟨_, .overtaken hc hfind hp hexec, .overtaken _⟩

/-- Preparing fails after a run, or comes to issuing the query that is prepared. What is known of
the log of every check is known of the log of this run. -/
theorem prepareWith_run_of {check : Prepared → Session Unit} {Q : List Event → Prop} (hnil : Q [])
    (hcheck : ∀ p s calls, ∃ log, Run ⟨s, calls⟩ log ⟨((check p).exec s).2, calls⟩ ∧ Q log)
    (sql : Text) (examples : Nat) (s : State) (calls : List (Text × Text)) :
    ∃ log s', Run ⟨s, calls⟩ log ⟨s', calls⟩ ∧ Q log ∧
      ((∃ f, (prepareWith s.config false sql examples check).exec s = (.error f, s')) ∨
        ∃ p, Prepares s'.config sql p ∧
          (prepareWith s.config false sql examples check).exec s = (issue p).exec s') := by
  unfold prepareWith
  rw [exec_bind]
  cases hscan : scan s.config.delimiter sql with
  | error e =>
    rw [exec_scanned_error hscan]
    exact ⟨[], s, .refl _, hnil, .inl ⟨_, rfl⟩⟩
  | ok q =>
    obtain ⟨log, hrun, hlog⟩ := hcheck ⟨q, s.config, false⟩ s calls
    rw [exec_scanned_ok hscan]
    simp only [exec_bind]
    rcases hexec : (check ⟨q, s.config, false⟩).exec s with ⟨f | _, s'⟩ <;> rw [hexec] at hrun
    · exact ⟨log, s', hrun, hlog, .inl ⟨f, rfl⟩⟩
    · have hconfig : s'.config = s.config := hrun.config_eq
      refine ⟨log, _, .aside hrun ?_, hlog, .inr ⟨⟨q, s.config, false⟩, ⟨q, ?_, ?_⟩, rfl⟩⟩
      · exact ⟨rfl, rfl, Nat.le_refl _⟩
      · exact hconfig ▸ hscan
      · exact hconfig ▸ rfl

/-- The end of a call of `getOrPrepare` takes the call off again, whatever the calls did that were
made while it was open. -/
theorem getOrPrepareWith_asking {asked : Text → Text → Prop} {check : Prepared → Session Unit}
    (hcheck : ∀ p, LooksUp asked (check p)) (name sql : Text) (examples : Nat) (s : State)
    (calls : List (Text × Text)) :
    ∃ started log,
      Asking asked s name sql ((getOrPrepareWith name sql examples check).exec s).1 started log ∧
      Run ⟨s, calls⟩ log ⟨((getOrPrepareWith name sql examples check).exec s).2, calls⟩ := by
  unfold getOrPrepareWith
  cases hc : s.caches.lookup name with
  | none =>
    rw [exec_bind, exec_cached?_none hc sql]
    exact ⟨[], [], .unopened hc, .refl _⟩
  | some c =>
    have hget := exec_cached? hc sql
    generalize { s with caches := putEntry name (c.get sql).2 s.caches } = s₁ at hget
    rw [exec_bind, hget]
    cases hfound : (c.get sql).1 with
    | some q =>
      rw [hfound] at hget
      exact ⟨_, _, .hit q, (Step.hit hget).run⟩
    | none =>
      rw [hfound] at hget
      have hmissed : Run ⟨s, calls⟩ _ ⟨s₁, (name, sql) :: calls⟩ := (Step.missed hget).run
      obtain ⟨log, s₂, hrun, ⟨inner, hlog⟩, hprep⟩ := prepareWith_run_of
        (Q := fun log => ∃ started, Lookups asked started log) ⟨[], .nil⟩ hcheck sql examples s₁
        ((name, sql) :: calls)
      have hrun := hmissed.trans hrun
      dsimp only
      rw [exec_bind, exec_config]
      dsimp only
      rw [exec_bind]
      obtain ⟨f, hf⟩ | ⟨p, hp, hf⟩ := hprep <;> rw [hf]
      · exact ⟨_, _, .missed hlog (.raised f), .step hrun (.raised s₂ calls name sql)⟩
      · have hopen : (s₂.caches.lookup name).isSome :=
          hrun.lookup_isSome (Option.isSome_iff_exists.mpr ⟨c, hc⟩)
        obtain ⟨e, hstep, hend⟩ := storeIn_ending hopen hp calls
        rw [← exec_bind (issue p) (storeIn name sql) s₂]
        exact ⟨_, _, .missed hlog hend, .step hrun hstep⟩

/-- **Lookups compose.** So whatever binding and checking do to the caches of a session is done by
the lookups of their sources. -/
theorem looksUp_compositional (asked : Text → Text → Prop) :
    CompositionalFor asked (LooksUp asked) where
  pure _ := .of_aside Aside.refl
  fail _ := .of_aside Aside.refl
  bind := .bind
  tryCatch := .tryCatch
  fieldMap? r isolated c := .of_aside (aside_fieldMap? r isolated c)
  getOrPrepareWith name sql examples _ hasked hcheck s calls :=
    let ⟨started, log, hasking, hrun⟩ :=
      getOrPrepareWith_asking hcheck name sql examples s calls
    ⟨log, hrun, started, hasking.lookups hasked⟩

theorem looksUp_resolve (r : Resolver) (isolated : Bool) (names : List Text) (sql : Option Text)
    (x : Source) : LooksUp (AskedBy [x]) (resolve r isolated names sql x) :=
  (looksUp_compositional _).resolve r isolated names sql x fun _ _ h =>
    ⟨x, List.mem_singleton_self x, h⟩

theorem looksUp_checkAll (r : Resolver) (isolated : Bool) (names : List Text) (sql : Option Text)
    (sources : List Source) :
    LooksUp (AskedBy sources) (checkAll r isolated names sql sources) :=
  (looksUp_compositional _).checkAll r isolated names sql sources fun x hx _ _ h => ⟨x, hx, h⟩

/-! ## The interface -/

/-- A call of the interface: of its own functions, of a cache over it or of a prepared query. -/
inductive Call where
  | prepare (sql : Text) (examples : List Source)
  | bindText (sql : Text) (s : Source)
  | fieldMap? (c : Class)
  | register (c : Class) (entries : Option (List (Text × Text)))
  | get (cache sql : Text)
  | getOrPrepare (cache sql : Text) (examples : List Source)
  | delete (cache sql : Text)
  | contains (cache : Text) (v : Value)
  | clear (cache : Text)
  | bind (p : Prepared) (s : Source)
  | validate (p : Prepared) (s : Source)

namespace Call

/-- Makes a call, and gives the query that it hands out with the text it is handed out for. -/
def perform : Call → Session (Option (Text × Issued))
  | prepare sql examples =>
    return some (sql, ← config >>= (Session.prepare · false sql examples))
  | bindText sql s => do
    discard (Session.bindText sql s)
    return none
  | fieldMap? c => do
    discard (config >>= (Session.fieldMap? ·.resolver false c))
    return none
  | register c entries => do
    discard (Session.register c entries)
    return none
  | get cache sql => return (← cached? cache sql).map (sql, ·)
  | getOrPrepare cache sql examples =>
    return some (sql, ← Session.getOrPrepare cache sql examples)
  | delete cache sql => do
    discard (deleteFrom cache sql)
    return none
  | contains cache v => do
    discard (containsIn cache v)
    return none
  | clear cache => do
    discard (clearCache cache)
    return none
  | bind p s => do
    discard (Session.bind p s)
    return none
  | validate p s => do
    discard (Session.validate p s)
    return none

/-- The state after calls, whether they succeed or fail. -/
def after (calls : List Call) (s : State) : State :=
  calls.foldl (fun s call => (call.perform.exec s).2) s

/-- The sources that a call binds a query to or tries it on. -/
def sources : Call → List Source
  | prepare _ examples | getOrPrepare _ _ examples => examples
  | bindText _ s | bind _ s | validate _ s => [s]
  | _ => []

/-- The cache in which a call itself looks up, stores or removes queries. -/
def cache? : Call → Option Text
  | get cache _ | getOrPrepare cache _ _ | delete cache _ | clear cache => some cache
  | _ => none

/-- What a call gives in a state, the calls of `get` and `getOrPrepare` that start in it, each with
its cache and its text, and what happens, in order. -/
inductive Makes (s : State) : Call → Except Failure (Option (Text × Issued)) →
    List (Text × Text) → List Event → Prop
  | got {name sql : Text} (found : Option Issued) :
      Makes s (.get name sql) (.ok (found.map (sql, ·))) [(name, sql)] [.got name sql found]
  | asked {name sql : Text} {examples : List Source} {r : Except Failure Issued}
      {started : List (Text × Text)} {log : List Event} :
      Asking (AskedBy examples) s name sql r started log →
      Makes s (.getOrPrepare name sql examples) (r.map fun q => some (sql, q)) started log
  | deleted {name sql : Text} {found : Bool} : ((deleteFrom name sql).exec s).1 = .ok found →
      Makes s (.delete name sql) (.ok none) [] [.deleted name sql found]
  | cleared {name : Text} : Makes s (.clear name) (.ok none) [] [.cleared name]
  | prepared {sql : Text} {examples : List Source} {q : Issued} {started : List (Text × Text)}
      {log : List Event} : Lookups (AskedBy examples) started log →
      Makes s (.prepare sql examples) (.ok (some (sql, q))) started (log ++ [.prepared sql q])
  | unopened {call : Call} {name : Text} :
      call.cache? = some name → s.caches.lookup name = none →
      Makes s call (.error (.ofKind .key)) [] []
  /-- A call that keeps nothing in a cache itself and hands out no query. -/
  | beside {call : Call} {r : Except Failure (Option (Text × Issued))}
      {started : List (Text × Text)} {log : List Event} :
      call.cache? = none → (∀ handed, r ≠ .ok (some handed)) →
      Lookups (AskedBy call.sources) started log → Makes s call r started log

/-- A call of `get` or `getOrPrepare` for a text of a cache. -/
inductive Fetches (name sql : Text) : Call → Prop
  | get : Fetches name sql (.get name sql)
  | getOrPrepare (examples : List Source) : Fetches name sql (.getOrPrepare name sql examples)

end Call

section

variable {asked : Text → Text → Prop}

theorem looksUp_compile (sql : Text) : LooksUp asked (compile sql) := by
  refine .bind .config fun c => .bind (.of_aside fun s => ?_) fun q => ?_
  · rw [exec_scanned]
    exact .refl s
  · exact .bind (.of_aside fun s => ⟨rfl, rfl, Nat.le_refl _⟩) fun _ => .of_aside Aside.refl

theorem looksUp_register (c : Class) (entries : Option (List (Text × Text))) :
    LooksUp asked (register c entries) := by
  refine .of_aside fun s => ?_
  unfold register configured
  simp only [exec_bind, exec_config, exec_get]
  cases Registry.register s.config.resolver c entries s.registry with
  | ok r => exact ⟨rfl, rfl, Nat.le_refl _⟩
  | error m => exact .refl s

theorem looksUp_containsIn (name : Text) (v : Value) : LooksUp asked (containsIn name v) := by
  refine .of_aside fun s => ?_
  rw [containsIn_state]
  exact .refl s

end

theorem looksUp_bindText (sql : Text) (x : Source) : LooksUp (AskedBy [x]) (bindText sql x) :=
  .bind (looksUp_compile sql) fun _ => .bind .config fun _ =>
    .bind (looksUp_resolve _ _ _ _ x) fun _ => .of_aside Aside.refl

theorem looksUp_bind (p : Prepared) (x : Source) : LooksUp (AskedBy [x]) (bind p x) :=
  LooksUp.bind (looksUp_resolve _ _ _ _ x) fun _ => .of_aside Aside.refl

/-- What only looks up, and hands out no query, is a call that keeps nothing in a cache itself. -/
theorem LooksUp.exists_makes {m : Session α} (call : Call) (hcache : call.cache? = none)
    (hperform : call.perform = do
      discard m
      return none)
    (h : LooksUp (AskedBy call.sources) m) (s : State) (calls : List (Text × Text)) :
    ∃ started log, call.Makes s (call.perform.exec s).1 started log ∧
      Run ⟨s, calls⟩ log ⟨(call.perform.exec s).2, calls⟩ := by
  obtain ⟨log, hrun, started, hlog⟩ := h s calls
  rw [hperform, exec_discard_then]
  refine ⟨started, log, .beside hcache (fun handed heq => ?_) hlog, hrun⟩
  obtain ⟨a, -, hnone⟩ := of_map_eq_ok heq
  contradiction

/-- **Every call of the interface makes a run,** with the events that such a call makes. -/
theorem Call.exists_makes (call : Call) (s : State) (calls : List (Text × Text)) :
    ∃ started log, call.Makes s (call.perform.exec s).1 started log ∧
      Run ⟨s, calls⟩ log ⟨(call.perform.exec s).2, calls⟩ := by
  have checks (examples : List Source) (p : Prepared) : LooksUp (AskedBy examples)
      (checkAll p.config.resolver p.isolated p.names p.rawSql examples) :=
    looksUp_checkAll _ _ _ _ examples
  cases call with
  | prepare sql examples =>
    have hperform : ((Call.prepare sql examples).perform).exec s = _ :=
      exec_bind_pure (fun q => some (sql, q)) _ s
    rw [hperform, exec_bind, exec_config]
    dsimp only
    obtain ⟨log, s', hrun, ⟨started, hlog⟩, ⟨f, hf⟩ | ⟨p, hp, hf⟩⟩ := prepareWith_run_of
      (Q := fun log => ∃ started, Lookups (AskedBy examples) started log) ⟨[], .nil⟩
      (checks examples) sql examples.length s calls
    · rw [Session.prepare, hf]
      exact ⟨started, log, .beside rfl nofun hlog, hrun⟩
    · rw [Session.prepare, hf]
      exact ⟨started, _, .prepared hlog, .step hrun (.prepared hp rfl)⟩
  | bindText sql x =>
    exact LooksUp.exists_makes (.bindText sql x) rfl rfl (looksUp_bindText sql x) s calls
  | fieldMap? c =>
    refine LooksUp.exists_makes (.fieldMap? c) rfl rfl (.bind .config fun _ => ?_) s calls
    exact .of_aside (aside_fieldMap? _ _ c)
  | register c entries =>
    exact LooksUp.exists_makes (.register c entries) rfl rfl (looksUp_register c entries) s calls
  | get name sql =>
    have hperform : ((Call.get name sql).perform).exec s = _ :=
      exec_bind_pure (fun found : Option Issued => found.map (sql, ·)) _ s
    rw [hperform]
    cases hc : s.caches.lookup name with
    | none =>
      rw [exec_cached?_none hc sql]
      exact ⟨[], [], .unopened rfl hc, .refl _⟩
    | some c =>
      have hexec := exec_cached? hc sql
      rw [hexec]
      exact ⟨_, _, .got _, (Step.got hexec).run⟩
  | getOrPrepare name sql examples =>
    have hperform : ((Call.getOrPrepare name sql examples).perform).exec s = _ :=
      exec_bind_pure (fun q => some (sql, q)) _ s
    rw [hperform]
    obtain ⟨started, log, hasking, hrun⟩ :=
      getOrPrepareWith_asking (checks examples) name sql examples.length s calls
    exact ⟨started, log, .asked hasking, hrun⟩
  | delete name sql =>
    have hperform : ((Call.delete name sql).perform).exec s = _ := exec_discard_then _ s
    rw [hperform]
    cases hc : s.caches.lookup name with
    | none =>
      rw [exec_deleteFrom_none hc sql]
      exact ⟨[], [], .unopened rfl hc, .refl _⟩
    | some c =>
      have hexec := exec_deleteFrom hc sql
      rw [hexec]
      exact ⟨_, _, .deleted (congrArg Prod.fst hexec), (Step.deleted hexec).run⟩
  | contains name v =>
    exact LooksUp.exists_makes (.contains name v) rfl rfl (looksUp_containsIn name v) s calls
  | clear name =>
    have hperform : ((Call.clear name).perform).exec s = _ := exec_discard_then _ s
    rw [hperform]
    cases hc : s.caches.lookup name with
    | none =>
      rw [exec_clearCache_none hc]
      exact ⟨[], [], .unopened rfl hc, .refl _⟩
    | some c =>
      have hexec := exec_clearCache hc
      rw [hexec]
      exact ⟨_, _, .cleared, (Step.cleared hexec).run⟩
  | bind p x => exact LooksUp.exists_makes (.bind p x) rfl rfl (looksUp_bind p x) s calls
  | validate p x =>
    exact LooksUp.exists_makes (.validate p x) rfl rfl (looksUp_checkAll _ _ _ _ [x]) s calls

/-! ## Queries that are handed out -/

theorem Ending.hands {name sql : Text} {q : Issued} {e : Event} (h : Ending name sql (.ok q) e) :
    e.handedOut? = some (sql, q) ∧ e.cache? = some name := by
  cases h <;> exact ⟨rfl, rfl⟩

/-- A call that hands out a query does so at its last event, from its own cache. -/
theorem Call.Makes.handsOut {s : State} {call : Call} {sql : Text} {q : Issued}
    {started : List (Text × Text)} {log : List Event}
    (h : call.Makes s (.ok (some (sql, q))) started log) :
    ∃ before e, log = before ++ [e] ∧ e.handedOut? = some (sql, q) ∧ e.cache? = call.cache? := by
  generalize hr : Except.ok (some (sql, q)) = r at h
  cases h with
  | @got name sql' found =>
    obtain ⟨q', rfl, hq⟩ := Option.map_eq_some_iff.mp (Except.ok.inj hr).symm
    exact ⟨[], _, rfl, congrArg some hq, rfl⟩
  | @asked name sql' _ r _ _ h =>
    obtain ⟨q', rfl, hq⟩ := of_map_eq_ok hr.symm
    rw [← Option.some.inj hq]
    cases h with
    | hit => exact ⟨[], _, rfl, rfl, rfl⟩
    | missed _ hend => exact ⟨_ :: _, _, rfl, hend.hands⟩
  | prepared => exact ⟨_, _, rfl, congrArg some (Option.some.inj (Except.ok.inj hr)).symm, rfl⟩
  | beside _ hnone => exact absurd hr.symm (hnone _)
  | _ => simp at hr

/-- `m` makes runs, in which the query that it gives, if any, is handed out for the text beside
it. -/
def RunsHandingOut (m : Session (Option (Text × Issued))) : Prop :=
  ∀ s calls, ∃ log, Run ⟨s, calls⟩ log ⟨(m.exec s).2, calls⟩ ∧
    ∀ sql q, (m.exec s).1 = .ok (some (sql, q)) → ∃ e ∈ log, e.handedOut? = some (sql, q)

/-- Every call of the interface makes a run, in which it hands out the query that it gives. -/
theorem Call.exists_run (call : Call) : RunsHandingOut call.perform := by
  intro s calls
  obtain ⟨started, log, hmakes, hrun⟩ := call.exists_makes s calls
  refine ⟨log, hrun, fun sql q hq => ?_⟩
  rw [hq] at hmakes
  obtain ⟨before, e, rfl, hands, -⟩ := hmakes.handsOut
  exact ⟨e, List.mem_append_right _ List.mem_cons_self, hands⟩

/-! ## One call after another -/

/-- A call that is made, with what it gives, the calls of `get` and `getOrPrepare` that start in it,
and what happens. -/
structure Made where
  call : Call
  result : Except Failure (Option (Text × Issued))
  started : List (Text × Text)
  log : List Event

/-- A call is made at a moment, and comes back to the calls that are open then. -/
structure Made.Leads (made : Made) (m m' : Moment) : Prop where
  exec_eq : made.call.perform.exec m.state = (made.result, m'.state)
  calls_eq : m'.calls = m.calls
  makes : made.call.Makes m.state made.result made.started made.log
  run : Run m made.log m'

/-- Calls are made one after the other. -/
inductive Successive : Moment → List Made → Moment → Prop
  | refl (m : Moment) : Successive m [] m
  | step {m m' m'' : Moment} {mades : List Made} {made : Made} :
      Successive m mades m' → made.Leads m' m'' → Successive m (mades ++ [made]) m''

theorem Call.exists_made (call : Call) (m : Moment) :
    ∃ made : Made, made.call = call ∧ made.Leads m ⟨(call.perform.exec m.state).2, m.calls⟩ := by
  obtain ⟨started, log, hmakes, hrun⟩ := call.exists_makes m.state m.calls
  exact ⟨⟨call, (call.perform.exec m.state).1, started, log⟩, rfl, rfl, rfl, hmakes, hrun⟩

/-- **Every list of calls can be made,** from every moment. -/
theorem exists_successive (calls : List Call) (m : Moment) :
    ∃ mades, mades.map Made.call = calls ∧
      Successive m mades ⟨Call.after calls m.state, m.calls⟩ := by
  induction calls using List.reverseRecOn with
  | nil => exact ⟨[], rfl, .refl m⟩
  | append_singleton calls call ih =>
    obtain ⟨mades, rfl, hmades⟩ := ih
    obtain ⟨made, rfl, hleads⟩ :=
      call.exists_made ⟨Call.after (mades.map Made.call) m.state, m.calls⟩
    refine ⟨mades ++ [made], by simp, ?_⟩
    unfold Call.after at hmades hleads ⊢
    rw [List.foldl_append]
    exact .step hmades hleads

/-- Calls that are made one after the other make a run with the events of all. -/
theorem Successive.run {m m' : Moment} {mades : List Made} (h : Successive m mades m') :
    Run m (mades.flatMap Made.log) m' := by
  induction h with
  | refl => exact .refl m
  | step _ hleads ih =>
    rw [List.flatMap_append, List.flatMap_singleton]
    exact ih.trans hleads.run

theorem Successive.mem_makes {m m' : Moment} {mades : List Made} (h : Successive m mades m') :
    ∀ made ∈ mades, ∃ s, made.call.Makes s made.result made.started made.log := by
  induction h with
  | refl => exact List.forall_mem_nil _
  | step _ hleads ih =>
    exact List.forall_mem_append.mpr ⟨ih, List.forall_mem_singleton.mpr ⟨_, hleads.makes⟩⟩

end Session

end NamedSql
