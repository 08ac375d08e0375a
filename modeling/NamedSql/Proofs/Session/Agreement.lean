import NamedSql.Proofs.Query.Factoring
import NamedSql.Proofs.Session.Caching
import NamedSql.Proofs.Session.Calls

/-!
# Queries that are kept

A program that keeps a query, or leaves that to a cache, must get from it what it would get by
compiling the text again. A query keeps the text, what was scanned and the configuration, none of
which ever change. It does not keep the registry: a class may be registered after a query is
prepared, and binding looks the registry up at the time.

Compiling and binding at once differs from binding a query that is kept by one thing, the report of
the compilation. Binding does not read what was reported (`IgnoresEvents`).

**Theorem (`handed_out_query_agrees`).** A query that was handed out for a text at any time keeps
that text and what compiling it gives, and binds as the text itself does, whether this succeeds or
fails.
-/

namespace NamedSql

namespace Session

variable {α β : Type}

/-! ## What events do not change -/

/-- `m` gives the same, and leaves the same but for the events, from states that differ in their
events only. -/
def IgnoresEvents (m : Session α) : Prop :=
  ∀ s events, ∃ events',
    m.exec { s with events } = ((m.exec s).1, { (m.exec s).2 with events := events' })

namespace IgnoresEvents

theorem bind {m : Session α} {k : α → Session β} (hm : IgnoresEvents m)
    (hk : ∀ a, IgnoresEvents (k a)) : IgnoresEvents (m >>= k) := by
  intro s events
  obtain ⟨events', hexec⟩ := hm s events
  rw [exec_bind, exec_bind, hexec]
  rcases m.exec s with ⟨_ | a, s'⟩
  · exact ⟨events', rfl⟩
  · exact hk a s' events'

theorem tryCatch {m : Session α} {k : Failure → Session α} (hm : IgnoresEvents m)
    (hk : ∀ f, IgnoresEvents (k f)) : IgnoresEvents (MonadExcept.tryCatch m k) := by
  intro s events
  obtain ⟨events', hexec⟩ := hm s events
  rw [exec_tryCatch, exec_tryCatch, hexec]
  rcases m.exec s with ⟨f | _, s'⟩
  · exact hk f s' events'
  · exact ⟨events', rfl⟩

theorem fieldMap? (r : Resolver) (isolated : Bool) (c : Class) :
    IgnoresEvents (Session.fieldMap? r isolated c) := by
  intro s events
  rw [exec_fieldMap?, exec_fieldMap?]
  cases isolated <;> exact ⟨events, rfl⟩

theorem cached? (name sql : Text) : IgnoresEvents (Session.cached? name sql) := by
  intro s events
  cases hc : s.caches.lookup name with
  | none =>
    rw [exec_cached?_none hc sql]
    exact ⟨events, exec_cached?_none (s := { s with events }) hc sql⟩
  | some c =>
    rw [exec_cached? hc sql]
    exact ⟨events, exec_cached? (s := { s with events }) hc sql⟩

theorem storeIn (name sql : Text) (q : Issued) : IgnoresEvents (Session.storeIn name sql q) := by
  intro s events
  cases hc : s.caches.lookup name with
  | none =>
    rw [exec_storeIn_none hc sql q]
    exact ⟨events, exec_storeIn_none (s := { s with events }) hc sql q⟩
  | some c =>
    rw [exec_storeIn hc sql q]
    exact ⟨_, exec_storeIn (s := { s with events }) hc sql q⟩

theorem scanned (d : Delimiter) (sql : Text) : IgnoresEvents (Session.scanned d sql) := by
  intro s events
  rw [exec_scanned, exec_scanned]
  exact ⟨events, rfl⟩

theorem sequential : Sequential IgnoresEvents where
  pure _ _ events := ⟨events, rfl⟩
  bind := bind

theorem getOrPrepareWith (name sql : Text) (examples : Nat) {check : Prepared → Session Unit}
    (hcheck : ∀ p, IgnoresEvents (check p)) :
    IgnoresEvents (Session.getOrPrepareWith name sql examples check) :=
  sequential.getOrPrepareWith hcheck (cached? name sql) (fun _ events => ⟨events, rfl⟩)
    (scanned · sql) (fun _ _ _ => ⟨_, rfl⟩) (storeIn name sql)

theorem fst_eq {m : Session α} (hm : IgnoresEvents m) (s : State) (events : List LogEvent) :
    (m.exec { s with events }).1 = (m.exec s).1 := by
  obtain ⟨_, hexec⟩ := hm s events
  rw [hexec]

end IgnoresEvents

theorem ignoresEvents_compositional : Compositional IgnoresEvents where
  pure _ _ events := ⟨events, rfl⟩
  fail _ _ events := ⟨events, rfl⟩
  bind := .bind
  tryCatch := .tryCatch
  fieldMap? := .fieldMap?
  getOrPrepareWith name sql examples _ hcheck :=
    .getOrPrepareWith name sql examples hcheck

/-! ## Binding a query and binding its text -/

theorem exec_compile {s : State} {sql : Text} {q : Scanned}
    (h : scan s.config.delimiter sql = .ok q) :
    ∃ events, (compile sql).exec s = (.ok (q.render s.config.style), { s with events }) := by
  unfold compile
  rw [exec_bind, exec_config]
  dsimp only
  rw [exec_bind, exec_scanned_ok h]
  exact ⟨_, rfl⟩

/-- What is prepared for a text binds as the text does, in every state of the registry and of the
caches. -/
theorem Prepares.bind_eq {s : State} {sql : Text} {p : Prepared} (h : Prepares s.config sql p)
    (src : Source) : ((bind p src).exec s).1 = ((bindText sql src).exec s).1 := by
  obtain rfl := h.rawSql_eq
  obtain ⟨q, hq, rfl⟩ := h
  obtain ⟨events, hcompile⟩ := exec_compile hq
  have hbind : IgnoresEvents (bind ⟨q, s.config, false⟩ src) :=
    .bind (ignoresEvents_compositional.resolve _ _ _ _ src) fun _ s events => ⟨events, rfl⟩
  unfold bindText
  rw [exec_bind, hcompile]
  dsimp only
  rw [exec_bind, exec_config]
  exact (hbind.fst_eq s events).symm

/-- Compiling the text gives what the query keeps of it, whatever is registered. -/
theorem Prepares.compile_eq {s : State} {sql : Text} {p : Prepared}
    (h : Prepares s.config sql p) :
    ((compile sql).exec s).1 = .ok ⟨p.compiled.sql, p.names⟩ := by
  obtain ⟨q, hq, rfl⟩ := h
  obtain ⟨events, hcompile⟩ := exec_compile hq
  rw [hcompile]
  rfl

/-! ## Runs -/

theorem Sound.of_find? {config : Config} {c : Cache} {sql : Text} {q : Issued}
    (hc : Sound config c) (h : c.find? sql = some q) : Prepares config sql q.query :=
  hc.prepares (sql, q) (mem_of_lookup h)

/-- What a step at a sound cache hands out is what is prepared for its text. -/
theorem CacheStep.prepares {config : Config} {e : Event} {c c' : Cache} {sql : Text} {q : Issued}
    (h : CacheStep config e c c') (hc : Sound config c) (hands : e.handedOut? = some (sql, q)) :
    Prepares config sql q.query := by
  cases h with
  | got name sql' | asked name sql' =>
    obtain ⟨q', hfound, heq⟩ := Option.map_eq_some_iff.mp hands
    obtain ⟨rfl, rfl⟩ := Prod.mk.inj heq
    exact hc.of_find? (Cache.get_fst ▸ hfound)
  | stored name _ hq =>
    obtain ⟨rfl, rfl⟩ := Prod.mk.inj (Option.some.inj hands)
    exact hq
  | overtaken name hfind =>
    obtain ⟨rfl, rfl⟩ := Prod.mk.inj (Option.some.inj hands)
    exact hc.of_find? hfind
  | _ => contradiction

/-- **Every query that a run hands out is what is prepared for its text.** -/
theorem Run.prepares {config : Config} {log : List Event} {m : Moment}
    (h : Run ⟨.initial config, []⟩ log m) {e : Event} (he : e ∈ log) {sql : Text} {q : Issued}
    (hands : e.handedOut? = some (sql, q)) : Prepares config sql q.query := by
  induction h with
  | refl => contradiction
  | @step m' _ log e' hrun hstep ih =>
    obtain hbefore | hlast := List.mem_append.mp he
    · exact ih hbefore
    · obtain rfl := List.mem_singleton.mp hlast
      have hconfig : m'.state.config = config := hrun.config_eq
      cases hstep.effect.2 with
      | on _ hc hcache => exact (hconfig ▸ hcache).prepares (hrun.sound hc) hands
      | prepared he hp =>
        subst he
        obtain ⟨rfl, rfl⟩ := Prod.mk.inj (Option.some.inj hands)
        exact hconfig ▸ hp
      | opened he | raised he => simp [he, Event.handedOut?] at hands
  | aside _ _ ih => exact ih he

/-- **A query that was handed out is as good as its text.** The calls of the interface make runs.
Whatever query was handed out for a text in a run, at any later moment it keeps the text, it has
what compiling the text gives, and binding it to a source gives what compiling and binding the text
at once gives, be it values or the failure. -/
theorem handed_out_query_agrees :
    (∀ call : Call, RunsHandingOut call.perform) ∧
    ∀ config log m, Run ⟨.initial config, []⟩ log m →
      ∀ e ∈ log, ∀ sql q, e.handedOut? = some (sql, q) →
        q.query.rawSql = sql ∧
        ((compile sql).exec m.state).1 = .ok ⟨q.query.compiled.sql, q.query.names⟩ ∧
        ∀ src, ((bind q.query src).exec m.state).1 = ((bindText sql src).exec m.state).1 := by
  refine ⟨Call.exists_run, fun config log m hrun e he sql q hands => ?_⟩
  have hconfig : m.state.config = config := hrun.config_eq
  have hprepares : Prepares m.state.config sql q.query := hconfig ▸ hrun.prepares he hands
  exact ⟨hprepares.rawSql_eq, hprepares.compile_eq, hprepares.bind_eq⟩

/-- A query that was evicted, and a class that was registered after that. -/
theorem handed_out_query_agrees_evicted :
    ∃ log m q, Run ⟨.initial .default, []⟩ log m ∧ .stored ['c'] [':', 'a'] q none ∈ log ∧
      q.query.rawSql = [':', 'a'] ∧
      ((compile [':', 'a']).exec m.state).1 = .ok ⟨['$', '1'], [['a']]⟩ ∧
      ((bind q.query (.instance ⟨.named ['R'], [], [(['x'], .int 7)]⟩)).exec m.state).1 =
        .ok ⟨['$', '1'], [.int 7]⟩ ∧
      ∀ src, ((bind q.query src).exec m.state).1 =
        ((bindText [':', 'a'] src).exec m.state).1 := by
  let a : Prepared :=
    ⟨⟨[':', 'a'], [.placeholder ['a'] 0 1 [':', 'a']]⟩, .default, false⟩
  let b : Prepared :=
    ⟨⟨[':', 'b'], [.placeholder ['b'] 0 1 [':', 'b']]⟩, .default, false⟩
  have ha : Prepares .default [':', 'a'] a :=
    ⟨_, scan_placeholder (by simp) (List.forall_mem_singleton.mpr rfl), rfl⟩
  have hb : Prepares .default [':', 'b'] b :=
    ⟨_, scan_placeholder (by simp) (List.forall_mem_singleton.mpr rfl), rfl⟩
  have hopened : Run ⟨.initial .default, []⟩ ([] ++ [.opened ['c'] 1]) ⟨_, []⟩ :=
    .step (.refl _) (.opened rfl rfl)
  have hmissed : Run _ (_ ++ [.asked ['c'] [':', 'a'] none]) _ := .step hopened (.missed rfl)
  have hstored := hmissed.step (.stored rfl rfl ha rfl)
  have hnext : Run _ (_ ++ [.asked ['c'] [':', 'b'] none]) _ := .step hstored (.missed rfl)
  have hevicted := hnext.step (.stored rfl rfl hb rfl)
  have hregistered : Run _ _ ⟨((register (.named ['R']) (some [(['a'], ['x'])])).exec _).2, _⟩ :=
    .aside hevicted ⟨rfl, rfl, Nat.le_refl _⟩
  have hlog (before : List Event) (e e' e'' : Event) :
      e ∈ before ++ [e] ++ [e'] ++ [e''] := by simp
  obtain ⟨hsql, hcompile, hbind⟩ :=
    handed_out_query_agrees.2 _ _ _ hregistered _ (hlog ..) [':', 'a'] ⟨0, a⟩ rfl
  exact ⟨_, _, _, hregistered, hlog .., hsql, hcompile, rfl, hbind⟩

end Session

end NamedSql
