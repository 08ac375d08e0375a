import NamedSql.Proofs.Session.Execution

/-!
# Runs of a session

What can happen to the caches of a session, one step after another.

**The state** (`Moment`). The state of the session, and the calls of `getOrPrepare` that have
missed and not ended yet. Such a call leaves the cache alone until its query is prepared; in the
meantime the sources that it is tried on may make further calls, so calls are nested.

**Steps** (`Step`). Each step is an operation of the session on one cache, or the hand-over of a
query that no cache keeps. A call of `getOrPrepare` is one step if it hits. If it misses, it is a
step at its start and a step at its end, where the query is stored, or another one is found to be
stored, or the call fails.

**Runs** (`Run`). Steps, and whatever else a session does that leaves its caches and its
configuration alone (`Aside`). A run keeps the log of its steps.

**Theorem (`Step.effect`).** A step keeps the configuration, and what it does to the caches is
determined by its event. Invariants of runs are proved from this alone.
-/

namespace NamedSql

namespace Session

/-! ## Steps -/

/-- A state of a session in the middle of its work. -/
structure Moment where
  state : State
  /-- The cache and the text of each call that has missed and not ended, the innermost first. -/
  calls : List (Text × Text)

/-- What happens to a cache in a step, or what is handed out beside the caches. -/
inductive Event where
  | opened (cache : Text) (size : Int)
  /-- A call of `get`, from its start to its end. -/
  | got (cache sql : Text) (found : Option Issued)
  /-- The start of a call of `getOrPrepare`, which is also its end if a query is found. -/
  | asked (cache sql : Text) (found : Option Issued)
  /-- The end of a call whose query is stored, and the text of the query evicted for it. -/
  | stored (cache sql : Text) (query : Issued) (evicted : Option Text)
  /-- The end of a call that finds another query stored in the meantime. -/
  | overtaken (cache sql : Text) (query : Issued)
  /-- The end of a call whose query could not be prepared. -/
  | raised (cache sql : Text)
  | deleted (cache sql : Text) (found : Bool)
  | cleared (cache : Text)
  /-- A query is prepared for the program itself. -/
  | prepared (sql : Text) (query : Issued)

/-- The query that an event hands out, with the text that it is handed out for. -/
def Event.handedOut? : Event → Option (Text × Issued)
  | got _ sql found | asked _ sql found => found.map (sql, ·)
  | stored _ sql q _ | overtaken _ sql q | prepared sql q => some (sql, q)
  | _ => none

/-- What is prepared for a text under a configuration. -/
def Prepares (config : Config) (sql : Text) (p : Prepared) : Prop :=
  ∃ q, scan config.delimiter sql = .ok q ∧ p = ⟨q, config, false⟩

namespace Prepares

variable {config : Config} {sql : Text} {p : Prepared}

theorem rawSql_eq (h : Prepares config sql p) : p.rawSql = sql := by
  obtain ⟨q, hq, rfl⟩ := h
  unfold scan at hq
  dsimp only at hq
  split at hq
  · rw [← Except.ok.inj hq]
    rfl
  · contradiction

theorem config_eq (h : Prepares config sql p) : p.config = config := by
  obtain ⟨q, -, rfl⟩ := h
  rfl

end Prepares

/-- A step runs an operation of the session to its end, at an event. -/
inductive Step : Moment → Event → Moment → Prop
  | opened {s s' : State} {calls : List (Text × Text)} {name : Text} {size : Int} :
      s.caches.lookup name = none → (openCache name size).exec s = (.ok (), s') →
      Step ⟨s, calls⟩ (.opened name size) ⟨s', calls⟩
  | got {s s' : State} {calls : List (Text × Text)} {name sql : Text} {found : Option Issued} :
      (cached? name sql).exec s = (.ok found, s') →
      Step ⟨s, calls⟩ (.got name sql found) ⟨s', calls⟩
  | hit {s s' : State} {calls : List (Text × Text)} {name sql : Text} {q : Issued} :
      (cached? name sql).exec s = (.ok (some q), s') →
      Step ⟨s, calls⟩ (.asked name sql (some q)) ⟨s', calls⟩
  | missed {s s' : State} {calls : List (Text × Text)} {name sql : Text} :
      (cached? name sql).exec s = (.ok none, s') →
      Step ⟨s, calls⟩ (.asked name sql none) ⟨s', (name, sql) :: calls⟩
  | stored {s s' : State} {calls : List (Text × Text)} {name sql : Text} {c : Cache}
      {p : Prepared} {q : Issued} :
      s.caches.lookup name = some c → c.find? sql = none → Prepares s.config sql p →
      (issue p >>= storeIn name sql).exec s = (.ok q, s') →
      Step ⟨s, (name, sql) :: calls⟩ (.stored name sql q (c.push sql q).2) ⟨s', calls⟩
  | overtaken {s s' : State} {calls : List (Text × Text)} {name sql : Text} {c : Cache}
      {p : Prepared} {q other : Issued} :
      s.caches.lookup name = some c → c.find? sql = some other → Prepares s.config sql p →
      (issue p >>= storeIn name sql).exec s = (.ok q, s') →
      Step ⟨s, (name, sql) :: calls⟩ (.overtaken name sql q) ⟨s', calls⟩
  | raised (s : State) (calls : List (Text × Text)) (name sql : Text) :
      Step ⟨s, (name, sql) :: calls⟩ (.raised name sql) ⟨s, calls⟩
  | deleted {s s' : State} {calls : List (Text × Text)} {name sql : Text} {found : Bool} :
      (deleteFrom name sql).exec s = (.ok found, s') →
      Step ⟨s, calls⟩ (.deleted name sql found) ⟨s', calls⟩
  | cleared {s s' : State} {calls : List (Text × Text)} {name : Text} :
      (clearCache name).exec s = (.ok (), s') →
      Step ⟨s, calls⟩ (.cleared name) ⟨s', calls⟩
  | prepared {s s' : State} {calls : List (Text × Text)} {sql : Text} {p : Prepared}
      {q : Issued} : Prepares s.config sql p → (issue p).exec s = (.ok q, s') →
      Step ⟨s, calls⟩ (.prepared sql q) ⟨s', calls⟩

/-- From `s` to `s'` only the registry, the serial numbers and the events may have grown. -/
structure Aside (s s' : State) : Prop where
  config : s'.config = s.config
  caches : s'.caches = s.caches
  nextSerial : s.nextSerial ≤ s'.nextSerial

/-- A run from a moment to a moment, with the events of its steps in order. -/
inductive Run : Moment → List Event → Moment → Prop
  | refl (m : Moment) : Run m [] m
  | step {m m' m'' : Moment} {log : List Event} {e : Event} :
      Run m log m' → Step m' e m'' → Run m (log ++ [e]) m''
  | aside {m : Moment} {log : List Event} {s s' : State} {calls : List (Text × Text)} :
      Run m log ⟨s, calls⟩ → Aside s s' → Run m log ⟨s', calls⟩

/-! ## Runs in general -/

theorem Aside.refl (s : State) : Aside s s := ⟨rfl, rfl, Nat.le_refl _⟩

theorem Step.run {m m' : Moment} {e : Event} (h : Step m e m') : Run m [e] m' :=
  .step (.refl m) h

theorem Aside.run {s s' : State} (h : Aside s s') (calls : List (Text × Text)) :
    Run ⟨s, calls⟩ [] ⟨s', calls⟩ := .aside (.refl _) h

theorem Run.trans {m m' m'' : Moment} {log log' : List Event} (h : Run m log m')
    (h' : Run m' log' m'') : Run m (log ++ log') m'' := by
  induction h' with
  | refl => simpa using h
  | step _ hstep ih =>
    rw [← List.append_assoc]
    exact .step ih hstep
  | aside _ haside ih => exact .aside ih haside

/-- Between any two of its events a run is at some moment. -/
theorem Run.split {m m' : Moment} {log before after : List Event} (h : Run m log m')
    (hlog : log = before ++ after) : ∃ m₁, Run m before m₁ ∧ Run m₁ after m' := by
  -- Runs grow at their end, so the events after the split are taken off one by one.
  induction h generalizing after with
  | refl =>
    obtain ⟨rfl, rfl⟩ := List.nil_eq_append_iff.mp hlog
    exact ⟨_, .refl _, .refl _⟩
  | step hrun hstep ih =>
    obtain rfl | ⟨after, e, rfl⟩ := after.eq_nil_or_concat
    · rw [List.append_nil] at hlog
      exact ⟨_, hlog ▸ .step hrun hstep, .refl _⟩
    · rw [List.concat_eq_append, ← List.append_assoc] at hlog
      obtain ⟨hinit, he⟩ := List.append_inj' hlog rfl
      obtain rfl := List.singleton_inj.mp he
      obtain ⟨m₁, hbefore, hafter⟩ := ih hinit
      rw [List.concat_eq_append]
      exact ⟨m₁, hbefore, .step hafter hstep⟩
  | aside _ haside ih =>
    obtain ⟨m₁, hbefore, hafter⟩ := ih hlog
    exact ⟨m₁, hbefore, .aside hafter haside⟩

/-- A cache operation of a step that succeeds finds its cache open. -/
theorem lookup_of_exec_ok {α : Type} {s s' : State} {name : Text} {k : Cache → Session α} {a : α}
    (h : (cache name >>= k).exec s = (.ok a, s')) : ∃ c, s.caches.lookup name = some c := by
  cases hc : s.caches.lookup name with
  | none => simp [exec_cache_bind_none hc] at h
  | some c => exact ⟨c, rfl⟩

/-! ## What a step does -/

section

open Cache

variable {c : Cache} {sql : Text}

theorem store_of_find?_none (h : c.find? sql = none) (q : Issued) :
    c.store sql q = (q, c.push sql q) := by simp [store, h]

theorem store_of_find?_some {stored : Issued} (h : c.find? sql = some stored) (q : Issued) :
    c.store sql q = (stored, c, none) := by simp [store, h]

end

/-- What an event at a cache does to it, in a session with a configuration. -/
inductive CacheStep (config : Config) : Event → Cache → Cache → Prop
  | got (name sql : Text) (c : Cache) :
      CacheStep config (.got name sql (c.get sql).1) c (c.get sql).2
  | asked (name sql : Text) (c : Cache) :
      CacheStep config (.asked name sql (c.get sql).1) c (c.get sql).2
  | stored (name : Text) {sql : Text} {c : Cache} {q : Issued} :
      c.find? sql = none → Prepares config sql q.query →
      CacheStep config (.stored name sql q (c.push sql q).2) c (c.push sql q).1
  | overtaken (name : Text) {sql : Text} {c : Cache} {q : Issued} :
      c.find? sql = some q → CacheStep config (.overtaken name sql q) c c
  | raised (name sql : Text) (c : Cache) : CacheStep config (.raised name sql) c c
  | deleted (name sql : Text) (c : Cache) :
      CacheStep config (.deleted name sql (c.contains sql)) c (c.delete sql).2
  | cleared (name : Text) (c : Cache) : CacheStep config (.cleared name) c c.clear

/-- The cache that an event is about. -/
def Event.cache? : Event → Option Text
  | opened name _ | got name _ _ | asked name _ _ | stored name _ _ _ | overtaken name _ _
  | raised name _ | deleted name _ _ | cleared name => some name
  | prepared _ _ => none

/-- What a step does to the caches of a session. -/
inductive Effect (s s' : State) (e : Event) : Prop
  | opened {name : Text} {size : Int} {c : Cache} : e = .opened name size →
      s.caches.lookup name = none → Cache.ofSize? size = some c →
      s'.caches = putEntry name c s.caches → Effect s s' e
  | on {name : Text} {c c' : Cache} : e.cache? = some name → s.caches.lookup name = some c →
      CacheStep s.config e c c' → s'.caches = putEntry name c' s.caches → Effect s s' e
  | raised {name sql : Text} : e = .raised name sql → s'.caches = s.caches → Effect s s' e
  | prepared {sql : Text} {q : Issued} : e = .prepared sql q → Prepares s.config sql q.query →
      s'.caches = s.caches → Effect s s' e

theorem exec_issue_storeIn {s : State} {name : Text} {c : Cache}
    (h : s.caches.lookup name = some c) (sql : Text) (p : Prepared) :
    ∃ events, (issue p >>= storeIn name sql).exec s =
      (.ok (c.store sql ⟨s.nextSerial, p⟩).1, { s with
        caches := putEntry name (c.store sql ⟨s.nextSerial, p⟩).2.1 s.caches
        nextSerial := s.nextSerial + 1
        events := events }) := by
  rw [exec_bind, exec_issue]
  exact ⟨_, exec_storeIn (s := { s with nextSerial := s.nextSerial + 1 }) h sql _⟩

/-- **A step keeps the configuration, and does to the caches what its event says.** -/
theorem Step.effect {m m' : Moment} {e : Event} (h : Step m e m') :
    m'.state.config = m.state.config ∧ Effect m.state m'.state e := by
  cases h with
  | opened hnone h =>
    unfold openCache at h
    split at h
    · next c hsize =>
      obtain ⟨-, rfl⟩ := Prod.mk.inj h
      exact ⟨rfl, .opened rfl hnone hsize rfl⟩
    · simp at h
  | got h =>
    obtain ⟨c, hc⟩ := lookup_of_exec_ok h
    rw [exec_cached? hc] at h
    obtain ⟨hq, rfl⟩ := Prod.mk.inj h
    obtain rfl := Except.ok.inj hq
    exact ⟨rfl, .on rfl hc (.got ..) rfl⟩
  | hit h | missed h =>
    obtain ⟨c, hc⟩ := lookup_of_exec_ok h
    rw [exec_cached? hc] at h
    obtain ⟨hq, rfl⟩ := Prod.mk.inj h
    refine ⟨rfl, .on rfl hc ?_ rfl⟩
    rw [← Except.ok.inj hq]
    exact .asked ..
  | stored hc hfind hp h =>
    obtain ⟨events, hexec⟩ := exec_issue_storeIn hc _ _
    rw [hexec, store_of_find?_none hfind] at h
    obtain ⟨hq, rfl⟩ := Prod.mk.inj h
    obtain rfl := Except.ok.inj hq
    exact ⟨rfl, .on rfl hc (.stored _ hfind hp) rfl⟩
  | overtaken hc hfind hp h =>
    obtain ⟨events, hexec⟩ := exec_issue_storeIn hc _ _
    rw [hexec, store_of_find?_some hfind] at h
    obtain ⟨hq, rfl⟩ := Prod.mk.inj h
    obtain rfl := Except.ok.inj hq
    exact ⟨rfl, .on rfl hc (.overtaken _ hfind) rfl⟩
  | raised => exact ⟨rfl, .raised rfl rfl⟩
  | deleted h =>
    obtain ⟨c, hc⟩ := lookup_of_exec_ok h
    rw [exec_deleteFrom hc] at h
    obtain ⟨hfound, rfl⟩ := Prod.mk.inj h
    obtain rfl := Except.ok.inj hfound
    exact ⟨rfl, .on rfl hc (.deleted ..) rfl⟩
  | cleared h =>
    obtain ⟨c, hc⟩ := lookup_of_exec_ok h
    rw [exec_clearCache hc] at h
    obtain ⟨-, rfl⟩ := Prod.mk.inj h
    exact ⟨rfl, .on rfl hc (.cleared ..) rfl⟩
  | prepared hp h =>
    obtain ⟨hq, rfl⟩ := Prod.mk.inj h
    obtain rfl := Except.ok.inj hq
    exact ⟨rfl, .prepared rfl hp rfl⟩

theorem Run.config_eq {m m' : Moment} {log : List Event} (h : Run m log m') :
    m'.state.config = m.state.config := by
  induction h with
  | refl => rfl
  | step _ hstep ih => exact hstep.effect.1.trans ih
  | aside _ haside ih => exact haside.config.trans ih

/-! ## What a step does to one cache -/

section

variable {s s' : State} {e : Event} {name : Text} {c c' : Cache}

/-- An event at an open cache does its step to it, and any other event leaves it as it is. -/
theorem Effect.of_open (h : Effect s s' e) (hc : s.caches.lookup name = some c) :
    ∃ c', s'.caches.lookup name = some c' ∧
      (e.cache? = some name ∧ CacheStep s.config e c c' ∨ e.cache? ≠ some name ∧ c' = c) := by
  cases h with
  | @opened name' size c' he hnone hsize hs =>
    have hne : name ≠ name' := by
      rintro rfl
      simp [hc] at hnone
    refine ⟨c, by simp [hs, hne, hc], .inr ⟨?_, rfl⟩⟩
    simpa [he, Event.cache?] using hne.symm
  | @on name' c₀ c₁ he hc₀ hstep hs =>
    by_cases hname : name = name'
    · subst hname
      obtain rfl := Option.some.inj (hc.symm.trans hc₀)
      exact ⟨c₁, by simp [hs], .inl ⟨he, hstep⟩⟩
    · refine ⟨c, by simp [hs, hname, hc], .inr ⟨?_, rfl⟩⟩
      simpa [he] using Ne.symm hname
  | @raised name' sql he hs =>
    subst he
    refine ⟨c, hs ▸ hc, ?_⟩
    by_cases hname : name = name'
    · exact .inl ⟨hname ▸ rfl, .raised name' sql c⟩
    · exact .inr ⟨by simpa [Event.cache?] using Ne.symm hname, rfl⟩
  | prepared he _ hs =>
    subst he
    exact ⟨c, hs ▸ hc, .inr ⟨nofun, rfl⟩⟩

/-- A cache that was not open before an event is opened by it. -/
theorem Effect.of_new (h : Effect s s' e) (hnone : s.caches.lookup name = none)
    (hc : s'.caches.lookup name = some c) :
    ∃ size, e = .opened name size ∧ Cache.ofSize? size = some c := by
  cases h with
  | @opened name' size c' he _ hsize hs =>
    rw [hs, lookup_putEntry] at hc
    split at hc
    · next hname => exact ⟨size, hname ▸ he, hc ▸ hsize⟩
    · simp [hnone] at hc
  | @on name' c₀ c₁ _ hc₀ _ hs =>
    rw [hs, lookup_putEntry] at hc
    split at hc
    · next hname => simp [← hname, hnone] at hc₀
    · simp [hnone] at hc
  | raised _ hs | prepared _ _ hs => simp [hs, hnone] at hc

end

/-- A cache that is open stays open. -/
theorem Run.lookup_isSome {m m' : Moment} {log : List Event} (h : Run m log m') {name : Text}
    (hopen : (m.state.caches.lookup name).isSome) :
    (m'.state.caches.lookup name).isSome := by
  induction h with
  | refl => exact hopen
  | step _ hstep ih =>
    obtain ⟨c, hc⟩ := Option.isSome_iff_exists.mp ih
    obtain ⟨c', hc', -⟩ := hstep.effect.2.of_open hc
    exact Option.isSome_iff_exists.mpr ⟨c', hc'⟩
  | aside _ haside ih => exact haside.caches ▸ ih

/-- A call that has not ended is at an open cache. -/
theorem Run.lookup_isSome_of_mem_calls {config : Config} {log : List Event} {m : Moment}
    (h : Run ⟨.initial config, []⟩ log m) {call : Text × Text} (hcall : call ∈ m.calls) :
    (m.state.caches.lookup call.1).isSome := by
  induction h with
  | refl => contradiction
  | @step m' m'' _ _ hrun hstep ih =>
    by_cases hbefore : call ∈ m'.calls
    · exact hstep.run.lookup_isSome (ih hbefore)
    · cases hstep with
      | @missed s s' calls name sql hexec =>
        obtain rfl : call = (name, sql) :=
          (List.mem_cons.mp hcall).resolve_right hbefore
        obtain ⟨c, hc⟩ := lookup_of_exec_ok hexec
        exact (Step.missed hexec).run.lookup_isSome (Option.isSome_iff_exists.mpr ⟨c, hc⟩)
      | stored | overtaken | raised => exact absurd (List.mem_cons_of_mem _ hcall) hbefore
      | _ => exact absurd hcall hbefore
  | aside _ haside ih => exact haside.caches ▸ ih hcall

/-- A cache at which something happened is open. -/
theorem Run.lookup_isSome_of_mem {config : Config} {log : List Event} {m : Moment}
    (h : Run ⟨.initial config, []⟩ log m) {e : Event} (he : e ∈ log) {name : Text}
    (hat : e.cache? = some name) : (m.state.caches.lookup name).isSome := by
  induction h with
  | refl => contradiction
  | @step m' m'' _ e' hrun hstep ih =>
    obtain he | he := List.mem_append.mp he
    · exact hstep.run.lookup_isSome (ih he)
    · obtain rfl := List.mem_singleton.mp he
      cases hstep.effect.2 with
      | opened he _ _ hs =>
        subst he
        obtain rfl := Option.some.inj hat
        simp [hs]
      | on hat' _ _ hs =>
        obtain rfl := Option.some.inj (hat.symm.trans hat')
        simp [hs]
      | raised he hs =>
        subst he
        obtain rfl := Option.some.inj hat
        cases hstep with
        | raised => exact hrun.lookup_isSome_of_mem_calls List.mem_cons_self
      | prepared he =>
        subst he
        contradiction
  | aside _ haside ih => exact haside.caches ▸ ih he

/-- **Invariants of one cache.** What holds of a new cache, at which nothing happened before, and is
kept by the steps at the cache and the events elsewhere, holds of the cache after every run of a
session. -/
theorem Run.cache_invariant_of_new {config : Config} {name : Text} {P : List Event → Cache → Prop}
    (new : ∀ {log size c}, (∀ e ∈ log, e.cache? ≠ some name) → Cache.ofSize? size = some c →
      P (log ++ [.opened name size]) c)
    (step : ∀ {log e c c'}, e.cache? = some name → CacheStep config e c c' → P log c →
      P (log ++ [e]) c')
    (other : ∀ {log e c}, e.cache? ≠ some name → P log c → P (log ++ [e]) c)
    {log : List Event} {m : Moment} (h : Run ⟨.initial config, []⟩ log m) {c : Cache}
    (hc : m.state.caches.lookup name = some c) : P log c := by
  induction h generalizing c with
  | refl => simp [State.initial] at hc
  | @step m' _ log e hrun hstep ih =>
    have hconfig : m'.state.config = config := hrun.config_eq
    cases hbefore : m'.state.caches.lookup name with
    | none =>
      obtain ⟨size, rfl, hsize⟩ := hstep.effect.2.of_new hbefore hc
      refine new (fun e he hat => ?_) hsize
      have hopen := hrun.lookup_isSome_of_mem he hat
      simp [hbefore] at hopen
    | some c₀ =>
      obtain ⟨c', hc', hcase⟩ := hstep.effect.2.of_open hbefore
      obtain rfl := Option.some.inj (hc.symm.trans hc')
      obtain ⟨hat, hcache⟩ | ⟨hother, rfl⟩ := hcase
      · exact step hat (hconfig ▸ hcache) (ih hbefore)
      · exact other hother (ih hbefore)
  | aside _ haside ih => exact ih (haside.caches ▸ hc)

/-- An invariant of one cache that holds of a new cache whatever happened before. -/
theorem Run.cache_invariant {config : Config} {name : Text} {P : List Event → Cache → Prop}
    (new : ∀ {log size c}, Cache.ofSize? size = some c → P (log ++ [.opened name size]) c)
    (step : ∀ {log e c c'}, e.cache? = some name → CacheStep config e c c' → P log c →
      P (log ++ [e]) c')
    (other : ∀ {log e c}, e.cache? ≠ some name → P log c → P (log ++ [e]) c)
    {log : List Event} {m : Moment} (h : Run ⟨.initial config, []⟩ log m) {c : Cache}
    (hc : m.state.caches.lookup name = some c) : P log c :=
  h.cache_invariant_of_new (fun _ => new) step other hc

end Session

end NamedSql
