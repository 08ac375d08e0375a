import NamedSql.Proofs.Session.Recency
import NamedSql.Proofs.Session.Resolution

/-!
# Least recently used

A call at a cache is not nested if the examples on which a query is tried leave the cache alone
(`Call.Plain`). Such a call makes a run in which it does what it gives: it notes a hit, or a miss
and how the preparation ended, and nothing else happens at the cache (`Call.Plain.logs`). So calls
that are not nested make a run that is not nested, one after the other.

**Theorem (`least_recently_used`).** In a run without nested calls a cache is ordered by last use,
it evicts only when it is full and then the text whose last use is the earliest, and it keeps the
query that a use gave as long as fewer other texts than its size are used and nobody deletes it.
-/

namespace NamedSql

namespace Session

variable {name : Text} {c : Cache}

/-! ## Calls -/

/-- `m` leaves a cache alone: it makes runs in which nothing happens at the cache. -/
def Spares (name : Text) {α : Type} (m : Session α) : Prop :=
  ∀ s calls, ∃ log, Run ⟨s, calls⟩ log ⟨(m.exec s).2, calls⟩ ∧ eventsAt name log = []

/-- A call at a cache that is not nested: the examples on which a query is tried leave the cache
alone. -/
inductive Call.Plain (name : Text) : Call → Prop
  | get (sql : Text) : Plain name (.get name sql)
  | getOrPrepare (sql : Text) {examples : List Source} :
      (∀ p : Prepared,
        Spares name (checkAll p.config.resolver p.isolated p.names p.rawSql examples)) →
      Plain name (.getOrPrepare name sql examples)
  | delete (sql : Text) : Plain name (.delete name sql)
  | contains (v : Value) : Plain name (.contains name v)
  | clear : Plain name (.clear name)

/-! Examples that ask for no query leave all caches alone. -/

section

variable (r : Resolver) (isolated : Bool) (names : List Text) (sql : Option Text)

theorem aside_bind_fieldMap? {α : Type} (c : Class) {k : Option FieldMap → Session α}
    (hk : ∀ m s, ((k m).exec s).2 = s) (s : State) :
    Aside s ((fieldMap? r isolated c >>= k).exec s).2 := by
  have haside := aside_fieldMap? r isolated c s
  rw [exec_bind]
  rcases hexec : (fieldMap? r isolated c).exec s with ⟨f | m, s'⟩ <;> rw [hexec] at haside
  · exact haside
  · exact (hk m s').symm ▸ haside

theorem aside_checkClass (c : Class) (s : State) :
    Aside s ((checkClass r isolated c names sql).exec s).2 := by
  refine aside_bind_fieldMap? r isolated c (fun m s => ?_) s
  cases m with
  | none => rfl
  | some m =>
    dsimp only
    cases names.find? (!m.contains ·) <;> rfl

theorem aside_resolve {x : Source}
    (h : ∀ cache query examples, x ≠ .requester cache query examples) (s : State) :
    Aside s ((resolve r isolated names sql x).exec s).2 := by
  rw [resolve_eq_answers h]
  split
  · exact .refl s
  · have hanswers (m : Option FieldMap) (s : State) :
        ((answersBy r m x names sql).exec s).2 = s := by rw [exec_answersBy]
    unfold answers
    split
    · exact (hanswers none s).symm ▸ .refl s
    · exact (hanswers none s).symm ▸ .refl s
    · exact aside_bind_fieldMap? r isolated _ hanswers s

theorem spares_bind_of_aside {α β : Type} {m : Session α} {k : α → Session β}
    (hm : ∀ s, Aside s (m.exec s).2) (hk : ∀ a, Spares name (k a)) : Spares name (m >>= k) := by
  intro s calls
  have haside := hm s
  rw [exec_bind]
  rcases hexec : m.exec s with ⟨f | a, s'⟩ <;> rw [hexec] at haside
  · exact ⟨[], haside.run calls, rfl⟩
  · obtain ⟨log, hrun, hlog⟩ := hk a s' calls
    exact ⟨_, (haside.run calls).trans hrun, hlog⟩

theorem spares_checkAll {examples : List Source}
    (h : ∀ x ∈ examples, ∀ cache query inner, x ≠ .requester cache query inner) :
    Spares name (checkAll r isolated names sql examples) := by
  induction examples with
  | nil => exact fun s calls => ⟨[], .refl _, rfl⟩
  | cons x examples ih =>
    rw [List.forall_mem_cons] at h
    have hrest := ih h.2
    have hresolve (s : State) : Aside s ((discard (resolve r isolated names sql x)).exec s).2 := by
      have haside := aside_resolve r isolated names sql h.1 s
      change Aside s (((fun _ => ()) <$> resolve r isolated names sql x).exec s).2
      rw [exec_map]
      rcases hexec : (resolve r isolated names sql x).exec s with ⟨f | values, s'⟩ <;>
        rw [hexec] at haside <;> exact haside
    cases x with
    | cls c => exact spares_bind_of_aside (aside_checkClass r isolated names sql c) fun _ => hrest
    | requester cache query inner => exact absurd rfl (h.1 cache query inner)
    | _ => exact spares_bind_of_aside hresolve fun _ => hrest

end

/-- What happens at a cache by a call that is not nested, and what the call gives. -/
inductive Call.Logs (name : Text) :
    Call → Except Failure (Option (Text × Issued)) → List Event → Prop
  | got (sql : Text) (found : Option Issued) :
      Logs name (.get name sql) (.ok (found.map (sql, ·))) [.got name sql found]
  | hit (sql : Text) (examples : List Source) (q : Issued) :
      Logs name (.getOrPrepare name sql examples) (.ok (some (sql, q))) [.asked name sql (some q)]
  | stored (sql : Text) (examples : List Source) (q : Issued) (evicted : Option Text) :
      Logs name (.getOrPrepare name sql examples) (.ok (some (sql, q)))
        [.asked name sql none, .stored name sql q evicted]
  | raised (sql : Text) (examples : List Source) (f : Failure) :
      Logs name (.getOrPrepare name sql examples) (.error f)
        [.asked name sql none, .raised name sql]
  | deleted (sql : Text) (found : Bool) :
      Logs name (.delete name sql) (.ok none) [.deleted name sql found]
  | contains (v : Value) (r : Except Failure (Option (Text × Issued))) :
      Logs name (.contains name v) r []
  | cleared : Logs name (.clear name) (.ok none) [.cleared name]

/-- While nothing happens at a cache it stays as it is. -/
theorem Run.lookup_eq {m m' : Moment} {log : List Event} (h : Run m log m')
    (hevents : eventsAt name log = []) (hc : m.state.caches.lookup name = some c) :
    m'.state.caches.lookup name = some c := by
  induction h with
  | refl => exact hc
  | @step m' _ _ e _ hstep ih =>
    rw [eventsAt_append, List.append_eq_nil_iff] at hevents
    obtain ⟨c', hc', ⟨hat, -⟩ | ⟨-, rfl⟩⟩ := hstep.effect.2.of_open (ih hevents.1)
    · rw [eventsAt_singleton hat] at hevents
      exact absurd hevents.2 (List.cons_ne_nil _ _)
    · exact hc'
  | aside _ haside ih => exact haside.caches ▸ ih hevents

theorem getOrPrepareWith_logs {check : Prepared → Session Unit}
    (hcheck : ∀ p, Spares name (check p)) (sql : Text) (examples : Nat) {s : State}
    (hopen : (s.caches.lookup name).isSome) (calls : List (Text × Text)) :
    ∃ log, Run ⟨s, calls⟩ log ⟨((getOrPrepareWith name sql examples check).exec s).2, calls⟩ ∧
      ((∃ q, ((getOrPrepareWith name sql examples check).exec s).1 = .ok q ∧
        (eventsAt name log = [.asked name sql (some q)] ∨ ∃ evicted,
          eventsAt name log = [.asked name sql none, .stored name sql q evicted])) ∨
      ∃ f, ((getOrPrepareWith name sql examples check).exec s).1 = .error f ∧
        eventsAt name log = [.asked name sql none, .raised name sql]) := by
  obtain ⟨c, hc⟩ := Option.isSome_iff_exists.mp hopen
  unfold getOrPrepareWith
  have hget := exec_cached? hc sql
  have hc₁ : ({ s with caches := putEntry name (c.get sql).2 s.caches } : State).caches.lookup
      name = some (c.get sql).2 := by simp
  generalize { s with caches := putEntry name (c.get sql).2 s.caches } = s₁ at hget hc₁
  rw [exec_bind, hget]
  cases hfound : (c.get sql).1 with
  | some q =>
    rw [hfound] at hget
    exact ⟨_, (Step.hit hget).run, .inl ⟨q, rfl, .inl (eventsAt_singleton rfl)⟩⟩
  | none =>
    rw [hfound] at hget
    have hnone := find?_get_of_fst_eq_none hfound
    generalize (c.get sql).2 = c₁ at hc₁ hnone
    have hmissed : Run ⟨s, calls⟩ [.asked name sql none] ⟨s₁, (name, sql) :: calls⟩ :=
      (Step.missed hget).run
    obtain ⟨log, s₂, hrun, hlog, hprep⟩ := prepareWith_run_of (Q := (eventsAt name · = [])) rfl
      hcheck sql examples s₁ ((name, sql) :: calls)
    have hc₂ := hrun.lookup_eq hlog hc₁
    have hevents (e : Event) (hat : e.cache? = some name) :
        eventsAt name ([.asked name sql none] ++ log ++ [e]) = [.asked name sql none, e] := by
      rw [eventsAt_append, eventsAt_append, hlog, eventsAt_singleton hat, eventsAt_singleton rfl]
      rfl
    dsimp only
    rw [exec_bind, exec_config]
    dsimp only
    rw [exec_bind]
    obtain ⟨f, hf⟩ | ⟨p, hp, hf⟩ := hprep <;> rw [hf]
    · refine ⟨_, .step (hmissed.trans hrun) (.raised s₂ calls name sql), .inr ⟨f, rfl, ?_⟩⟩
      exact hevents _ rfl
    · rw [← exec_bind (issue p) (storeIn name sql) s₂]
      obtain ⟨events, hexec⟩ := exec_issue_storeIn hc₂ sql p
      rw [store_of_find?_none hnone] at hexec
      have hstep : Step _ _ ⟨_, calls⟩ := .stored hc₂ hnone hp hexec
      rw [hexec]
      refine ⟨_, .step (hmissed.trans hrun) hstep, .inl ⟨_, rfl, .inr ⟨_, hevents _ rfl⟩⟩⟩

/-- **A call at an open cache that is not nested makes a run,** and what happens at the cache in it
is what the call does. -/
theorem Call.Plain.logs {call : Call} (h : call.Plain name) {s : State}
    (hopen : (s.caches.lookup name).isSome) (calls : List (Text × Text)) :
    ∃ log, Run ⟨s, calls⟩ log ⟨(call.perform.exec s).2, calls⟩ ∧
      call.Logs name (call.perform.exec s).1 (eventsAt name log) := by
  obtain ⟨c, hc⟩ := Option.isSome_iff_exists.mp hopen
  cases h with
  | get sql =>
    have hexec := exec_cached? hc sql
    have hperform : ((Call.get name sql).perform).exec s = _ :=
      exec_bind_pure (fun found : Option Issued => found.map (sql, ·)) _ s
    rw [hperform, hexec]
    refine ⟨_, (Step.got hexec).run, ?_⟩
    rw [eventsAt_singleton rfl]
    exact .got sql _
  | @getOrPrepare sql examples hspares =>
    have hperform : ((Call.getOrPrepare name sql examples).perform).exec s = _ :=
      exec_bind_pure (fun q => some (sql, q)) _ s
    rw [hperform]
    obtain ⟨log, hrun, hlog⟩ := getOrPrepareWith_logs hspares sql examples.length hopen calls
    refine ⟨log, hrun, ?_⟩
    obtain ⟨q, hq, hevents | ⟨evicted, hevents⟩⟩ | ⟨f, hf, hevents⟩ := hlog <;> rw [hevents]
    · exact (congrArg (Except.map _) hq) ▸ .hit sql examples q
    · exact (congrArg (Except.map _) hq) ▸ .stored sql examples q evicted
    · exact (congrArg (Except.map _) hf) ▸ .raised sql examples f
  | delete sql =>
    have hexec := exec_deleteFrom hc sql
    have hperform : ((Call.delete name sql).perform).exec s = _ := exec_discard_then _ s
    rw [hperform, hexec]
    refine ⟨_, (Step.deleted hexec).run, ?_⟩
    rw [eventsAt_singleton rfl]
    exact .deleted sql _
  | contains v =>
    have hperform : ((Call.contains name v).perform).exec s = _ := exec_discard_then _ s
    rw [hperform, containsIn_state]
    exact ⟨[], .refl _, .contains v _⟩
  | clear =>
    have hexec := exec_clearCache hc
    have hperform : ((Call.clear name).perform).exec s = _ := exec_discard_then _ s
    rw [hperform, hexec]
    refine ⟨_, (Step.cleared hexec).run, ?_⟩
    rw [eventsAt_singleton rfl]
    exact .cleared

/-- Events at a cache that begin and end between two calls. -/
structure Whole (name : Text) (es : List Event) : Prop where
  chain : es.IsChain (Follows name)
  first : ∀ e ∈ es.head?, ∀ sql, e.ends name sql = false
  last : ∀ e ∈ es.getLast?, ∀ sql, e ≠ .asked name sql none

theorem Whole.append {es es' : List Event} (h : Whole name es) (h' : Whole name es') :
    Whole name (es ++ es') := by
  refine ⟨h.chain.append h'.chain fun e he e' he' sql => ?_, fun e he => ?_, fun e he => ?_⟩
  · rw [h'.first e' he' sql]
    exact ⟨fun heq => absurd heq (h.last e he sql), nofun⟩
  · cases es with
    | nil => exact h'.first e he
    | cons => exact h.first e he
  · rw [List.getLast?_append] at he
    cases hlast : es'.getLast? with
    | none =>
      rw [hlast] at he
      exact h.last e he
    | some e' =>
      rw [hlast] at he
      exact h'.last e (hlast ▸ he)

theorem Call.Logs.whole {call : Call} {r : Except Failure (Option (Text × Issued))}
    {es : List Event} (h : call.Logs name r es) : Whole name es := by
  cases h <;> constructor <;> simp [Follows, Event.ends]

namespace Call

/-- The calls with what they give. -/
def replay : List Call → State → List (Call × Except Failure (Option (Text × Issued)))
  | [], _ => []
  | call :: calls, s => (call, (call.perform.exec s).1) :: replay calls (call.perform.exec s).2

/-- Calls that are not nested make a run, one after the other. -/
theorem exists_run_of_plain {calls : List Call} (h : ∀ call ∈ calls, call.Plain name) {s : State}
    (hopen : (s.caches.lookup name).isSome) :
    ∃ log chunks, Run ⟨s, []⟩ log ⟨after calls s, []⟩ ∧
      List.Forall₂ (fun answered es => answered.1.Logs name answered.2 es) (replay calls s) chunks ∧
      eventsAt name log = chunks.flatten ∧ Whole name (eventsAt name log) := by
  induction calls generalizing s with
  | nil => exact ⟨[], [], .refl _, .nil, rfl, by constructor <;> simp [eventsAt]⟩
  | cons call calls ih =>
    rw [List.forall_mem_cons] at h
    obtain ⟨log, hrun, hlogs⟩ := h.1.logs hopen []
    obtain ⟨log', chunks, hrun', hchunks, hevents, hwhole⟩ := ih h.2 (hrun.lookup_isSome hopen)
    refine ⟨log ++ log', _ :: chunks, hrun.trans hrun', .cons hlogs hchunks, ?_, ?_⟩
    · rw [eventsAt_append, hevents, List.flatten_cons]
    · rw [eventsAt_append]
      exact hlogs.whole.append hwhole

end Call

/-- **A cache keeps what was used last.** A cache of any positive size can be opened, and calls at
it that are not nested make a run that is not nested, in which they do what they give. After every
run that is not nested, in the middle of a call too, each cache is ordered by the last use of its
texts. If the next step loses a text, then it stores a new one in a full cache, and the text that
goes is the one whose last use is earlier than that of all texts that the cache has then. And a
cache has the query that a use gave for a text, if since then the text was not deleted, the cache
was not cleared, and fewer other texts were used than it has room for. -/
theorem least_recently_used (name : Text) :
    (∀ config size, 1 ≤ size → ∀ calls : List Call, (∀ call ∈ calls, call.Plain name) →
      ∃ s log chunks, (openCache name size).exec (.initial config) = (.ok (), s) ∧
        Run ⟨.initial config, []⟩ (.opened name size :: log) ⟨Call.after calls s, []⟩ ∧
        List.Forall₂ (fun answered es => answered.1.Logs name answered.2 es)
          (Call.replay calls s) chunks ∧
        eventsAt name log = chunks.flatten ∧ Unnested name (.opened name size :: log)) ∧
    ∀ config log m, Run ⟨.initial config, []⟩ log m → Unnested name log →
      ∀ size, .opened name size ∈ log → ∃ c : Cache,
        m.state.caches.lookup name = some c ∧ (c.maxSize : Int) = size ∧ Ordered name log c ∧
        (∀ e m' c', Step m e m' → Unnested name (log ++ [e]) →
          m'.state.caches.lookup name = some c' → Loses name e c c' →
          ∃ sql old, Evicts name e c c' sql old ∧
            ∀ k ∈ c'.keys, lastUse name (log ++ [e]) old < lastUse name (log ++ [e]) k) ∧
        Retains name log c := by
  constructor
  · intro config size hsize calls hcalls
    have hpos : 0 < size := hsize
    have hopened : (openCache name size).exec (.initial config) = (.ok (), _) :=
      exec_openCache (by simp [Cache.ofSize?, hpos]; rfl)
    have hstep : Step ⟨_, []⟩ _ _ := .opened rfl hopened
    obtain ⟨log, chunks, hrun, hchunks, hevents, hwhole⟩ :=
      Call.exists_run_of_plain hcalls (s := _) (hstep.run.lookup_isSome_of_mem
        List.mem_cons_self (by rfl))
    refine ⟨_, log, chunks, hopened, hstep.run.trans hrun, hchunks, hevents, ?_⟩
    have hfirst : Whole name [.opened name size] := by
      constructor <;> simp [Event.ends]
    have hall := (hfirst.append hwhole).chain
    rwa [← eventsAt_singleton (e := .opened name size) rfl, ← eventsAt_append] at hall
  · intro config log m hrun hunnested size hopened
    obtain ⟨c, hc, hsize⟩ := hrun.opened hopened
    have hrecency := hrun.recency hunnested hc
    refine ⟨c, hc, hsize, hrecency.ordered, fun e m' c' hstep hnext hc' hloses => ?_,
      hrecency.retains⟩
    obtain ⟨c₁, hc₁, ⟨hat, hcache⟩ | ⟨-, rfl⟩⟩ := hstep.effect.2.of_open hc
    · obtain rfl := Option.some.inj (hc'.symm.trans hc₁)
      have hconfig : m.state.config = config := hrun.config_eq
      rw [hconfig] at hcache
      obtain ⟨sql, old, hevicts⟩ := hcache.evicts hat hrecency.sound hloses
      exact ⟨sql, old, hevicts, hevicts.earliest hrecency.ordered⟩
    · obtain rfl := Option.some.inj (hc'.symm.trans hc₁)
      exact absurd hloses not_loses_self

/-- Two texts are asked for at a cache of size one. The first is kept until the second is stored,
which is used later. -/
theorem least_recently_used_replaced :
    (∃ log m, Run ⟨.initial .default, []⟩ (.opened ['c'] 1 :: log) m ∧
      Unnested ['c'] (.opened ['c'] 1 :: log)) ∧
    ∃ log e m m', Run ⟨.initial .default, []⟩ log m ∧ Step m e m' ∧ ∃ c c' : Cache,
      m.state.caches.lookup ['c'] = some c ∧ m'.state.caches.lookup ['c'] = some c' ∧
        (c.find? [':', 'a']).isSome ∧ ∃ sql old, Evicts ['c'] e c c' sql old ∧
          ∀ k ∈ c'.keys, lastUse ['c'] (log ++ [e]) old < lastUse ['c'] (log ++ [e]) k := by
  obtain ⟨a, ha⟩ : ∃ a, Prepares .default [':', 'a'] a :=
    ⟨_, _, scan_placeholder (by simp) (List.forall_mem_singleton.mpr rfl), rfl⟩
  obtain ⟨b, hb⟩ : ∃ b, Prepares .default [':', 'b'] b :=
    ⟨_, _, scan_placeholder (by simp) (List.forall_mem_singleton.mpr rfl), rfl⟩
  have hspares (p : Prepared) :
      Spares ['c'] (checkAll p.config.resolver p.isolated p.names p.rawSql [.absent]) :=
    spares_checkAll _ _ _ _ (by simp)
  obtain ⟨_, log, _, -, hrun, -, -, hunnested⟩ := (least_recently_used ['c']).1 .default 1
    (by decide) [.getOrPrepare ['c'] [':', 'a'] [.absent], .get ['c'] [':', 'a']]
    (by simp [Call.Plain.getOrPrepare _ hspares, Call.Plain.get])
  refine ⟨⟨log, _, hrun, hunnested⟩, ?_⟩
  have hopened : Run ⟨.initial .default, []⟩ ([] ++ [.opened ['c'] 1]) ⟨_, []⟩ :=
    .step (.refl _) (.opened rfl rfl)
  have hasked : Run _ (_ ++ [.asked ['c'] [':', 'a'] none]) _ := .step hopened (.missed rfl)
  have hstored : Run _ (_ ++ [.stored ['c'] [':', 'a'] ⟨0, a⟩ _]) _ :=
    .step hasked (.stored rfl rfl ha rfl)
  have hnext : Run _ (_ ++ [.asked ['c'] [':', 'b'] none])
      ⟨⟨.default, [], [(['c'], ⟨1, [([':', 'a'], ⟨0, a⟩)], ⟨0, 2, 0⟩, Nat.one_pos⟩)], 1, []⟩,
        [(['c'], [':', 'b'])]⟩ := .step hstored (.missed rfl)
  obtain ⟨c, hc, -, -, hevicts, hretains⟩ := (least_recently_used ['c']).2 _ _ _ hnext
    (by simp [Unnested, eventsAt, Event.cache?, Follows, Event.ends]) 1 (by simp)
  have hkept : c.find? [':', 'a'] = some ⟨0, a⟩ :=
    hretains [_, _] _ [_] _ _ rfl rfl (by simp) (by simp) (Option.some.inj hc ▸ Nat.one_pos)
  refine ⟨_, _, _, _, hnext, .stored rfl rfl hb rfl, c, _, hc, rfl, by simp [hkept],
    hevicts _ _ _ (.stored rfl rfl hb rfl) ?_ rfl (.inl ?_)⟩
  · simp [Unnested, eventsAt, Event.cache?, Follows, Event.ends]
  · obtain rfl := Option.some.inj hc
    exact Nat.one_pos

end Session

end NamedSql
