import NamedSql.Proofs.Session.Recency

/-!
# The query handed out last

A cache evicts the queries it has in the order of their last use, so a query that was just handed
out should be the last candidate (`Cache.Latest`). There are three ways in which a call comes by its
query. A query that is found or stored is put at the end. But a call that finds another query
under its text, when its own is prepared, gives that one and leaves it where it is (`Overtaken`).

**Theorem (`handed_out_latest`).** What `get` gives is the latest query of its cache. What
`getOrPrepare` gives is in the cache, and it is the latest one unless the call was overtaken. A call
is overtaken only if one of the sources on which it tries the query asks the same cache for the
same text. Then the query need not be the latest (`overtaken_not_latest`).

The proof splits a call by its three ends (`of_getOrPrepareWith_eq_ok`). That nobody else stores
under a text while no source asks for it is an invariant of checking (`absent_compositional`).
-/

namespace NamedSql

variable {c : Cache} {name sql : Text} {q : Issued}

/-! ## The latest query of a cache -/

namespace Cache

/-- A cache has a query under a text, and the text is the last one in its order of use. -/
structure Latest (c : Cache) (sql : Text) (q : Issued) : Prop where
  find?_eq : c.find? sql = some q
  getLast?_keys : c.keys.getLast? = some sql

theorem latest_of_entries {es : List (Text × Issued)} (hes : sql ∉ es.map Prod.fst)
    (h : c.entries = es ++ [(sql, q)]) : c.Latest sql q where
  find?_eq := by simp [find?, h, List.lookup_append, lookup_of_not_mem_keys hes]
  getLast?_keys := by simp [keys, h]

theorem latest_get (h : c.find? sql = some q) : (c.get sql).2.Latest sql q := by
  rcases Session.get_cases c sql with ⟨q', hq, hget⟩ | ⟨hnone, -⟩
  · obtain rfl : q = q' := Option.some.inj (h.symm.trans hq)
    rw [hget]
    exact latest_of_entries (Session.not_mem_keys_dropEntry sql c.entries) rfl
  · simp [h] at hnone

theorem latest_push (h : sql ∉ c.keys) : (c.push sql q).1.Latest sql q := by
  rcases c.push_cases sql q with ⟨-, hpush⟩ | ⟨oldest, rest, hes, -, hpush⟩ <;> rw [hpush]
  · exact latest_of_entries h rfl
  · refine latest_of_entries (fun hmem => h ?_) rfl
    rw [keys, hes]
    exact List.mem_cons_of_mem _ hmem

theorem mem_keys_of_mem_keys_get {key : Text} (h : key ∈ (c.get sql).2.keys) : key ∈ c.keys := by
  rcases Session.get_cases c sql with ⟨q, hq, hget⟩ | ⟨-, hget⟩ <;> rw [hget] at h
  · have hsql : sql ∈ c.keys := List.mem_map_of_mem (mem_of_lookup hq)
    simp only [keys, List.map_append, List.mem_append, List.map_singleton,
      List.mem_singleton] at h
    rcases h with h | rfl
    · exact (List.filter_sublist.map Prod.fst).subset h
    · exact hsql
  · exact h

theorem mem_keys_of_mem_keys_push {key : Text} (h : key ∈ (c.push sql q).1.keys) :
    key = sql ∨ key ∈ c.keys := by
  rcases c.push_cases sql q with ⟨-, hpush⟩ | ⟨oldest, rest, hes, -, hpush⟩ <;>
    rw [hpush] at h <;>
    simp only [keys, List.map_append, List.mem_append, List.map_singleton,
      List.mem_singleton] at h
  · exact h.symm
  · rw [keys, hes]
    exact h.symm.imp_right (List.mem_cons_of_mem _)

end Cache

namespace Session

variable {s s' : State}

/-! ## Texts that are not asked for -/

/-- A cache has no query under a text. -/
def Absent (name sql : Text) (s : State) : Prop :=
  ∀ c, s.caches.lookup name = some c → sql ∉ c.keys

theorem Absent.of_caches_eq (h : Absent name sql s) (hcaches : s'.caches = s.caches) :
    Absent name sql s' := by
  intro c hc
  exact h c (hcaches ▸ hc)

theorem Absent.putEntry (h : Absent name sql s) {cache : Text} {c : Cache}
    (hcaches : s'.caches = NamedSql.putEntry cache c s.caches)
    (hc : cache = name → sql ∉ c.keys) : Absent name sql s' := by
  intro c' hc'
  rw [hcaches, lookup_putEntry] at hc'
  by_cases hname : name = cache
  · rw [if_pos hname] at hc'
    obtain rfl := Option.some.inj hc'
    exact hc hname.symm
  · rw [if_neg hname] at hc'
    exact h c' hc'

theorem preserves_absent_cached? (cache query : Text) :
    Preserves (Absent name sql) (cached? cache query) := by
  intro s hs
  cases hc : s.caches.lookup cache with
  | none =>
    rw [exec_cached?_none hc]
    exact hs
  | some c =>
    rw [exec_cached? hc]
    refine hs.putEntry rfl fun hname hmem => ?_
    subst hname
    exact hs c hc (Cache.mem_keys_of_mem_keys_get hmem)

theorem preserves_absent_storeIn {cache query : Text} (h : ¬ (cache = name ∧ query = sql))
    (q : Issued) : Preserves (Absent name sql) (storeIn cache query q) := by
  intro s hs
  cases hc : s.caches.lookup cache with
  | none =>
    rw [exec_storeIn_none hc]
    exact hs
  | some c =>
    rw [exec_storeIn hc]
    refine hs.putEntry rfl fun hname hmem => ?_
    subst hname
    have hnot := hs c hc
    cases hfind : c.find? query with
    | some stored =>
      rw [store_of_find?_some hfind] at hmem
      exact hnot hmem
    | none =>
      rw [store_of_find?_none hfind] at hmem
      rcases Cache.mem_keys_of_mem_keys_push hmem with hsql | hmem
      · exact h ⟨rfl, hsql.symm⟩
      · exact hnot hmem

theorem sequential_absent (name sql : Text) : Sequential (Preserves (Absent name sql)) where
  pure _ _ hs := hs
  bind := .bind

theorem preserves_absent_scanned (d : Delimiter) (query : Text) :
    Preserves (Absent name sql) (scanned d query) := by
  intro s hs
  rw [exec_scanned]
  exact hs

theorem preserves_absent_prepareWith (c : Config) (isolated : Bool) (query : Text)
    (examples : Nat) {check : Prepared → Session Unit}
    (hcheck : ∀ p, Preserves (Absent name sql) (check p)) :
    Preserves (Absent name sql) (prepareWith c isolated query examples check) :=
  (sequential_absent name sql).prepareWith hcheck (preserves_absent_scanned c.delimiter query)
    (fun _ _ hs => hs.of_caches_eq rfl) isolated

/-- **A text stays out of a cache while other texts are asked for.** -/
theorem absent_compositional (name sql : Text) :
    CompositionalFor (fun cache query => ¬ (cache = name ∧ query = sql))
      (Preserves (Absent name sql)) where
  pure _ _ hs := hs
  fail _ _ hs := hs
  bind := .bind
  tryCatch := .tryCatch
  fieldMap? r isolated c s hs := by
    rw [exec_fieldMap?]
    cases isolated with
    | true => exact hs
    | false => exact hs.of_caches_eq rfl
  getOrPrepareWith cache query examples _ hquery hcheck :=
    (sequential_absent name sql).getOrPrepareWith hcheck (preserves_absent_cached? cache query)
      (fun _ hs => hs) (preserves_absent_scanned · query) (fun _ _ hs => hs.of_caches_eq rfl)
      (preserves_absent_storeIn hquery)

/-! ## How a call ends -/

/-- A call finds its query, or it prepares one and hands it to the cache. -/
theorem of_getOrPrepareWith_eq_ok {examples : Nat} {check : Prepared → Session Unit}
    (h : (getOrPrepareWith name sql examples check).exec s = (.ok q, s')) :
    (cached? name sql).exec s = (.ok (some q), s') ∨
      ∃ s₁ s₂ fresh, (cached? name sql).exec s = (.ok none, s₁) ∧
        (prepareWith s₁.config false sql examples check).exec s₁ = (.ok fresh, s₂) ∧
        (storeIn name sql fresh).exec s₂ = (.ok q, s') := by
  unfold getOrPrepareWith at h
  rw [exec_bind] at h
  rcases hcached : (cached? name sql).exec s with ⟨f | found, s₁⟩ <;> rw [hcached] at h
  · simp at h
  · cases found with
    | some q' =>
      obtain ⟨hq, rfl⟩ := Prod.mk.inj h
      obtain rfl := Except.ok.inj hq
      exact .inl rfl
    | none =>
      dsimp only at h
      rw [exec_bind, exec_config] at h
      dsimp only at h
      rw [exec_bind] at h
      rcases hprepare : (prepareWith s₁.config false sql examples check).exec s₁ with
        ⟨f | fresh, s₂⟩ <;> rw [hprepare] at h
      · simp at h
      · exact .inr ⟨s₁, s₂, fresh, rfl, hprepare, h⟩

/-- A query that is found is the latest one. -/
theorem latest_of_cached?_eq_ok (h : (cached? name sql).exec s = (.ok (some q), s')) :
    ∃ c, s'.caches.lookup name = some c ∧ c.Latest sql q := by
  obtain ⟨c, hc⟩ := lookup_of_exec_ok h
  rw [exec_cached? hc] at h
  obtain ⟨hq, rfl⟩ := Prod.mk.inj h
  refine ⟨(c.get sql).2, by simp, Cache.latest_get ?_⟩
  rw [← Cache.get_fst]
  exact Except.ok.inj hq

theorem absent_of_cached?_eq_ok (h : (cached? name sql).exec s = (.ok none, s')) :
    Absent name sql s' := by
  obtain ⟨c, hc⟩ := lookup_of_exec_ok h
  rw [exec_cached? hc] at h
  obtain ⟨hq, rfl⟩ := Prod.mk.inj h
  intro c' hc'
  obtain rfl : (c.get sql).2 = c' := by simpa using hc'
  exact not_mem_keys (find?_get_of_fst_eq_none (Except.ok.inj hq))

/-- A query is stored, and is then the latest one, or another one is found in its place. -/
theorem storeIn_cases {fresh : Issued} (h : (storeIn name sql fresh).exec s = (.ok q, s')) :
    (∃ c, s'.caches.lookup name = some c ∧ c.Latest sql q) ∨
      ∃ c, s.caches.lookup name = some c ∧ c.find? sql = some q ∧
        s'.caches.lookup name = some c := by
  obtain ⟨c, hc⟩ := lookup_of_exec_ok h
  rw [exec_storeIn hc] at h
  obtain ⟨hq, rfl⟩ := Prod.mk.inj h
  have hq := Except.ok.inj hq
  cases hfind : c.find? sql with
  | none =>
    rw [store_of_find?_none hfind] at hq
    obtain rfl : fresh = q := hq
    refine .inl ⟨(c.push sql fresh).1, ?_, Cache.latest_push (not_mem_keys hfind)⟩
    simp [store_of_find?_none hfind]
  | some stored =>
    rw [store_of_find?_some hfind] at hq
    obtain rfl : stored = q := hq
    refine .inr ⟨c, hc, hfind, ?_⟩
    simp [store_of_find?_some hfind]

/-! ## What a call hands out -/

/-- A call that finds another query stored under its text when its own is prepared, because one of
the sources on which it is tried asked for the same text. It gives that query and leaves the cache
as preparing left it. -/
structure Overtaken (name sql : Text) (examples : List Source) (s : State) (q : Issued)
    (s' : State) : Prop where
  requested : ∃ x ∈ examples, Requests name sql x
  found : ∃ s₁ s₂ fresh c, (cached? name sql).exec s = (.ok none, s₁) ∧
    (prepare s₁.config false sql examples).exec s₁ = (.ok fresh, s₂) ∧
    s₂.caches.lookup name = some c ∧ c.find? sql = some q ∧ s'.caches.lookup name = some c

/-- **A query that is handed out is the latest one of its cache**, unless another call for the same
text overtook the one that hands it out. -/
theorem handed_out_latest (s s' : State) (name sql : Text) (q : Issued) :
    ((cached? name sql).exec s = (.ok (some q), s') →
      ∃ c, s'.caches.lookup name = some c ∧ c.Latest sql q) ∧
    ∀ examples, (getOrPrepare name sql examples).exec s = (.ok q, s') →
      ∃ c, s'.caches.lookup name = some c ∧ c.find? sql = some q ∧
        (c.Latest sql q ∨ Overtaken name sql examples s q s') := by
  refine ⟨latest_of_cached?_eq_ok, fun examples h => ?_⟩
  rcases of_getOrPrepareWith_eq_ok h with hcached | ⟨s₁, s₂, fresh, hcached, hprepare, hstore⟩
  · obtain ⟨c, hc, hlatest⟩ := latest_of_cached?_eq_ok hcached
    exact ⟨c, hc, hlatest.find?_eq, .inl hlatest⟩
  · rcases storeIn_cases hstore with ⟨c, hc, hlatest⟩ | ⟨c, hc, hfind, hc'⟩
    · exact ⟨c, hc, hlatest.find?_eq, .inl hlatest⟩
    · refine ⟨c, hc', hfind, .inr ⟨?_, s₁, s₂, fresh, c, hcached, hprepare, hc, hfind, hc'⟩⟩
      by_contra hnone
      have hcheck (p : Prepared) : Preserves (Absent name sql)
          (checkAll p.config.resolver p.isolated p.names p.rawSql examples) := by
        refine (absent_compositional name sql).checkAll _ _ _ _ _ fun x hx cache query hasked => ?_
        rintro ⟨rfl, rfl⟩
        exact hnone ⟨x, hx, hasked⟩
      have habsent := preserves_absent_prepareWith s₁.config false sql examples.length hcheck s₁
        (absent_of_cached?_eq_ok hcached)
      rw [hprepare] at habsent
      have hsome := lookup_of_not_mem_keys (habsent c hc)
      rw [← NamedSql.Cache.find?, hfind] at hsome
      contradiction

/-- A source asks for another text while the query is prepared. -/
theorem handed_out_latest_other_text :
    ∃ s s' q c, (getOrPrepare ['c'] ":a".toList [.requester ['c'] ":b".toList []]).exec s =
        (.ok q, s') ∧
      s'.caches.lookup ['c'] = some c ∧ c.Latest ":a".toList q := by
  let s : State := ((openCache ['c'] 2).exec (.initial .default)).2
  let examples : List Source := [.requester ['c'] ":b".toList []]
  have hok : ((getOrPrepare ['c'] ":a".toList examples).exec s).1.isOk = true := by decide +kernel
  rcases hcall : (getOrPrepare ['c'] ":a".toList examples).exec s with ⟨f | q, s'⟩
  · rw [hcall] at hok
    contradiction
  · have hnone : ∀ x ∈ examples, ¬ Requests ['c'] ":a".toList x := by
      intro x hx hrequests
      obtain rfl := List.mem_singleton.1 hx
      cases hrequests with
      | inner hx => contradiction
    obtain ⟨c, hc, -, hlatest | hovertaken⟩ :=
      (handed_out_latest s s' ['c'] ":a".toList q).2 examples hcall
    · exact ⟨s, s', q, c, hcall, hc, hlatest⟩
    · obtain ⟨x, hx, hrequests⟩ := hovertaken.requested
      exact absurd hrequests (hnone x hx)

/-- **A query that is handed out may be the first candidate for eviction.** Of the sources on which
it is tried, the first one asks for the same text and the second one for another. -/
theorem overtaken_not_latest :
    ∃ s s' q c, (openCache ['c'] 2).exec (.initial .default) = (.ok (), s) ∧
      (getOrPrepare ['c'] ":a".toList
        [.requester ['c'] ":a".toList [], .requester ['c'] ":b".toList []]).exec s = (.ok q, s') ∧
      s'.caches.lookup ['c'] = some c ∧ c.keys = [":a".toList, ":b".toList] ∧
      ¬ c.Latest ":a".toList q := by
  let s : State := ((openCache ['c'] 2).exec (.initial .default)).2
  let examples : List Source :=
    [.requester ['c'] ":a".toList [], .requester ['c'] ":b".toList []]
  have hok : ((getOrPrepare ['c'] ":a".toList examples).exec s).1.isOk = true := by decide +kernel
  have hkeys : (((getOrPrepare ['c'] ":a".toList examples).exec s).2.caches.lookup ['c']).map
      Cache.keys = some [":a".toList, ":b".toList] := by decide +kernel
  rcases hcall : (getOrPrepare ['c'] ":a".toList examples).exec s with ⟨f | q, s'⟩
  · rw [hcall] at hok
    contradiction
  · rw [hcall] at hkeys
    obtain ⟨c, hc, hkeys⟩ := Option.map_eq_some_iff.1 hkeys
    refine ⟨s, s', q, c, rfl, hcall, hc, hkeys, fun hlatest => ?_⟩
    have hlast := hlatest.getLast?_keys
    rw [hkeys] at hlast
    revert hlast
    decide

end Session

end NamedSql
