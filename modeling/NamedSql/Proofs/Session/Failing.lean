import NamedSql.Proofs.Session.Assertion
import NamedSql.Proofs.Session.Caching

/-!
# Failed calls

A call of `getOrPrepare` that misses has counted the miss before it prepares its query. Preparing
may fail at many places: at the text, at each example and at each name. Wherever it does, the cache
was not touched again, if none of the examples asks it for a query.

Such examples do not even see the cache. Whatever is put in its place, preparing gives the same and
leaves the same around it (`Disregards`). So it fails in the midst of the call as it does outside,
and the miss that is counted is all that the call leaves in the cache.

**Theorem (`failed_call_counts_miss`).** A call fails exactly if its text is not cached and
preparing fails, with the same failure, and it leaves the cache as it was but for one more miss. If
the text is cached, no example is looked at.
-/

namespace NamedSql

/-- The state with a cache put in the place of another. -/
def State.withCache (s : State) (name : Text) (c : Cache) : State :=
  { s with caches := putEntry name c s.caches }

variable {s : State} {name sql : Text} {c : Cache}

@[simp] theorem State.lookup_withCache (s : State) (name : Text) (c : Cache) :
    (s.withCache name c).caches.lookup name = some c := by
  simp [withCache]

theorem State.lookup_withCache_of_ne {cache : Text} (h : cache ≠ name) (s : State) (c : Cache) :
    (s.withCache name c).caches.lookup cache = s.caches.lookup cache := by
  simp [withCache, h]

theorem State.withCache_of_lookup (h : s.caches.lookup name = some c) : s.withCache name c = s := by
  rw [withCache, putEntry_of_lookup h]

namespace Session

variable {α β : Type}

/-! ## Computations that disregard a cache -/

/-- `m` has nothing to do with the cache of a name. Whatever cache is put there, `m` gives the same,
and leaves that cache in what is the same otherwise. -/
def Disregards (name : Text) (m : Session α) : Prop :=
  ∀ s c, (s.caches.lookup name).isSome →
    m.exec (s.withCache name c) = ((m.exec s).1, (m.exec s).2.withCache name c)

namespace Disregards

/-- The cache stays as it is. -/
theorem lookup_eq {m : Session α} (hm : Disregards name m) (hc : s.caches.lookup name = some c) :
    (m.exec s).2.caches.lookup name = some c := by
  -- The cache is put in its own place.
  have hexec := hm s c (Option.isSome_iff_exists.mpr ⟨c, hc⟩)
  rw [State.withCache_of_lookup hc] at hexec
  rw [hexec, State.lookup_withCache]

theorem lookup_isSome {m : Session α} (hm : Disregards name m)
    (hopen : (s.caches.lookup name).isSome) : ((m.exec s).2.caches.lookup name).isSome := by
  obtain ⟨c, hc⟩ := Option.isSome_iff_exists.mp hopen
  rw [hm.lookup_eq hc]
  rfl

theorem bind {m : Session α} {k : α → Session β} (hm : Disregards name m)
    (hk : ∀ a, Disregards name (k a)) : Disregards name (m >>= k) := by
  intro s c hopen
  have hstays := hm.lookup_isSome hopen
  rw [exec_bind, exec_bind, hm s c hopen]
  rcases hexec : m.exec s with ⟨f | a, s'⟩
  · rfl
  · rw [hexec] at hstays
    exact hk a s' c hstays

theorem tryCatch {m : Session α} {k : Failure → Session α} (hm : Disregards name m)
    (hk : ∀ f, Disregards name (k f)) : Disregards name (MonadExcept.tryCatch m k) := by
  intro s c hopen
  have hstays := hm.lookup_isSome hopen
  rw [exec_tryCatch, exec_tryCatch, hm s c hopen]
  rcases hexec : m.exec s with ⟨f | a, s'⟩
  · rw [hexec] at hstays
    exact hk f s' c hstays
  · rfl

theorem fieldMap? (r : Resolver) (isolated : Bool) (c : Class) :
    Disregards name (Session.fieldMap? r isolated c) := by
  intro s c hopen
  rw [exec_fieldMap?, exec_fieldMap?]
  cases isolated <;> rfl

theorem cached? {cache : Text} (hne : cache ≠ name) (sql : Text) :
    Disregards name (Session.cached? cache sql) := by
  intro s c hopen
  have hlookup := State.lookup_withCache_of_ne hne s c
  cases hc : s.caches.lookup cache with
  | none => rw [exec_cached?_none hc, exec_cached?_none (hlookup.trans hc)]
  | some c' =>
    rw [exec_cached? hc, exec_cached? (hlookup.trans hc)]
    simp only [State.withCache, putEntry_comm hne.symm hopen]

theorem storeIn {cache : Text} (hne : cache ≠ name) (sql : Text) (q : Issued) :
    Disregards name (Session.storeIn cache sql q) := by
  intro s c hopen
  have hlookup := State.lookup_withCache_of_ne hne s c
  cases hc : s.caches.lookup cache with
  | none => rw [exec_storeIn_none hc, exec_storeIn_none (hlookup.trans hc)]
  | some c' =>
    rw [exec_storeIn hc, exec_storeIn (hlookup.trans hc)]
    simp only [State.withCache, putEntry_comm hne.symm hopen]

theorem scanned (d : Delimiter) (sql : Text) : Disregards name (Session.scanned d sql) := by
  intro s c hopen
  rw [exec_scanned, exec_scanned]

theorem sequential (name : Text) : Sequential (Disregards name) where
  pure _ _ _ _ := rfl
  bind := bind

theorem compositional (name : Text) :
    CompositionalFor (fun cache _ => cache ≠ name) (Disregards name) where
  pure _ _ _ _ := rfl
  fail _ _ _ _ := rfl
  bind := bind
  tryCatch := tryCatch
  fieldMap? := fieldMap?
  getOrPrepareWith _ sql _ _ hne hcheck :=
    (sequential name).getOrPrepareWith hcheck (cached? hne sql) (fun _ _ _ => rfl) (scanned · sql)
      (fun _ _ _ _ => rfl) (storeIn hne sql)

/-- Preparing disregards a cache that no example asks for a query. -/
theorem prepare {examples : List Source}
    (h : ∀ x ∈ examples, ∀ query, ¬Requests name query x) (c : Config) (isolated : Bool)
    (sql : Text) : Disregards name (Session.prepare c isolated sql examples) := by
  refine (sequential name).prepareWith (fun p => ?_) (scanned c.delimiter sql)
    (fun _ _ _ _ => rfl) isolated
  refine (compositional name).checkAll _ _ _ _ _ fun x hx cache query hrequests => ?_
  rintro rfl
  exact h x hx query hrequests

end Disregards

/-! ## How a call goes on -/

/-- A text that is cached is found, whatever the examples are. -/
theorem exec_getOrPrepare_of_find?_some (hc : s.caches.lookup name = some c) {q : Issued}
    (hfind : c.find? sql = some q) (examples : List Source) :
    (getOrPrepare name sql examples).exec s = (.ok q, s.withCache name (c.get sql).2) := by
  unfold getOrPrepare getOrPrepareWith
  rw [exec_bind, exec_cached? hc, Cache.get_fst, hfind]
  rfl

/-- A text that is not cached is prepared where the miss is counted, and then stored. -/
theorem exec_getOrPrepare_of_find?_none (hc : s.caches.lookup name = some c)
    (hfind : c.find? sql = none) (examples : List Source) :
    (getOrPrepare name sql examples).exec s =
      (prepare s.config false sql examples >>= storeIn name sql).exec
        (s.withCache name (c.get sql).2) := by
  unfold getOrPrepare getOrPrepareWith
  rw [exec_bind, exec_cached? hc, Cache.get_fst, hfind]
  rfl

/-- Preparing fails as it does outside the call, or the query that is prepared is stored. -/
theorem getOrPrepare_cases (hc : s.caches.lookup name = some c) (hfind : c.find? sql = none)
    {examples : List Source} (h : ∀ x ∈ examples, ∀ query, ¬Requests name query x) :
    (∃ f s₁, (prepare s.config false sql examples).exec s = (.error f, s₁) ∧
      (getOrPrepare name sql examples).exec s = (.error f, s₁.withCache name (c.get sql).2)) ∨
    ∃ q s₁, (prepare s.config false sql examples).exec s = (.ok q, s₁) ∧
      ((getOrPrepare name sql examples).exec s).1 = .ok q := by
  have hopen : (s.caches.lookup name).isSome := Option.isSome_iff_exists.mpr ⟨c, hc⟩
  have hprepare := Disregards.prepare h s.config false sql s (c.get sql).2 hopen
  rw [exec_getOrPrepare_of_find?_none hc hfind, exec_bind, hprepare]
  rcases (prepare s.config false sql examples).exec s with ⟨f | q, s₁⟩
  · exact .inl ⟨f, s₁, rfl, rfl⟩
  · -- Nobody else has stored a query under the text, so storing cannot fail or find another one.
    refine .inr ⟨q, s₁, rfl, ?_⟩
    have hmissed : (c.get sql).2.find? sql = none := (c.find?_get sql sql).trans hfind
    dsimp only
    rw [exec_storeIn (State.lookup_withCache ..), store_of_find?_none hmissed]

/-- **A call that fails leaves nothing in the cache but the miss.** At an open cache, whatever is in
it, let a call ask for a text with examples that do not ask this cache. The call fails exactly if
the text is not cached and preparing the text with the examples fails, with that failure. The cache
then has what it had, in the same order, and the same counts but for one more miss. And if a text is
cached, a call for it gives the cached query, whatever the examples are, and does no more than
looking it up. -/
theorem failed_call_counts_miss (hc : s.caches.lookup name = some c) (sql : Text) :
    (∀ examples, (∀ x ∈ examples, ∀ query, ¬Requests name query x) → ∀ f,
      (((getOrPrepare name sql examples).exec s).1 = .error f ↔
        c.find? sql = none ∧ ((prepare s.config false sql examples).exec s).1 = .error f) ∧
      (((getOrPrepare name sql examples).exec s).1 = .error f →
        ((getOrPrepare name sql examples).exec s).2.caches.lookup name =
          some { c with stats := { c.stats with misses := c.stats.misses + 1 } })) ∧
    ∀ q, c.find? sql = some q → ∀ examples, (getOrPrepare name sql examples).exec s =
      (.ok q, { s with caches := putEntry name (c.get sql).2 s.caches }) := by
  refine ⟨fun examples h f => ?_, fun q hfind => exec_getOrPrepare_of_find?_some hc hfind⟩
  cases hfind : c.find? sql with
  | some q =>
    rw [exec_getOrPrepare_of_find?_some hc hfind]
    simp
  | none =>
    obtain ⟨f', s₁, hprepare, hcall⟩ | ⟨q, s₁, hprepare, hcall⟩ := getOrPrepare_cases hc hfind h
    · rw [hprepare, hcall, Cache.get_of_find?_none hfind]
      exact ⟨by simp, fun _ => State.lookup_withCache ..⟩
    · rw [hprepare, hcall]
      simp

/-- An example has no value for a name, and the text of another call is cached. -/
theorem failed_call_counts_miss_example :
    let b : Prepared := ⟨⟨[':', 'b'], [.placeholder ['b'] 0 1 [':', 'b']]⟩, .default, false⟩
    let c : Cache := ⟨2, [([':', 'b'], ⟨0, b⟩)], ⟨0, 1, 0⟩, by decide⟩
    let s : State := { State.initial .default with caches := [(['c'], c)], nextSerial := 1 }
    ((getOrPrepare ['c'] [':', 'a'] [.absent]).exec s).1 =
        .error (missingParameter ['a'] none (some [':', 'a'])) ∧
      ((getOrPrepare ['c'] [':', 'a'] [.absent]).exec s).2.caches.lookup ['c'] =
        some { c with stats := ⟨0, 2, 0⟩ } ∧
      ((getOrPrepare ['c'] [':', 'b'] [.absent]).exec s).1 = .ok ⟨0, b⟩ := by
  intro b c s
  have hc : s.caches.lookup ['c'] = some c := rfl
  have hexamples : ∀ x ∈ [Source.absent], ∀ query, ¬Requests ['c'] query x := by
    simp only [List.forall_mem_singleton]
    rintro query ⟨⟩
  have hscan : scan Config.default.delimiter [':', 'a'] = _ :=
    scan_placeholder (by simp) (List.forall_mem_singleton.mpr rfl)
  have hprepare : (prepare s.config false [':', 'a'] [.absent]).exec s =
      (.error (missingParameter ['a'] none (some [':', 'a'])), s) :=
    exec_prepareWith_error hscan rfl
  obtain ⟨hfails, hkept⟩ := (failed_call_counts_miss hc [':', 'a']).1 [.absent] hexamples
    (missingParameter ['a'] none (some [':', 'a']))
  have hcall := hfails.mpr ⟨rfl, congrArg Prod.fst hprepare⟩
  have hcached := (failed_call_counts_miss hc [':', 'b']).2 ⟨0, b⟩ rfl [.absent]
  exact ⟨hcall, hkept hcall, congrArg Prod.fst hcached⟩

end Session

end NamedSql
