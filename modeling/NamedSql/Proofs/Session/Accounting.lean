import Mathlib.Data.List.DropRight
import NamedSql.Proofs.Query.Factoring
import NamedSql.Proofs.Session.Caching
import NamedSql.Proofs.Session.Calls

/-!
# The statistics of a cache

Two laws relate the statistics of a cache to what happened to it since it was opened or cleared.
Every lookup that was started is a hit or a miss. Every query that was stored is still there, or was
evicted, or was deleted.

A call that misses stores its query later, and what happens in between may store, evict and delete
queries and may clear the cache. The laws hold all the time because each of them counts events that
change the cache in one step: the start of a call, and the moment in which a query is stored.

These events belong to calls. The lookups that start in a call are the calls of `get` and
`getOrPrepare` that start in it, itself and those inside it, one by one (`Call.Makes.starts`). So
between two calls of a program the laws speak of the calls that were made since the cache was
cleared (`Successive.counts`).

**Theorem (`cache_accounting`).** Every cache keeps distinct texts, at most as many as it was opened
for, with what is prepared for them under the configuration of the session, and the two laws hold.
-/

namespace NamedSql

namespace Session

/-! ## What is counted -/

namespace Event

/-- Whether a lookup in a cache starts with an event, by `get` or by `getOrPrepare`. -/
def starts (name : Text) : Event → Bool
  | got cache _ _ | asked cache _ _ => cache = name
  | _ => false

/-- The cache and the text of the lookup that starts with an event. -/
def start? : Event → Option (Text × Text)
  | got cache sql _ | asked cache sql _ => some (cache, sql)
  | _ => none

def stores (name : Text) : Event → Bool
  | stored cache _ _ _ => cache = name
  | _ => false

/-- Whether a query is deleted from a cache, by a call that finds it. -/
def deletes (name : Text) : Event → Bool
  | deleted cache _ found => cache = name && found
  | _ => false

/-- Whether the statistics of a cache start anew. -/
def resets (name : Text) : Event → Bool
  | opened cache _ | cleared cache => cache = name
  | _ => false

/-- The events since the statistics of a cache started anew. -/
def since (name : Text) (log : List Event) : List Event := log.rtakeWhile (!·.resets name)

variable {name : Text} {e : Event} {log : List Event}

theorem since_of_resets (h : e.resets name) : since name (log ++ [e]) = [] := by
  simp [since, h]

theorem since_append_of_not_resets {log' : List Event} (h : ∀ e ∈ log', e.resets name = false) :
    since name (log ++ log') = since name log ++ log' := by
  unfold since List.rtakeWhile
  rw [List.reverse_append, List.takeWhile_append_of_pos (by simpa using h), List.reverse_append,
    List.reverse_reverse]

theorem since_of_not_resets (h : e.resets name = false) :
    since name (log ++ [e]) = since name log ++ [e] :=
  since_append_of_not_resets (List.forall_mem_singleton.mpr h)

@[simp] theorem start?_asked (cache sql : Text) (found : Option Issued) :
    (asked cache sql found).start? = some (cache, sql) := rfl

theorem countP_start? :
    (log.filterMap start?).countP (·.1 = name) = log.countP (starts name) := by
  rw [List.countP_filterMap]
  congr 1
  funext e
  cases e <;> rfl

/-- An event elsewhere counts for nothing. -/
theorem counts_of_cache?_ne (h : e.cache? ≠ some name) :
    e.starts name = false ∧ e.stores name = false ∧ e.deletes name = false ∧
      e.resets name = false := by
  cases e <;> simp_all [cache?, starts, stores, deletes, resets]

end Event

/-! ## The laws -/

/-- The two laws for a cache, after the events since its statistics started anew. -/
structure Counts (name : Text) (recent : List Event) (c : Cache) : Prop where
  lookups : c.stats.lookups = recent.countP (Event.starts name)
  stored : recent.countP (Event.stores name) =
    c.size + c.stats.evictions + recent.countP (Event.deletes name)

/-- What one event must do to a cache for the laws to go on. -/
structure Balanced (name : Text) (e : Event) (c c' : Cache) : Prop where
  lookups : c'.stats.lookups = c.stats.lookups + (e.starts name).toNat
  stored : c.size + c.stats.evictions + (e.stores name).toNat =
    c'.size + c'.stats.evictions + (e.deletes name).toNat

variable {config : Config} {name : Text} {e : Event} {c c' : Cache}

theorem Counts.nil (hentries : c.entries = []) (hstats : c.stats = .zero) :
    Counts name [] c := by
  constructor <;> simp [Cache.size, Stats.lookups, hentries, hstats, Stats.zero]

theorem Counts.append {recent : List Event} (hc : Counts name recent c)
    (he : Balanced name e c c') : Counts name (recent ++ [e]) c' := by
  have count_append (p : Event → Bool) :
      (recent ++ [e]).countP p = recent.countP p + (p e).toNat := by
    cases h : p e <;> simp [h]
  have hlookups := he.lookups
  have hstored := he.stored
  constructor
  · rw [count_append, hlookups, hc.lookups]
  · have hlaw := hc.stored
    rw [count_append, count_append]
    omega

theorem Balanced.refl (hstarts : e.starts name = false) (hstores : e.stores name = false)
    (hdeletes : e.deletes name = false) : Balanced name e c c := by
  constructor <;> simp [hstarts, hstores, hdeletes]

section

variable {sql : Text}

theorem Balanced.get (hstarts : e.starts name) (hstores : e.stores name = false)
    (hdeletes : e.deletes name = false) (hc : c.keys.Nodup) :
    Balanced name e c (c.get sql).2 := by
  have hsize : (c.get sql).2.size = c.size := (Cache.get_entries_perm hc).length_eq
  constructor
  · rw [hstarts]
    unfold Cache.get
    split <;> simp [Stats.lookups] <;> omega
  · rw [hsize, hstores, hdeletes]
    unfold Cache.get
    split <;> rfl

theorem Balanced.push {q : Issued} {evicted : Option Text} :
    Balanced name (.stored name sql q evicted) c (c.push sql q).1 := by
  obtain ⟨-, hpush⟩ | ⟨_, rest, hes, -, hpush⟩ := c.push_cases sql q <;> rw [hpush]
  · constructor <;> simp [Event.starts, Event.stores, Event.deletes, Cache.size, Stats.lookups]
    omega
  · constructor <;>
      simp [Event.starts, Event.stores, Event.deletes, Cache.size, Stats.lookups, hes]
    omega

theorem Balanced.delete (hc : c.keys.Nodup) :
    Balanced name (.deleted name sql (c.contains sql)) c (c.delete sql).2 := by
  have hstats : (c.delete sql).2.stats = c.stats := rfl
  constructor
  · rfl
  · cases hfind : c.find? sql with
    | none =>
      have hsame : (c.delete sql).2.size = c.size :=
        congrArg List.length (dropEntry_eq_self (not_mem_keys hfind))
      simp [Event.stores, Event.deletes, Cache.contains, hfind, hsame, hstats]
    | some q =>
      have hsize : c.size = (c.delete sql).2.size + 1 := (perm_dropEntry hfind hc).length_eq
      simp [Event.stores, Event.deletes, Cache.contains, hfind, hsize, hstats]
      omega

end

/-- Every step at a cache is balanced, except the one that starts its statistics anew. -/
theorem CacheStep.balanced (h : CacheStep config e c c') (hat : e.cache? = some name)
    (hresets : e.resets name = false) (hc : c.keys.Nodup) : Balanced name e c c' := by
  cases h <;> obtain rfl := Option.some.inj hat
  case got | asked => exact .get (by simp [Event.starts]) rfl rfl hc
  case stored => exact .push
  case overtaken | raised => exact .refl rfl rfl rfl
  case deleted => exact .delete hc
  case cleared => simp [Event.resets] at hresets

theorem CacheStep.counts {log : List Event} (h : CacheStep config e c c')
    (hat : e.cache? = some name) (hsound : Sound config c)
    (hc : Counts name (Event.since name log) c) :
    Counts name (Event.since name (log ++ [e])) c' := by
  cases hresets : e.resets name with
  | false =>
    rw [Event.since_of_not_resets hresets]
    exact hc.append (h.balanced hat hresets hsound.nodup)
  | true =>
    rw [Event.since_of_resets hresets]
    cases h
    case cleared => exact .nil rfl rfl
    all_goals simp [Event.resets] at hresets

/-! ## Runs -/

theorem Run.counts {log : List Event} {m : Moment} (h : Run ⟨.initial config, []⟩ log m)
    (hc : m.state.caches.lookup name = some c) : Counts name (Event.since name log) c := by
  -- That a lookup or a deletion is balanced takes the texts to be distinct.
  suffices hboth : Sound config c ∧ Counts name (Event.since name log) c from hboth.2
  refine h.cache_invariant (P := fun log c =>
    Sound config c ∧ Counts name (Event.since name log) c) ?_ ?_ ?_ hc
  · intro log size c hsize
    obtain ⟨-, hentries, hstats⟩ := Cache.ofSize?_eq_some hsize
    rw [Event.since_of_resets (by simp [Event.resets])]
    exact ⟨.of_entries_nil hentries, .nil hentries hstats⟩
  · rintro log e c c' hat hstep ⟨hsound, hcounts⟩
    exact ⟨hstep.sound hsound, hstep.counts hat hsound hcounts⟩
  · rintro log e c hother ⟨hsound, hcounts⟩
    obtain ⟨hstarts, hstores, hdeletes, hresets⟩ := Event.counts_of_cache?_ne hother
    rw [Event.since_of_not_resets hresets]
    exact ⟨hsound, hcounts.append (.refl hstarts hstores hdeletes)⟩

/-- A cache stays open at the size it was opened for. -/
theorem Run.opened {size : Int} {log : List Event} {m₀ m : Moment} (h : Run m₀ log m)
    (hopened : .opened name size ∈ log) :
    ∃ c, m.state.caches.lookup name = some c ∧ (c.maxSize : Int) = size := by
  induction h with
  | refl => contradiction
  | step _ hstep ih =>
    obtain hbefore | hlast := List.mem_append.mp hopened
    · obtain ⟨c, hc, hsize⟩ := ih hbefore
      obtain ⟨c', hc', ⟨-, hcache⟩ | ⟨-, rfl⟩⟩ := hstep.effect.2.of_open hc
      · exact ⟨c', hc', hcache.maxSize_eq ▸ hsize⟩
      · exact ⟨c', hc', hsize⟩
    · obtain rfl := List.mem_singleton.mp hlast
      cases hstep.effect.2 with
      | opened he _ hsize hs =>
        obtain ⟨rfl, rfl⟩ := Event.opened.inj he
        exact ⟨_, by simp [hs], (Cache.ofSize?_eq_some hsize).1⟩
      | on _ _ hcache => nomatch hcache
      | raised he => contradiction
      | prepared he => contradiction
  | aside _ haside ih => exact haside.caches ▸ ih hopened

/-! ## Calls -/

/-! Of the events of a call, those that start a lookup are the calls that are started, in order. -/

section

variable {started : List (Text × Text)} {log : List Event} {cache sql : Text}

theorem Ending.start?_eq {r : Except Failure Issued} (h : Ending cache sql r e) :
    e.start? = none := by
  cases h <;> rfl

theorem Ending.resets_eq {r : Except Failure Issued} (h : Ending cache sql r e) :
    e.resets name = false := by
  cases h <;> rfl

theorem Lookups.starts {asked : Text → Text → Prop} (h : Lookups asked started log) :
    log.filterMap Event.start? = started := by
  induction h with
  | nil => rfl
  | hit _ _ ih => simp [ih]
  | missed _ _ hend _ ihinner ih => simp [hend.start?_eq, ihinner, ih]

theorem Lookups.resets {asked : Text → Text → Prop} (h : Lookups asked started log) :
    ∀ e ∈ log, e.resets name = false := by
  induction h with
  | nil => exact nofun
  | hit _ _ ih => exact List.forall_mem_cons.mpr ⟨rfl, ih⟩
  | missed _ _ hend _ ihinner ih =>
    refine List.forall_mem_cons.mpr ⟨rfl, List.forall_mem_append.mpr ⟨ihinner, ?_⟩⟩
    exact List.forall_mem_cons.mpr ⟨hend.resets_eq, ih⟩

variable {asked : Text → Text → Prop} {s : State} {r : Except Failure Issued}

theorem Asking.starts (h : Asking asked s cache sql r started log) :
    log.filterMap Event.start? = started := by
  cases h with
  | unopened | hit => rfl
  | missed hinner hend => simp [hend.start?_eq, hinner.starts]

theorem Asking.resets (h : Asking asked s cache sql r started log) :
    ∀ e ∈ log, e.resets name = false := by
  cases h with
  | unopened => exact nofun
  | hit => exact List.forall_mem_singleton.mpr rfl
  | missed hinner hend =>
    refine List.forall_mem_cons.mpr ⟨rfl, List.forall_mem_append.mpr ⟨hinner.resets, ?_⟩⟩
    exact List.forall_mem_singleton.mpr hend.resets_eq

end

namespace Call

/-- Whether a call clears a cache. -/
def clears (name : Text) : Call → Bool
  | clear cache => cache = name
  | _ => false

variable {s : State} {call : Call} {r : Except Failure (Option (Text × Issued))}
  {started : List (Text × Text)} {log : List Event}

theorem Makes.starts (h : call.Makes s r started log) :
    log.filterMap Event.start? = started := by
  cases h with
  | got | deleted | cleared | unopened => rfl
  | asked h => exact h.starts
  | prepared h =>
    rw [List.filterMap_append, h.starts]
    exact List.append_nil started
  | beside _ _ h => exact h.starts

theorem Makes.resets (h : call.Makes s r started log) (hclears : call.clears name = false) :
    ∀ e ∈ log, e.resets name = false := by
  cases h with
  | got | deleted => exact List.forall_mem_singleton.mpr rfl
  | asked h => exact h.resets
  | cleared => exact List.forall_mem_singleton.mpr hclears
  | prepared h =>
    exact List.forall_mem_append.mpr ⟨h.resets, List.forall_mem_singleton.mpr rfl⟩
  | unopened => exact nofun
  | beside _ _ h => exact h.resets

theorem Makes.log_of_clears (h : call.Makes s r started log) (hclears : call.clears name)
    (hopen : (s.caches.lookup name).isSome) : log = [.cleared name] := by
  cases call with
  | clear cache =>
    obtain rfl : cache = name := of_decide_eq_true hclears
    cases h with
    | cleared => rfl
    | unopened hcache hnone =>
      rw [Option.some.inj hcache, hnone] at hopen
      contradiction
    | beside hcache => contradiction
  | _ => contradiction

end Call

/-- The calls that are made since one of them cleared a cache. -/
def sinceClear (name : Text) (mades : List Made) : List Made :=
  mades.rtakeWhile (!·.call.clears name)

section

variable {mades : List Made} {m m' : Moment}

/-- The statistics of a cache start anew between calls, and never inside a call. -/
theorem Successive.since {log : List Event} (h : Successive m mades m')
    (hopen : (m.state.caches.lookup name).isSome) (hlog : Event.since name log = []) :
    Event.since name (log ++ mades.flatMap Made.log) =
      (sinceClear name mades).flatMap Made.log := by
  induction h with
  | refl =>
    rw [List.flatMap_nil, List.append_nil, hlog]
    rfl
  | @step m' m'' mades made hmades hleads ih =>
    rw [List.flatMap_append, List.flatMap_singleton, ← List.append_assoc]
    cases hclears : made.call.clears name with
    | true =>
      rw [hleads.makes.log_of_clears hclears (hmades.run.lookup_isSome hopen),
        Event.since_of_resets (by simp [Event.resets])]
      simp [sinceClear, hclears]
    | false =>
      rw [Event.since_append_of_not_resets (hleads.makes.resets hclears), ih]
      simp [sinceClear, hclears]

theorem Successive.starts (h : Successive m mades m') {recent : List Made}
    (hrecent : recent ⊆ mades) :
    (recent.flatMap Made.log).filterMap Event.start? = recent.flatMap Made.started := by
  rw [List.filterMap_flatMap]
  refine List.flatMap_congr fun made hmade => ?_
  obtain ⟨s, hmakes⟩ := h.mem_makes made (hrecent hmade)
  exact hmakes.starts

/-- The lookups in a cache since it was cleared are the calls that were started at it. -/
theorem Successive.countP_starts (h : Successive m mades m') :
    ((sinceClear name mades).flatMap Made.log).countP (Event.starts name) =
      ((sinceClear name mades).flatMap Made.started).countP (·.1 = name) := by
  have hrecent : sinceClear name mades ⊆ mades := (List.rtakeWhile_suffix ..).subset
  rw [← h.starts hrecent, Event.countP_start?]

/-- **The laws for calls** that are made after a cache is opened. -/
theorem Successive.counts {log : List Event} {m₀ : Moment} {size : Int}
    (hrun : Run ⟨.initial config, []⟩ log m₀) (hopened : Step m₀ (.opened name size) m)
    (h : Successive m mades m') (hc : m'.state.caches.lookup name = some c) :
    Counts name ((sinceClear name mades).flatMap Made.log) c := by
  have hcounts := ((Run.step hrun hopened).trans h.run).counts hc
  have hsome := (Run.step hrun hopened).lookup_isSome_of_mem
    (List.mem_append_right _ List.mem_cons_self) rfl
  rwa [h.since hsome (Event.since_of_resets (by simp [Event.resets]))] at hcounts

end

theorem exists_opened (name : Text) {size : Int} (hsize : 1 ≤ size) {s : State}
    (hnew : s.caches.lookup name = none) (calls : List (Text × Text)) :
    ∃ s', Step ⟨s, calls⟩ (.opened name size) ⟨s', calls⟩ := by
  have hpos : 0 < size := hsize
  exact ⟨_, .opened hnew (exec_openCache (by simp [Cache.ofSize?, hpos]; rfl))⟩

/-- **Caches keep what they should, and their statistics account for it.** Every list of calls can
be made from every moment. Calls that are made one after the other make a run with the events of
all, of which those that start a lookup are the calls that are started, in order; and wherever they
are interrupted they have made a run. A cache of any positive size can be opened. After every run,
in the middle of calls too, each cache that was opened keeps distinct texts, at most as many as its
size, with queries for them that have the configuration of the session; since it was opened or
cleared, its hits and misses are the lookups that were started, and the queries that were stored are
those it has, those it evicted and those that were deleted. After calls that are made when it is
opened, these lookups are the calls of `get` and `getOrPrepare` that were started at it since it was
cleared, inside other calls too. -/
theorem cache_accounting :
    (∀ calls m, ∃ mades, mades.map Made.call = calls ∧
      Successive m mades ⟨Call.after calls m.state, m.calls⟩) ∧
    (∀ m mades m', Successive m mades m' →
      (mades.flatMap Made.log).filterMap Event.start? = mades.flatMap Made.started ∧
      ∀ before after, mades.flatMap Made.log = before ++ after →
        ∃ m₁, Run m before m₁ ∧ Run m₁ after m') ∧
    (∀ (name : Text) (size : Int), 1 ≤ size → ∀ s calls, s.caches.lookup name = none →
      ∃ s', Step ⟨s, calls⟩ (.opened name size) ⟨s', calls⟩) ∧
    (∀ config log m, Run ⟨.initial config, []⟩ log m →
      ∀ name size, .opened name size ∈ log → ∃ c : Cache,
        m.state.caches.lookup name = some c ∧ (c.maxSize : Int) = size ∧
        c.keys.Nodup ∧ (c.size : Int) ≤ size ∧
        (∀ e ∈ c.entries, e.2.query.rawSql = e.1 ∧ e.2.query.config = config) ∧
        c.stats.hits + c.stats.misses =
          (Event.since name log).countP (Event.starts name) ∧
        (Event.since name log).countP (Event.stores name) =
          c.size + c.stats.evictions + (Event.since name log).countP (Event.deletes name)) ∧
    ∀ config log m₀, Run ⟨.initial config, []⟩ log m₀ →
      ∀ name size m, Step m₀ (.opened name size) m → ∀ mades m', Successive m mades m' →
        ∃ c : Cache, m'.state.caches.lookup name = some c ∧
          c.stats.hits + c.stats.misses =
            ((sinceClear name mades).flatMap Made.started).countP (·.1 = name) ∧
          ((sinceClear name mades).flatMap Made.log).countP (Event.stores name) =
            c.size + c.stats.evictions +
              ((sinceClear name mades).flatMap Made.log).countP (Event.deletes name) := by
  refine ⟨exists_successive,
    fun m mades m' h => ⟨h.starts (List.Subset.refl mades), fun before after => h.run.split⟩,
    fun name size hsize s calls hnew => exists_opened name hsize hnew calls, ?_, ?_⟩
  · intro config log m hrun name size hopened
    obtain ⟨c, hc, hsize⟩ := hrun.opened hopened
    have hsound := hrun.sound hc
    have hcounts := hrun.counts hc
    refine ⟨c, hc, hsize, hsound.nodup, ?_, fun e he => ?_, hcounts.lookups, hcounts.stored⟩
    · rw [← hsize]
      exact Int.ofNat_le.mpr hsound.size_le
    · have hprepares := hsound.prepares e he
      exact ⟨hprepares.rawSql_eq, hprepares.config_eq⟩
  · intro config log m₀ hrun name size m hopened mades m' h
    have hall := (Run.step hrun hopened).trans h.run
    obtain ⟨c, hc, -⟩ := hall.opened (List.mem_append_left _
      (List.mem_append_right _ List.mem_cons_self))
    have hcounts := h.counts hrun hopened hc
    exact ⟨c, hc, hcounts.lookups.trans h.countP_starts, hcounts.stored⟩

/-- In a cache of size one, a call asks for a text again while it prepares that text. Another text
is stored after it and deleted. These are three calls that miss, one of them inside another. -/
theorem cache_accounting_reentrant :
    ∃ m mades m', ∃ c : Cache, Step ⟨.initial .default, []⟩ (.opened ['c'] 1) m ∧
      Successive m mades m' ∧
      mades.map Made.call =
        [.getOrPrepare ['c'] ":a".toList [.requester ['c'] ":a".toList []],
          .getOrPrepare ['c'] ":b".toList [], .delete ['c'] ":b".toList] ∧
      m'.state.caches.lookup ['c'] = some c ∧ c.keys.Nodup ∧ c.size = 0 ∧ c.stats = ⟨0, 3, 1⟩ ∧
      ((sinceClear ['c'] mades).flatMap Made.started).countP (·.1 = ['c']) = 3 ∧
      ((sinceClear ['c'] mades).flatMap Made.log).countP (Event.stores ['c']) =
        1 + ((sinceClear ['c'] mades).flatMap Made.log).countP (Event.deletes ['c']) := by
  let s : State := ((openCache ['c'] 1).exec (.initial .default)).2
  let calls : List Call :=
    [.getOrPrepare ['c'] ":a".toList [.requester ['c'] ":a".toList []],
      .getOrPrepare ['c'] ":b".toList [], .delete ['c'] ":b".toList]
  have hopened : Step ⟨.initial .default, []⟩ (.opened ['c'] 1) ⟨s, []⟩ := .opened rfl rfl
  obtain ⟨mades, hcalls, hmades⟩ := cache_accounting.1 calls ⟨s, []⟩
  obtain ⟨c, hc, hlookups, hstored⟩ := cache_accounting.2.2.2.2 .default [] _ (.refl _) ['c'] 1 _
    hopened mades _ hmades
  obtain ⟨m₁, hbefore, hafter⟩ :=
    (cache_accounting.2.1 _ _ _ hmades).2 _ [] (List.append_nil _).symm
  obtain ⟨c', hc', -, hnodup, -⟩ := cache_accounting.2.2.2.1 .default _ _
    (hopened.run.trans (hbefore.trans hafter)) ['c'] 1 List.mem_cons_self
  obtain rfl := Option.some.inj (hc.symm.trans hc')
  have hend : ((Call.after calls s).caches.lookup ['c']).map (fun c => (c.size, c.stats)) =
      some (0, ⟨0, 3, 1⟩) := by decide +kernel
  rw [hc] at hend
  obtain ⟨hsize, hstats⟩ := Prod.mk.inj (Option.some.inj hend)
  rw [hstats] at hlookups
  rw [hsize, hstats, Nat.zero_add] at hstored
  exact ⟨_, mades, _, c, hopened, hmades, hcalls, hc, hnodup, hsize, hstats, hlookups.symm,
    hstored⟩

end Session

end NamedSql
