import Mathlib.Data.Finset.Card
import Mathlib.Data.List.Chain
import NamedSql.Proofs.Session.Accounting

/-!
# The order of use

A text is used in a cache by a call of `get` or of `getOrPrepare` that gives its query. The log of a
run says when each text was last used (`lastUse`), and in a run whose calls at the cache are not
nested the cache is ordered by that: the text at the front, which is the one that is evicted, is the
one whose last use is the longest ago.

Calls are nested if an example, while a query is tried on it, asks the cache that the query is for.
Then another query may be stored in the meantime, and the outer call gives it without moving it to
the end. Hence the condition (`Unnested`).

**Order** (`CacheStep.ordered`). Each step keeps the cache ordered by the last use of its texts.

**Evictions** (`CacheStep.evicts`, `Evicts.earliest`). Only an eviction loses a text, and it takes
the one whose last use is the earliest.

**Retention** (`CacheStep.retains`). If a text is evicted, then since its last use at least as many
others were used as the cache has room for.

These three are one invariant of runs without nested calls (`Run.recency`).
-/

namespace NamedSql

namespace Session

/-! ## Uses -/

namespace Event

/-- The text that a call at a cache uses, with the query that it gives. -/
def used? (name : Text) (e : Event) : Option (Text × Issued) :=
  if e.cache? = some name then e.handedOut? else none

def uses (name sql : Text) (e : Event) : Bool := (e.used? name).any (·.1 = sql)

variable {name sql : Text} {e : Event} {q : Issued}

theorem used?_of_cache?_eq (h : e.cache? = some name) : e.used? name = e.handedOut? := if_pos h

theorem used?_of_cache?_ne (h : e.cache? ≠ some name) : e.used? name = none := if_neg h

theorem cache?_of_used? (h : e.used? name = some (sql, q)) : e.cache? = some name := by
  by_contra hne
  rw [used?_of_cache?_ne hne] at h
  contradiction

theorem uses_of_used? (h : e.used? name = some (sql, q)) (k : Text) :
    e.uses name k = decide (sql = k) := by simp [uses, h]

theorem not_uses_of_used?_none (h : e.used? name = none) (k : Text) : e.uses name k = false := by
  simp [uses, h]

end Event

/-- The texts that are used in a cache, in order. -/
def usedTexts (name : Text) (log : List Event) : List Text :=
  log.filterMap fun e => (e.used? name).map Prod.fst

/-- When a text was last used: the number of events up to this use, or zero if there is none. -/
def lastUse (name : Text) (log : List Event) (sql : Text) : Nat :=
  (log.rdropWhile (!·.uses name sql)).length

section

variable {name sql : Text} {e : Event} {log before after : List Event}

theorem mem_usedTexts : sql ∈ usedTexts name log ↔ ∃ e ∈ log, e.uses name sql := by
  simp [usedTexts, Event.uses, Option.any_eq_true]

theorem usedTexts_append {log' : List Event} :
    usedTexts name (log ++ log') = usedTexts name log ++ usedTexts name log' :=
  List.filterMap_append

theorem lastUse_append_of_uses (h : e.uses name sql) :
    lastUse name (log ++ [e]) sql = log.length + 1 := by
  simp [lastUse, h]

theorem lastUse_append_of_not_uses (h : e.uses name sql = false) :
    lastUse name (log ++ [e]) sql = lastUse name log sql := by
  simp [lastUse, h]

theorem lastUse_le_length : lastUse name log sql ≤ log.length :=
  (List.rdropWhile_prefix ..).length_le

theorem lastUse_le_append : lastUse name log sql ≤ lastUse name (log ++ [e]) sql := by
  cases he : e.uses name sql with
  | true =>
    rw [lastUse_append_of_uses he]
    exact lastUse_le_length.trans (Nat.le_succ _)
  | false => rw [lastUse_append_of_not_uses he]

/-- A use is no later than the last one. -/
theorem length_lt_lastUse (h : e.uses name sql) :
    before.length < lastUse name (before ++ e :: after) sql := by
  induction after using List.reverseRecOn with
  | nil => simp [lastUse_append_of_uses h]
  | append_singleton after e' ih =>
    rw [← List.cons_append, ← List.append_assoc]
    cases he' : e'.uses name sql with
    | true =>
      rw [lastUse_append_of_uses he', List.length_append]
      omega
    | false => rwa [lastUse_append_of_not_uses he']

/-- A text whose last use comes after the first events is used by the others. -/
theorem mem_usedTexts_of_length_lt (h : before.length < lastUse name (before ++ after) sql) :
    sql ∈ usedTexts name after := by
  induction after using List.reverseRecOn with
  | nil =>
    rw [List.append_nil] at h
    exact absurd lastUse_le_length (Nat.not_le.mpr h)
  | append_singleton after e ih =>
    rw [← List.append_assoc] at h
    cases he : e.uses name sql with
    | true => exact mem_usedTexts.mpr ⟨e, by simp, he⟩
    | false =>
      rw [lastUse_append_of_not_uses he] at h
      rw [usedTexts_append]
      exact List.mem_append_left _ (ih h)

end

/-! ## Calls that are not nested -/

/-- Whether an event is the end of a call of `getOrPrepare` that missed at its start. -/
def Event.ends (name sql : Text) : Event → Bool
  | stored cache text _ _ | overtaken cache text _ | raised cache text =>
    cache = name && text = sql
  | _ => false

def eventsAt (name : Text) (log : List Event) : List Event := log.filter (·.cache? = some name)

/-- What may come next at a cache: after a call that misses its end, and an end only there. -/
def Follows (name : Text) (e e' : Event) : Prop :=
  ∀ sql, e = .asked name sql none ↔ e'.ends name sql

/-- No call is made at a cache in the middle of another one. -/
def Unnested (name : Text) (log : List Event) : Prop := (eventsAt name log).IsChain (Follows name)

section

variable {name : Text} {e : Event} {log log' : List Event}

theorem eventsAt_append : eventsAt name (log ++ log') = eventsAt name log ++ eventsAt name log' :=
  List.filter_append ..

theorem eventsAt_singleton (h : e.cache? = some name) : eventsAt name [e] = [e] := by
  simp [eventsAt, h]

theorem eventsAt_singleton_of_ne (h : e.cache? ≠ some name) : eventsAt name [e] = [] := by
  simp [eventsAt, h]

theorem Unnested.of_append (h : Unnested name (log ++ log')) : Unnested name log := by
  unfold Unnested at h
  rw [eventsAt_append] at h
  exact h.left_of_append

theorem Unnested.follows (h : Unnested name (log ++ [e])) (hat : e.cache? = some name) {e' : Event}
    (hlast : (eventsAt name log).getLast? = some e') : Follows name e' e := by
  unfold Unnested at h
  rw [eventsAt_append, eventsAt_singleton hat] at h
  exact (List.isChain_append.mp h).2.2 e' hlast e rfl

end

/-! ## What a step does to the order -/

section

variable {c : Cache} {sql : Text}

theorem get_cases (c : Cache) (sql : Text) :
    (∃ q, c.find? sql = some q ∧ c.get sql = (some q, { c with
        entries := dropEntry sql c.entries ++ [(sql, q)]
        stats := { c.stats with hits := c.stats.hits + 1 } })) ∨
      c.find? sql = none ∧
        c.get sql = (none, { c with stats := { c.stats with misses := c.stats.misses + 1 } }) := by
  cases hfind : c.find? sql with
  | some q => exact .inl ⟨q, rfl, Cache.get_of_find?_some hfind⟩
  | none => exact .inr ⟨rfl, Cache.get_of_find?_none hfind⟩

theorem find?_get_of_fst_eq_none (h : (c.get sql).1 = none) :
    (c.get sql).2.find? sql = none := by
  rwa [Cache.find?_get, ← Cache.get_fst]

theorem not_mem_keys_dropEntry (sql : Text) (es : List (Text × Issued)) :
    sql ∉ (dropEntry sql es).map Prod.fst := by
  intro hmem
  obtain ⟨e, he, rfl⟩ := List.mem_map.mp hmem
  simp [dropEntry] at he

end

variable {config : Config} {name : Text} {e : Event} {c c' : Cache}

/-- At a cache a text that is used goes to the end, and other events at most take texts away. The
end of a call that finds another query stored is an exception. -/
theorem CacheStep.keys_cases (h : CacheStep config e c c') (hat : e.cache? = some name)
    (hovertaken : ∀ sql q, e ≠ .overtaken name sql q) :
    (∃ sql q kept, e.used? name = some (sql, q) ∧ kept.Sublist c.keys ∧ sql ∉ kept ∧
      c'.keys = kept ++ [sql]) ∨ e.used? name = none ∧ c'.keys.Sublist c.keys := by
  rw [Event.used?_of_cache?_eq hat]
  cases h with
  | got name' sql | asked name' sql =>
    obtain ⟨q, -, hget⟩ | ⟨-, hget⟩ := get_cases c sql <;> rw [hget]
    · refine .inl ⟨sql, q, (dropEntry sql c.entries).map Prod.fst, rfl, ?_, ?_, ?_⟩
      · exact List.filter_sublist.map Prod.fst
      · exact not_mem_keys_dropEntry sql c.entries
      · simp [Cache.keys]
    · exact .inr ⟨rfl, .refl _⟩
  | @stored _ sql _ q hfind =>
    have hnew : sql ∉ c.keys := not_mem_keys hfind
    obtain ⟨-, hpush⟩ | ⟨oldest, rest, hes, -, hpush⟩ := c.push_cases sql q <;> rw [hpush]
    · exact .inl ⟨sql, q, c.keys, rfl, .refl _, hnew, by simp [Cache.keys]⟩
    · refine .inl ⟨sql, q, rest.map Prod.fst, rfl, ?_, ?_, by simp [Cache.keys]⟩
      · simp [Cache.keys, hes]
      · rw [Cache.keys, hes] at hnew
        exact fun hmem => hnew (List.mem_cons_of_mem _ hmem)
  | @overtaken name' sql _ q =>
    obtain rfl := Option.some.inj hat
    exact absurd rfl (hovertaken sql q)
  | raised => exact .inr ⟨rfl, .refl _⟩
  | deleted => exact .inr ⟨rfl, List.filter_sublist.map Prod.fst⟩
  | cleared => exact .inr ⟨rfl, List.nil_sublist _⟩

/-- A cache keeps used texts, and they are ordered by their last use. -/
structure Ordered (name : Text) (log : List Event) (c : Cache) : Prop where
  used : ∀ k ∈ c.keys, 0 < lastUse name log k
  pairwise : c.keys.Pairwise fun a b => lastUse name log a < lastUse name log b

section

variable {log : List Event}

theorem Ordered.of_keys_nil (h : c.keys = []) : Ordered name log c := by
  constructor <;> simp [h]

/-- What uses no text and stores none keeps the order. -/
theorem Ordered.of_sublist (hc : Ordered name log c) (hkeys : c'.keys.Sublist c.keys)
    (he : e.used? name = none) : Ordered name (log ++ [e]) c' := by
  have hsame (k : Text) : lastUse name (log ++ [e]) k = lastUse name log k :=
    lastUse_append_of_not_uses (Event.not_uses_of_used?_none he k)
  constructor <;> simp only [hsame]
  · exact fun k hk => hc.used k (hkeys.subset hk)
  · exact hc.pairwise.sublist hkeys

/-- A text that is used goes to the end, behind texts that were used before. -/
theorem Ordered.use {sql : Text} {q : Issued} {kept : List Text} (hc : Ordered name log c)
    (hkept : kept.Sublist c.keys) (hnew : sql ∉ kept) (hkeys : c'.keys = kept ++ [sql])
    (he : e.used? name = some (sql, q)) : Ordered name (log ++ [e]) c' := by
  have hlast : lastUse name (log ++ [e]) sql = log.length + 1 :=
    lastUse_append_of_uses (by simp [Event.uses_of_used? he])
  have hsame {k : Text} (hk : k ∈ kept) : lastUse name (log ++ [e]) k = lastUse name log k := by
    refine lastUse_append_of_not_uses ?_
    rw [Event.uses_of_used? he]
    exact decide_eq_false (ne_of_mem_of_not_mem hk hnew).symm
  constructor <;> rw [hkeys]
  · intro k hk
    obtain hk | hk := List.mem_append.mp hk
    · rw [hsame hk]
      exact hc.used k (hkept.subset hk)
    · rw [List.mem_singleton.mp hk, hlast]
      exact Nat.succ_pos _
  · refine List.pairwise_append.mpr ⟨?_, List.pairwise_singleton .., fun k hk k' hk' => ?_⟩
    · refine (hc.pairwise.sublist hkept).imp_of_mem fun ha hb hlt => ?_
      rwa [hsame ha, hsame hb]
    · rw [List.mem_singleton.mp hk', hlast, hsame hk]
      exact Nat.lt_succ_of_le lastUse_le_length

theorem CacheStep.ordered (h : CacheStep config e c c') (hat : e.cache? = some name)
    (hovertaken : ∀ sql q, e ≠ .overtaken name sql q) (hc : Ordered name log c) :
    Ordered name (log ++ [e]) c' := by
  obtain ⟨sql, q, kept, hused, hkept, hnew, hkeys⟩ | ⟨hused, hkeys⟩ :=
    h.keys_cases hat hovertaken
  · exact hc.use hkept hnew hkeys hused
  · exact hc.of_sublist hkeys hused

end

/-! ## Evictions -/

/-- An event stores a new text in a full cache, and the text at the front goes for it. -/
structure Evicts (name : Text) (e : Event) (c c' : Cache) (sql old : Text) : Prop where
  stored : ∃ q, e = .stored name sql q (some old)
  full : c.size = c.maxSize
  new : sql ∉ c.keys
  keys : ∃ kept, c.keys = old :: kept ∧ c'.keys = kept ++ [sql]

/-- An event counts as an eviction, or a text is gone that it neither deletes nor clears. -/
def Loses (name : Text) (e : Event) (c c' : Cache) : Prop :=
  c.stats.evictions < c'.stats.evictions ∨
    ∃ k ∈ c.keys, k ∉ c'.keys ∧ e ≠ .deleted name k true ∧ e ≠ .cleared name

theorem not_loses_self : ¬Loses name e c c := by
  rintro (hcount | ⟨k, hk, hgone, -⟩)
  · exact Nat.lt_irrefl _ hcount
  · exact hgone hk

theorem Sound.find?_eq_some_iff (hc : Sound config c) {k : Text} {q : Issued} :
    c.find? k = some q ↔ (k, q) ∈ c.entries :=
  lookup_eq_some_iff_mem hc.nodup

/-- When a query is put into a cache and another one goes, the cache was full. -/
theorem evicts_of_push (name : Text) {sql old : Text} {q : Issued} (hc : Sound config c)
    (hnew : sql ∉ c.keys) (h : (c.push sql q).2 = some old) :
    Evicts name (.stored name sql q (c.push sql q).2) c (c.push sql q).1 sql old := by
  obtain ⟨-, hpush⟩ | ⟨oldest, rest, hes, hfull, hpush⟩ := c.push_cases sql q <;> rw [hpush] at h ⊢
  · contradiction
  · obtain rfl := Option.some.inj h
    refine ⟨⟨q, rfl⟩, Nat.le_antisymm hc.size_le hfull, hnew, ?_⟩
    exact ⟨rest.map Prod.fst, by simp [Cache.keys, hes], by simp [Cache.keys]⟩

/-- A query that a cache has stays there, unless its text is deleted, cleared or evicted. -/
theorem CacheStep.find?_cases {k : Text} {q : Issued} (h : CacheStep config e c c')
    (hat : e.cache? = some name) (hc : Sound config c) (hfind : c.find? k = some q) :
    c'.find? k = some q ∨ e = .deleted name k true ∨ e = .cleared name ∨
      ∃ sql, Evicts name e c c' sql k := by
  by_cases hremoves : e.Removes name k
  · obtain hdeleted | hcleared | ⟨sql, q', hstored⟩ := hremoves
    · exact .inr (.inl hdeleted)
    · exact .inr (.inr (.inl hcleared))
    · refine .inr (.inr (.inr ⟨sql, ?_⟩))
      cases h with
      | stored name' hnone =>
        obtain ⟨rfl, rfl, rfl, hevicted⟩ := Event.stored.inj hstored
        exact evicts_of_push name' hc (not_mem_keys hnone) hevicted
      | _ => contradiction
  · exact .inl (h.find?_kept hat hremoves hfind)

/-- Only an eviction is counted as one. -/
theorem CacheStep.evicts_of_lt (h : CacheStep config e c c') (hat : e.cache? = some name)
    (hc : Sound config c) (hcount : c.stats.evictions < c'.stats.evictions) :
    ∃ sql old, Evicts name e c c' sql old := by
  cases h with
  | got name' sql | asked name' sql =>
    obtain ⟨q, -, hget⟩ | ⟨-, hget⟩ := get_cases c sql <;> rw [hget] at hcount <;>
      exact absurd hcount (Nat.lt_irrefl _)
  | @stored name' sql _ q hfind =>
    obtain rfl := Option.some.inj hat
    obtain ⟨-, hpush⟩ | ⟨oldest, rest, -, -, hpush⟩ := c.push_cases sql q
    · rw [hpush] at hcount
      exact absurd hcount (Nat.lt_irrefl _)
    · exact ⟨sql, oldest.1, evicts_of_push name' hc (not_mem_keys hfind) (by rw [hpush])⟩
  | overtaken | raised | deleted => exact absurd hcount (Nat.lt_irrefl _)
  | cleared => exact absurd hcount (Nat.not_lt_zero _)

/-- **Nothing is lost but by an eviction.** -/
theorem CacheStep.evicts (h : CacheStep config e c c') (hat : e.cache? = some name)
    (hc : Sound config c) (hloses : Loses name e c c') :
    ∃ sql old, Evicts name e c c' sql old := by
  obtain hcount | ⟨k, hk, hgone, hdeleted, hcleared⟩ := hloses
  · exact h.evicts_of_lt hat hc hcount
  · obtain ⟨⟨k, q⟩, hmem, rfl⟩ := List.mem_map.mp hk
    obtain hkept | hdelete | hclear | ⟨sql, hevicts⟩ :=
      h.find?_cases hat hc (hc.find?_eq_some_iff.mpr hmem)
    · have hmem' := (h.sound hc).find?_eq_some_iff.mp hkept
      exact absurd (List.mem_map_of_mem hmem') hgone
    · exact absurd hdelete hdeleted
    · exact absurd hclear hcleared
    · exact ⟨sql, k, hevicts⟩

section

variable {log before after : List Event} {sql old : Text}

/-- The text that is evicted is the one whose last use is the earliest. -/
theorem Evicts.earliest (h : Evicts name e c c' sql old) (hordered : Ordered name log c) :
    ∀ k ∈ c'.keys, lastUse name (log ++ [e]) old < lastUse name (log ++ [e]) k := by
  obtain ⟨q, he⟩ := h.stored
  obtain ⟨kept, hkeys, hkeys'⟩ := h.keys
  have hused : e.used? name = some (sql, q) := by
    simp [he, Event.used?, Event.cache?, Event.handedOut?]
  -- The order among the texts before the eviction and the new one behind them.
  have hall : Ordered name (log ++ [e]) { c with entries := c.entries ++ [(sql, q)] } :=
    hordered.use (.refl _) h.new (by simp [Cache.keys]) hused
  have hpairwise := hall.pairwise
  have hlist : (Cache.keys { c with entries := c.entries ++ [(sql, q)] }) =
      old :: (kept ++ [sql]) := by
    rw [← List.cons_append, ← hkeys]
    simp [Cache.keys]
  rw [hlist] at hpairwise
  rw [hkeys']
  exact (List.pairwise_cons.mp hpairwise).1

/-- When a text is evicted, the cache is full of texts that were all used after it. -/
theorem Evicts.maxSize_le_card (h : Evicts name e c c' sql old) (hordered : Ordered name log c)
    (hnodup : c'.keys.Nodup) (hlast : before.length ≤ lastUse name log old)
    (hlog : log = before ++ after) :
    c.maxSize ≤ ((usedTexts name (after ++ [e])).toFinset.erase old).card := by
  have hearliest := h.earliest hordered
  have hlength : c'.keys.length = c.maxSize := by
    obtain ⟨kept, hkeys, hkeys'⟩ := h.keys
    have hsize : c.keys.length = c.maxSize := (List.length_map _).trans h.full
    rw [hkeys', ← hsize, hkeys, List.length_append, List.length_singleton, List.length_cons]
  rw [← hlength, ← List.toFinset_card_of_nodup hnodup]
  refine Finset.card_le_card fun k hk => ?_
  have hlater := hearliest k (List.mem_toFinset.mp hk)
  refine Finset.mem_erase.mpr ⟨?_, List.mem_toFinset.mpr ?_⟩
  · rintro rfl
    exact Nat.lt_irrefl _ hlater
  · rw [hlog, List.append_assoc] at hlater
    refine mem_usedTexts_of_length_lt ((hlast.trans ?_).trans_lt hlater)
    rw [hlog, ← List.append_assoc]
    exact lastUse_le_append

end

/-! ## What a cache keeps -/

/-- After a use the cache has the query that was given. -/
theorem CacheStep.find?_of_used? {k : Text} {q : Issued} (h : CacheStep config e c c')
    (hused : e.used? name = some (k, q)) : c'.find? k = some q := by
  rw [Event.used?_of_cache?_eq (Event.cache?_of_used? hused)] at hused
  cases h with
  | got name' sql | asked name' sql =>
    obtain ⟨q', hfound, heq⟩ := Option.map_eq_some_iff.mp hused
    obtain ⟨rfl, rfl⟩ := Prod.mk.inj heq
    rw [Cache.find?_get, ← Cache.get_fst, hfound]
  | stored name' hnone =>
    obtain ⟨rfl, rfl⟩ := Prod.mk.inj (Option.some.inj hused)
    exact Cache.find?_push_self hnone
  | overtaken name' hfind =>
    obtain ⟨rfl, rfl⟩ := Prod.mk.inj (Option.some.inj hused)
    exact hfind
  | _ => contradiction

/-- A cache has the query that a use gave, if since then its text was not deleted, the cache was not
cleared, and fewer other texts were used than it has room for. -/
def Retains (name : Text) (log : List Event) (c : Cache) : Prop :=
  ∀ before e after k q, log = before ++ e :: after → e.used? name = some (k, q) →
    .deleted name k true ∉ after → .cleared name ∉ after →
    ((usedTexts name after).toFinset.erase k).card < c.maxSize → c.find? k = some q

section

variable {log before after : List Event}

/-- The last event of a log uses a text, or the use is in the log before it. -/
theorem Retains.append (hsize : c'.maxSize = c.maxSize) (hc : Retains name log c)
    (hlast : ∀ k q, e.used? name = some (k, q) → c'.find? k = some q)
    (hkeeps : ∀ before e' after k q, log = before ++ e' :: after → e'.used? name = some (k, q) →
      e ≠ .deleted name k true → e ≠ .cleared name →
      ((usedTexts name (after ++ [e])).toFinset.erase k).card < c.maxSize →
      c.find? k = some q → c'.find? k = some q) : Retains name (log ++ [e]) c' := by
  intro before e' after k q hlog hused hdeleted hcleared hcard
  rw [hsize] at hcard
  obtain rfl | ⟨after, e'', rfl⟩ := after.eq_nil_or_concat
  · obtain ⟨-, heq⟩ := List.append_inj' hlog rfl
    obtain rfl := List.singleton_inj.mp heq
    exact hlast k q hused
  · rw [List.concat_eq_append, ← List.cons_append, ← List.append_assoc] at hlog
    obtain ⟨hinit, heq⟩ := List.append_inj' hlog rfl
    obtain rfl := List.singleton_inj.mp heq
    rw [List.concat_eq_append] at hdeleted hcleared hcard
    rw [List.mem_append, List.mem_singleton, not_or] at hdeleted hcleared
    refine hkeeps before e' after k q hinit hused (Ne.symm hdeleted.2) (Ne.symm hcleared.2) hcard ?_
    refine hc before e' after k q hinit hused hdeleted.1 hcleared.1 (lt_of_le_of_lt ?_ hcard)
    refine Finset.card_le_card (Finset.erase_subset_erase k ?_)
    rw [usedTexts_append, List.toFinset_append]
    exact Finset.subset_union_left

theorem CacheStep.retains (h : CacheStep config e c c') (hat : e.cache? = some name)
    (hsound : Sound config c) (hordered : Ordered name log c) (hc : Retains name log c) :
    Retains name (log ++ [e]) c' := by
  refine hc.append h.maxSize_eq (fun k q => h.find?_of_used?) ?_
  intro before e' after k q hlog hused hdeleted hcleared hcard hfind
  obtain hkept | hgone | hgone | ⟨sql, hevicts⟩ := h.find?_cases hat hsound hfind
  · exact hkept
  · exact absurd hgone hdeleted
  · exact absurd hgone hcleared
  · -- An eviction would have taken more uses of other texts than there were.
    have huse : e'.uses name k := by simp [Event.uses_of_used? hused]
    have hlast : (before ++ [e']).length ≤ lastUse name log k := by
      rw [hlog, List.length_append, List.length_singleton]
      exact length_lt_lastUse huse
    rw [List.append_cons] at hlog
    have hnodup := (h.sound hsound).nodup
    exact absurd (hevicts.maxSize_le_card hordered hnodup hlast hlog) (Nat.not_le.mpr hcard)

end

/-! ## Runs -/

/-- A cache in a run without nested calls: it is sound and ordered, it retains what was used, and
the text of a call that has missed and not ended is not there. -/
structure Recency (config : Config) (name : Text) (log : List Event) (c : Cache) : Prop where
  sound : Sound config c
  ordered : Ordered name log c
  retains : Retains name log c
  started : eventsAt name log ≠ []
  pending {sql : Text} :
    (eventsAt name log).getLast? = some (.asked name sql none) → c.find? sql = none

section

variable {log : List Event}

theorem Recency.opened {size : Int} (hnew : ∀ e ∈ log, e.cache? ≠ some name)
    (h : Cache.ofSize? size = some c) : Recency config name (log ++ [.opened name size]) c := by
  obtain ⟨-, hentries, -⟩ := Cache.ofSize?_eq_some h
  have hkeys : c.keys = [] := by rw [Cache.keys, hentries, List.map_nil]
  have hevents : eventsAt name (log ++ [.opened name size]) = [.opened name size] := by
    have hnil : eventsAt name log = [] :=
      List.filter_eq_nil_iff.mpr fun e he => by simpa using hnew e he
    rw [eventsAt_append, hnil, eventsAt_singleton rfl, List.nil_append]
  refine ⟨.of_entries_nil hentries, .of_keys_nil hkeys, ?_, by simp [hevents], by simp [hevents]⟩
  -- Nothing was used, so there is nothing to be retained.
  intro before e after k q hlog hused
  have hmem : e ∈ log ++ [.opened name size] := by simp [hlog]
  have hnone : e.used? name = none := by
    obtain he | he := List.mem_append.mp hmem
    · exact Event.used?_of_cache?_ne (hnew e he)
    · rw [List.mem_singleton.mp he]
      simp [Event.used?, Event.handedOut?]
  rw [hnone] at hused
  contradiction

theorem CacheStep.find?_of_missed {sql : Text} (h : CacheStep config e c c')
    (he : e = .asked name sql none) : c'.find? sql = none := by
  cases h with
  | asked name' sql' =>
    obtain ⟨-, rfl, hnone⟩ := Event.asked.inj he
    exact find?_get_of_fst_eq_none hnone
  | _ => contradiction

/-- Without nested calls no call finds another query stored at its end. -/
theorem Recency.ne_overtaken (hc : Recency config name log c) (h : CacheStep config e c c')
    (hat : e.cache? = some name) (hunnested : Unnested name (log ++ [e])) (sql : Text)
    (q : Issued) : e ≠ .overtaken name sql q := by
  rintro rfl
  have hlast := List.getLast?_eq_some_getLast hc.started
  have hmissed := (hunnested.follows hat hlast sql).mpr (by simp [Event.ends])
  rw [hmissed] at hlast
  cases h with
  | overtaken _ hfind =>
    rw [hc.pending hlast] at hfind
    contradiction

theorem Recency.step (hc : Recency config name log c) (h : CacheStep config e c c')
    (hat : e.cache? = some name) (hunnested : Unnested name (log ++ [e])) :
    Recency config name (log ++ [e]) c' := by
  have hevents : eventsAt name (log ++ [e]) = eventsAt name log ++ [e] := by
    rw [eventsAt_append, eventsAt_singleton hat]
  refine ⟨h.sound hc.sound, h.ordered hat (hc.ne_overtaken h hat hunnested) hc.ordered,
    h.retains hat hc.sound hc.ordered hc.retains, by simp [hevents], fun {sql} hlast => ?_⟩
  rw [hevents, List.getLast?_concat] at hlast
  exact h.find?_of_missed (Option.some.inj hlast)

theorem Recency.other (hc : Recency config name log c) (h : e.cache? ≠ some name) :
    Recency config name (log ++ [e]) c := by
  have hused : e.used? name = none := Event.used?_of_cache?_ne h
  have hevents : eventsAt name (log ++ [e]) = eventsAt name log := by
    rw [eventsAt_append, eventsAt_singleton_of_ne h, List.append_nil]
  refine ⟨hc.sound, hc.ordered.of_sublist (.refl _) hused, ?_, hevents ▸ hc.started, ?_⟩
  · refine hc.retains.append rfl (fun k q hk => ?_) fun _ _ _ _ _ _ _ _ _ _ hfind => hfind
    rw [hused] at hk
    contradiction
  · rw [hevents]
    exact hc.pending

theorem Run.recency {m : Moment} (h : Run ⟨.initial config, []⟩ log m)
    (hunnested : Unnested name log) (hc : m.state.caches.lookup name = some c) :
    Recency config name log c := by
  refine h.cache_invariant_of_new
    (P := fun log c => Unnested name log → Recency config name log c) ?_ ?_ ?_ hc hunnested
  · exact fun hnew hsize _ => .opened hnew hsize
  · exact fun hat hstep ih hunnested => (ih hunnested.of_append).step hstep hat hunnested
  · exact fun hother ih hunnested => (ih hunnested.of_append).other hother

end

end Session

end NamedSql
