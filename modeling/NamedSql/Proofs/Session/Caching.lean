import NamedSql.Proofs.Session.Run

/-!
# What caches keep

A cache keeps at most one query for a text, no more queries than its size, and each of them is what
is prepared for its text (`Cache.Sound`). The order of the entries is of no account here, so a query
that is looked up only permutes them.

**Theorem (`Run.sound`).** After every run of a session every cache is sound.
-/

namespace NamedSql

/-! ## Entries -/

section

variable {α : Type} {key : Text} {es : List (Text × α)}

theorem dropEntry_eq_self (h : key ∉ es.map Prod.fst) : dropEntry key es = es := by
  refine List.filter_eq_self.mpr fun e he => decide_eq_true ?_
  rintro rfl
  exact h (List.mem_map_of_mem he)

theorem lookup_dropEntry (key name : Text) (es : List (Text × α)) :
    (dropEntry key es).lookup name = if name = key then none else es.lookup name := by
  induction es with
  | nil => simp [dropEntry]
  | cons e es ih =>
    unfold dropEntry at ih ⊢
    grind

theorem perm_dropEntry {v : α} (h : es.lookup key = some v) (hnodup : (es.map Prod.fst).Nodup) :
    es.Perm ((key, v) :: dropEntry key es) := by
  obtain ⟨l₁, l₂, rfl, -⟩ := List.lookup_eq_some_iff.mp h
  rw [List.map_append, List.map_cons] at hnodup
  have hnot := (List.nodup_cons.mp (List.perm_middle.nodup_iff.mp hnodup)).1
  have hdrop : dropEntry key (l₁ ++ (key, v) :: l₂) = dropEntry key (l₁ ++ l₂) := by
    simp [dropEntry]
  rw [hdrop, dropEntry_eq_self (by simpa using hnot)]
  exact List.perm_middle

end

namespace Cache

variable {c : Cache} {sql : Text}

theorem ofSize?_eq_some {size : Int} (h : ofSize? size = some c) :
    (c.maxSize : Int) = size ∧ c.entries = [] ∧ c.stats = .zero := by
  unfold ofSize? at h
  split at h
  · obtain rfl := Option.some.inj h
    exact ⟨Int.toNat_of_nonneg (by omega), rfl, rfl⟩
  · contradiction

theorem get_fst : (c.get sql).1 = c.find? sql := by
  unfold get
  split <;> simp [*]

theorem get_of_find?_some {q : Issued} (h : c.find? sql = some q) : c.get sql = (some q, { c with
    entries := dropEntry sql c.entries ++ [(sql, q)]
    stats := { c.stats with hits := c.stats.hits + 1 } }) := by
  simp [get, h]

theorem get_of_find?_none (h : c.find? sql = none) :
    c.get sql = (none, { c with stats := { c.stats with misses := c.stats.misses + 1 } }) := by
  simp [get, h]

theorem get_maxSize : (c.get sql).2.maxSize = c.maxSize := by
  unfold get
  split <;> rfl

/-- A lookup permutes the entries. -/
theorem get_entries_perm (h : c.keys.Nodup) : (c.get sql).2.entries.Perm c.entries := by
  unfold get
  split
  · next q hfound =>
    exact (List.perm_append_singleton _ _).trans (perm_dropEntry hfound h).symm
  · exact .refl _

/-- A query is put behind those that the cache has, or behind all of them but the first. -/
theorem push_cases (c : Cache) (sql : Text) (q : Issued) :
    c.size < c.maxSize ∧ c.push sql q = ({ c with entries := c.entries ++ [(sql, q)] }, none) ∨
      ∃ oldest rest, c.entries = oldest :: rest ∧ c.maxSize ≤ c.size ∧
        c.push sql q = ({ c with
          entries := rest ++ [(sql, q)]
          stats := { c.stats with evictions := c.stats.evictions + 1 } }, some oldest.1) := by
  have hpos := c.maxSize_pos
  rcases hes : c.entries with _ | ⟨oldest, rest⟩
  · left
    simp [push, size, hes, hpos, Nat.not_lt.mpr hpos]
  · rcases Nat.lt_or_ge c.size c.maxSize with hlt | hge
    · left
      have hfits : ¬c.maxSize < rest.length + 2 := by
        simp only [size, hes, List.length_cons] at hlt
        omega
      simp [push, hes, hlt, hfits]
    · right
      have hfull : c.maxSize < rest.length + 2 := by
        simp only [size, hes, List.length_cons] at hge
        omega
      exact ⟨oldest, rest, rfl, hge, by simp [push, hes, hfull]⟩

/-! What is found under a text after an operation. -/

theorem find?_get (c : Cache) (sql key : Text) : (c.get sql).2.find? key = c.find? key := by
  cases hfind : c.find? sql with
  | none => rw [get_of_find?_none hfind, find?, find?]
  | some q =>
    rw [get_of_find?_some hfind, find?, List.lookup_append, lookup_dropEntry]
    by_cases hkey : key = sql
    · simp [hkey, hfind]
    · rw [if_neg hkey, List.lookup_cons, beq_false_of_ne hkey]
      simp [find?]

theorem find?_push_self {q : Issued} (h : c.find? sql = none) :
    (c.push sql q).1.find? sql = some q := by
  obtain ⟨-, hpush⟩ | ⟨oldest, rest, hes, -, hpush⟩ := c.push_cases sql q <;> rw [hpush, find?]
  · rw [List.lookup_append, ← find?, h]
    simp
  · rw [find?, hes, List.lookup_cons] at h
    split at h
    · contradiction
    · rw [List.lookup_append, h]
      simp

/-- A query stays when another one is put there, unless it is evicted. -/
theorem find?_push_of_ne {key : Text} {q q' : Issued} (hkey : (c.push sql q).2 ≠ some key)
    (h : c.find? key = some q') : (c.push sql q).1.find? key = some q' := by
  obtain ⟨-, hpush⟩ | ⟨oldest, rest, hes, -, hpush⟩ := c.push_cases sql q <;>
    rw [hpush] at hkey ⊢ <;> rw [find?, List.lookup_append]
  · rw [← find?, h]
    rfl
  · have hne : key ≠ oldest.1 := fun heq => hkey (congrArg some heq.symm)
    rw [find?, hes, List.lookup_cons, beq_false_of_ne hne] at h
    have hrest : rest.lookup key = some q' := h
    rw [hrest]
    rfl

theorem find?_delete (c : Cache) (sql key : Text) :
    (c.delete sql).2.find? key = if key = sql then none else c.find? key :=
  lookup_dropEntry ..

end Cache

namespace Session

/-! ## The invariant -/

/-- A cache under a configuration keeps distinct texts, no more than its size, and under each text
what is prepared for it. -/
structure Sound (config : Config) (c : Cache) : Prop where
  nodup : c.keys.Nodup
  size_le : c.size ≤ c.maxSize
  prepares : ∀ e ∈ c.entries, Prepares config e.1 e.2.query

variable {config : Config} {c c' : Cache}

theorem Sound.of_entries_nil (h : c.entries = []) : Sound config c := by
  constructor <;> simp [Cache.keys, Cache.size, h]

theorem Sound.of_perm (hc : Sound config c) (hmax : c'.maxSize = c.maxSize)
    (h : c'.entries.Perm c.entries) : Sound config c' where
  nodup := (h.map Prod.fst).nodup_iff.mpr hc.nodup
  size_le := by
    rw [Cache.size, h.length_eq, hmax]
    exact hc.size_le
  prepares e he := hc.prepares e (h.mem_iff.mp he)

theorem Sound.of_sublist (hc : Sound config c) (hmax : c'.maxSize = c.maxSize)
    (h : c'.entries.Sublist c.entries) : Sound config c' where
  nodup := (h.map Prod.fst).nodup hc.nodup
  size_le := by
    rw [hmax]
    exact Nat.le_trans h.length_le hc.size_le
  prepares e he := hc.prepares e (h.subset he)

theorem Sound.append {sql : Text} {q : Issued} (hc : Sound config c)
    (hmax : c'.maxSize = c.maxSize) (h : c'.entries = c.entries ++ [(sql, q)])
    (hnew : sql ∉ c.keys) (hfits : c.size < c.maxSize)
    (hq : Prepares config sql q.query) : Sound config c' where
  nodup := by
    rw [Cache.keys, h, List.map_append]
    have hsingle : ([(sql, q)].map Prod.fst).Nodup := by simp
    refine List.nodup_append.mpr ⟨hc.nodup, hsingle, fun a ha b hb => ?_⟩
    obtain rfl : b = sql := by simpa using hb
    exact ne_of_mem_of_not_mem ha hnew
  size_le := by
    simp only [Cache.size, h, hmax, List.length_append, List.length_singleton]
    exact hfits
  prepares e he := by
    rw [h, List.mem_append, List.mem_singleton] at he
    obtain he | rfl := he
    · exact hc.prepares e he
    · exact hq

theorem Sound.push {sql : Text} {q : Issued} (hc : Sound config c) (hnew : sql ∉ c.keys)
    (hq : Prepares config sql q.query) : Sound config (c.push sql q).1 := by
  obtain ⟨hlt, hpush⟩ | ⟨oldest, rest, hes, -, hpush⟩ := c.push_cases sql q <;> rw [hpush]
  · exact hc.append rfl rfl hnew hlt hq
  · -- The query is appended to a cache that the oldest one has left already.
    have hrest : Sound config { c with entries := rest } :=
      hc.of_sublist rfl (hes ▸ List.sublist_cons_self oldest rest)
    refine hrest.append rfl rfl (fun hmem => hnew ?_) ?_ hq
    · rw [Cache.keys, hes]
      exact List.mem_cons_of_mem _ hmem
    · have hsize := hc.size_le
      simp only [Cache.size, hes, List.length_cons] at hsize
      exact hsize

theorem CacheStep.maxSize_eq {e : Event} (h : CacheStep config e c c') :
    c'.maxSize = c.maxSize := by
  cases h with
  | got | asked => exact Cache.get_maxSize
  | @stored _ sql c q _ _ =>
    obtain ⟨-, hpush⟩ | ⟨_, _, -, -, hpush⟩ := c.push_cases sql q <;> rw [hpush]
  | _ => rfl

theorem CacheStep.sound {e : Event} (h : CacheStep config e c c') (hc : Sound config c) :
    Sound config c' := by
  have hmax := h.maxSize_eq
  cases h with
  | got | asked => exact hc.of_perm hmax (Cache.get_entries_perm hc.nodup)
  | stored _ hfind hq => exact hc.push (not_mem_keys hfind) hq
  | overtaken | raised => exact hc
  | deleted => exact hc.of_sublist hmax List.filter_sublist
  | cleared => exact .of_entries_nil rfl

/-! ## What stays in a cache -/

/-- An event takes a text out of a cache. -/
def Event.Removes (name sql : Text) (e : Event) : Prop :=
  e = .deleted name sql true ∨ e = .cleared name ∨ ∃ new q, e = .stored name new q (some sql)

/-- A query that a cache has stays there, unless its text is removed. -/
theorem CacheStep.find?_kept {name key : Text} {q : Issued} {e : Event}
    (h : CacheStep config e c c') (hat : e.cache? = some name) (hkept : ¬e.Removes name key)
    (hfind : c.find? key = some q) : c'.find? key = some q := by
  cases h with
  | got | asked => exact (Cache.find?_get ..).trans hfind
  | @stored name' sql _ q' =>
    obtain rfl := Option.some.inj hat
    refine Cache.find?_push_of_ne (fun hevicted => hkept (.inr (.inr ⟨sql, q', ?_⟩))) hfind
    rw [hevicted]
  | overtaken | raised => exact hfind
  | deleted name' sql =>
    obtain rfl := Option.some.inj hat
    rw [Cache.find?_delete, if_neg]
    · exact hfind
    · rintro rfl
      refine hkept (.inl ?_)
      simp [Cache.contains, hfind]
  | cleared =>
    obtain rfl := Option.some.inj hat
    exact absurd (.inr (.inl rfl)) hkept

/-- **After every run every cache is sound.** -/
theorem Run.sound {log : List Event} {m : Moment} (h : Run ⟨.initial config, []⟩ log m)
    {name : Text} (hc : m.state.caches.lookup name = some c) : Sound config c := by
  refine Run.cache_invariant (fun hsize => ?_) (fun _ hstep => hstep.sound) (fun _ hc => hc) h hc
  exact .of_entries_nil (Cache.ofSize?_eq_some hsize).2.1

end Session

end NamedSql
