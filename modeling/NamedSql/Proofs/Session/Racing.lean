import Mathlib.Logic.Function.Basic
import NamedSql.Proofs.Query.Factoring
import NamedSql.Proofs.Session.Recency

/-!
# Racing calls

Threads that share a session take its steps in turn, and each has its own calls that have missed and
not ended (`Races`). So two calls for one text may both miss and both prepare a query. Nobody else
knows a query before it is stored, so it is made in the step that stores it. The calls of one
thread, nested or not, are the case in which the other threads wait (`Run.races`).

Whatever the order of the steps, a query stays in its cache until an event removes its text
(`Races.has_kept`), and while it is there every call for its text gives this query. The call that
stores first therefore decides for all of them. A call hands its query out at its last event
(`Call.Fetches.returns`), so what is known of events is known of calls that a program makes in turn
(`Successive.result_unique`).

**Theorem (`first_stored_wins`).** Two calls for one text that return queries return the same one,
if the text is not evicted, deleted or cleared between their ends.

Queries are the same if they have the same number. Every query that is stored has a new one.
-/

namespace NamedSql

namespace Session

/-! ## Threads -/

/-- A state that threads share, and the calls of each thread that have missed and not ended. -/
structure Shared where
  state : State
  calls : Nat → List (Text × Text)

/-- A thread takes a step. -/
inductive Turn : Shared → Event → Shared → Prop
  | take (t : Nat) {s s' : State} {calls : Nat → List (Text × Text)} {own : List (Text × Text)}
      {e : Event} : Step ⟨s, calls t⟩ e ⟨s', own⟩ →
      Turn ⟨s, calls⟩ e ⟨s', Function.update calls t own⟩

/-- Threads take steps in turn, in any order, with the events of the steps. -/
inductive Races : Shared → List Event → Shared → Prop
  | refl (m : Shared) : Races m [] m
  | step {m m' m'' : Shared} {log : List Event} {e : Event} :
      Races m log m' → Turn m' e m'' → Races m (log ++ [e]) m''
  | aside {m : Shared} {log : List Event} {s s' : State} {calls : Nat → List (Text × Text)} :
      Races m log ⟨s, calls⟩ → Aside s s' → Races m log ⟨s', calls⟩

/-- A run of one thread, while the others wait. -/
theorem Run.races {m m' : Moment} {log : List Event} (h : Run m log m') (t : Nat)
    (calls : Nat → List (Text × Text)) (hcalls : calls t = m.calls) :
    Races ⟨m.state, calls⟩ log ⟨m'.state, Function.update calls t m'.calls⟩ := by
  induction h with
  | refl =>
    rw [← hcalls, Function.update_eq_self]
    exact .refl _
  | @step m₁ m₂ log e _ hstep ih =>
    have hturn : Step ⟨m₁.state, Function.update calls t m₁.calls t⟩ e ⟨m₂.state, m₂.calls⟩ := by
      rwa [Function.update_self]
    have hnext := Turn.take t hturn
    rw [Function.update_idem] at hnext
    exact .step ih hnext
  | aside _ haside ih => exact .aside ih haside

/-- Races split at each of their events. -/
theorem Races.split {m m' : Shared} {log before after : List Event} {e : Event}
    (h : Races m log m') (hlog : log = before ++ e :: after) :
    ∃ m₁ m₂, Races m before m₁ ∧ Turn m₁ e m₂ ∧ Races m₂ after m' := by
  -- Races grow at their end, so the events after the split are taken off one by one.
  induction h generalizing after with
  | refl => simp at hlog
  | @step m₁ m₂ log e' hraces hturn ih =>
    obtain rfl | ⟨after, e'', rfl⟩ := after.eq_nil_or_concat
    · obtain ⟨rfl, he⟩ := List.append_inj' hlog rfl
      obtain rfl := List.singleton_inj.mp he
      exact ⟨m₁, m₂, hraces, hturn, .refl m₂⟩
    · rw [List.concat_eq_append, ← List.cons_append, ← List.append_assoc] at hlog
      obtain ⟨hinit, he⟩ := List.append_inj' hlog rfl
      obtain rfl := List.singleton_inj.mp he
      obtain ⟨m₃, m₄, hbefore, hturn', hafter⟩ := ih hinit
      rw [List.concat_eq_append]
      exact ⟨m₃, m₄, hbefore, hturn', .step hafter hturn⟩
  | aside _ haside ih =>
    obtain ⟨m₁, m₂, hbefore, hturn, hafter⟩ := ih hlog
    exact ⟨m₁, m₂, hbefore, hturn, .aside hafter haside⟩

theorem Turn.effect {m m' : Shared} {e : Event} (h : Turn m e m') :
    Effect m.state m'.state e := by
  cases h with
  | take t hstep => exact hstep.effect.2

/-! ## New queries -/

/-- The query that is made in a step. -/
def Event.issued? : Event → Option Issued
  | stored _ _ q _ | prepared _ q => some q
  | _ => none

/-- A query that is made in a step has a number that no query had before. -/
theorem Step.issued {m m' : Moment} {e : Event} (h : Step m e m') :
    m.state.nextSerial ≤ m'.state.nextSerial ∧ ∀ q, e.issued? = some q →
      m.state.nextSerial ≤ q.serial ∧ q.serial < m'.state.nextSerial := by
  cases h with
  | opened hnone h =>
    unfold openCache at h
    split at h
    · obtain ⟨-, rfl⟩ := Prod.mk.inj h
      exact ⟨Nat.le_refl _, fun _ hq => nomatch hq⟩
    · simp at h
  | got h | hit h | missed h =>
    obtain ⟨c, hc⟩ := lookup_of_exec_ok h
    rw [exec_cached? hc] at h
    obtain ⟨-, rfl⟩ := Prod.mk.inj h
    exact ⟨Nat.le_refl _, fun _ hq => nomatch hq⟩
  | stored hc hfind hp h =>
    obtain ⟨events, hexec⟩ := exec_issue_storeIn hc _ _
    rw [hexec, store_of_find?_none hfind] at h
    obtain ⟨hq, rfl⟩ := Prod.mk.inj h
    obtain rfl := Except.ok.inj hq
    refine ⟨Nat.le_succ _, fun q hq => ?_⟩
    rw [← Option.some.inj hq]
    exact ⟨Nat.le_refl _, Nat.lt_succ_self _⟩
  | overtaken hc hfind hp h =>
    obtain ⟨events, hexec⟩ := exec_issue_storeIn hc _ _
    rw [hexec] at h
    obtain ⟨-, rfl⟩ := Prod.mk.inj h
    exact ⟨Nat.le_succ _, fun _ hq => nomatch hq⟩
  | raised => exact ⟨Nat.le_refl _, fun _ hq => nomatch hq⟩
  | deleted h =>
    obtain ⟨c, hc⟩ := lookup_of_exec_ok h
    rw [exec_deleteFrom hc] at h
    obtain ⟨-, rfl⟩ := Prod.mk.inj h
    exact ⟨Nat.le_refl _, fun _ hq => nomatch hq⟩
  | cleared h =>
    obtain ⟨c, hc⟩ := lookup_of_exec_ok h
    rw [exec_clearCache hc] at h
    obtain ⟨-, rfl⟩ := Prod.mk.inj h
    exact ⟨Nat.le_refl _, fun _ hq => nomatch hq⟩
  | prepared hp h =>
    obtain ⟨hq, rfl⟩ := Prod.mk.inj h
    obtain rfl := Except.ok.inj hq
    refine ⟨Nat.le_succ _, fun q hq => ?_⟩
    rw [← Option.some.inj hq]
    exact ⟨Nat.le_refl _, Nat.lt_succ_self _⟩

/-- **Queries that are made at different times have different numbers,** the later ones the greater
numbers. -/
theorem Races.serials {m m' : Shared} {log : List Event} (h : Races m log m') :
    (log.filterMap Event.issued?).Pairwise (·.serial < ·.serial) ∧
      ∀ q ∈ log.filterMap Event.issued?, q.serial < m'.state.nextSerial := by
  induction h with
  | refl => exact ⟨.nil, nofun⟩
  | @step m₁ m₂ log e _ hturn ih =>
    -- What is made in this step has a number that the bound on the earlier ones excludes.
    obtain ⟨hpairwise, hbound⟩ := ih
    cases hturn with
    | take t hstep =>
      obtain ⟨hle, hnew⟩ := hstep.issued
      rw [List.filterMap_append, List.pairwise_append]
      have hlast : ([e].filterMap Event.issued?).Pairwise (·.serial < ·.serial) :=
        List.pairwise_filterMap.mpr (List.pairwise_singleton ..)
      refine ⟨⟨hpairwise, hlast, fun q hq q' hq' => ?_⟩, fun q hq => ?_⟩
      · have hmade : e.issued? = some q' := by simpa using hq'
        exact (hbound q hq).trans_le (hnew q' hmade).1
      · obtain hq | hq := List.mem_append.mp hq
        · exact (hbound q hq).trans_le hle
        · exact (hnew q (by simpa using hq)).2
  | aside _ haside ih =>
    exact ⟨ih.1, fun q hq => (ih.2 q hq).trans_le haside.nextSerial⟩

/-! ## What stays in a cache -/

section

variable {name sql : Text} {c c' : Cache} {q q' : Issued} {e : Event}

/-- While a cache has a query, nothing else is handed out for its text. -/
theorem CacheStep.used?_eq {config : Config} (h : CacheStep config e c c')
    (hat : e.cache? = some name) (hfind : c.find? sql = some q)
    (hused : e.used? name = some (sql, q')) : q' = q := by
  rw [Event.used?_of_cache?_eq hat] at hused
  cases h with
  | got name' sql' | asked name' sql' =>
    obtain ⟨q'', hfound, heq⟩ := Option.map_eq_some_iff.mp hused
    obtain ⟨rfl, rfl⟩ := Prod.mk.inj heq
    rw [Cache.get_fst, hfind] at hfound
    exact (Option.some.inj hfound).symm
  | stored name' hnone =>
    obtain ⟨rfl, rfl⟩ := Prod.mk.inj (Option.some.inj hused)
    rw [hnone] at hfind
    contradiction
  | overtaken name' hfind' =>
    obtain ⟨rfl, rfl⟩ := Prod.mk.inj (Option.some.inj hused)
    exact Option.some.inj (hfind'.symm.trans hfind)
  | _ => contradiction

/-- A cache has a query under a text. -/
def Has (name sql : Text) (q : Issued) (s : State) : Prop :=
  ∃ c, s.caches.lookup name = some c ∧ c.find? sql = some q

/-- After a call has returned a query, its cache has it. -/
theorem Turn.has_of_used? {m m' : Shared} (h : Turn m e m') (hused : e.used? name = some (sql, q)) :
    Has name sql q m'.state := by
  have hat := Event.cache?_of_used? hused
  have hands := (Event.used?_of_cache?_eq hat).symm.trans hused
  cases h.effect with
  | opened he => simp [he, Event.handedOut?] at hands
  | on hat' _ hstep hs =>
    obtain rfl := Option.some.inj (hat.symm.trans hat')
    exact ⟨_, by simp [hs], hstep.find?_of_used? hused⟩
  | raised he => simp [he, Event.handedOut?] at hands
  | prepared he => simp [he, Event.cache?] at hat

theorem Turn.has_kept {m m' : Shared} (h : Turn m e m') (hkept : ¬e.Removes name sql)
    (hhas : Has name sql q m.state) : Has name sql q m'.state := by
  obtain ⟨c, hc, hfind⟩ := hhas
  obtain ⟨c', hc', ⟨hat, hstep⟩ | ⟨-, rfl⟩⟩ := h.effect.of_open hc
  · exact ⟨c', hc', hstep.find?_kept hat hkept hfind⟩
  · exact ⟨c', hc', hfind⟩

theorem Turn.used?_eq {m m' : Shared} (h : Turn m e m') (hhas : Has name sql q m.state)
    (hused : e.used? name = some (sql, q')) : q' = q := by
  obtain ⟨c, hc, hfind⟩ := hhas
  obtain ⟨c', -, ⟨hat, hstep⟩ | ⟨hother, -⟩⟩ := h.effect.of_open hc
  · exact hstep.used?_eq hat hfind hused
  · exact absurd (Event.cache?_of_used? hused) hother

/-- **A query stays in its cache** until an event removes its text. -/
theorem Races.has_kept {m m' : Shared} {log : List Event} (h : Races m log m')
    (hkept : ∀ e ∈ log, ¬e.Removes name sql) (hhas : Has name sql q m.state) :
    Has name sql q m'.state := by
  induction h with
  | refl => exact hhas
  | step _ hturn ih =>
    rw [List.forall_mem_append, List.forall_mem_singleton] at hkept
    exact hturn.has_kept hkept.2 (ih hkept.1)
  | aside _ haside ih =>
    obtain ⟨c, hc, hfind⟩ := ih hkept
    exact ⟨c, haside.caches ▸ hc, hfind⟩

end

/-! ## What calls return -/

section

variable {name sql : Text} {q q' : Issued} {e e' : Event} {before between rest : List Event}

/-- If nothing removes a text between two events that hand a query out for it, they hand out the
same query. -/
theorem Races.used?_unique {m m' : Shared}
    (h : Races m (before ++ e :: (between ++ e' :: rest)) m')
    (hused : e.used? name = some (sql, q)) (hused' : e'.used? name = some (sql, q'))
    (hkept : ∀ e ∈ between, ¬e.Removes name sql) : q' = q := by
  obtain ⟨m₁, m₂, -, hturn, hafter⟩ := h.split rfl
  obtain ⟨m₃, m₄, hbetween, hturn', -⟩ := hafter.split rfl
  exact hturn'.used?_eq (hbetween.has_kept hkept (hturn.has_of_used? hused)) hused'

namespace Call

variable {call call' : Call} {s : State}

/-- A call of `get` or `getOrPrepare` returns a query at its last event. -/
theorem Fetches.returns {r : Except Failure (Option (Text × Issued))}
    {started : List (Text × Text)} {log : List Event} (hcall : call.Fetches name sql)
    (h : call.Makes s r started log) (hr : r = .ok (some (sql, q))) :
    ∃ before e, log = before ++ [e] ∧ e.used? name = some (sql, q) := by
  subst hr
  obtain ⟨before, e, hlog, hands, hat⟩ := h.handsOut
  refine ⟨before, e, hlog, ?_⟩
  rw [Event.used?_of_cache?_eq, hands]
  cases hcall <;> exact hat

theorem Fetches.has (hcall : call.Fetches name sql)
    (h : (call.perform.exec s).1 = .ok (some (sql, q))) :
    Has name sql q (call.perform.exec s).2 := by
  obtain ⟨started, log, hmakes, hrun⟩ := call.exists_makes s []
  obtain ⟨before, e, rfl, hused⟩ := hcall.returns hmakes h
  obtain ⟨m₁, m₂, -, hturn, hafter⟩ := (hrun.races 0 (fun _ => []) rfl).split rfl
  exact hafter.has_kept (List.forall_mem_nil _) (hturn.has_of_used? hused)

/-- While a cache has a query, a call for its text returns it and tries nothing. -/
theorem Fetches.result_of_has (hcall : call.Fetches name sql) (hhas : Has name sql q s) :
    (call.perform.exec s).1 = .ok (some (sql, q)) := by
  obtain ⟨c, hc, hfind⟩ := hhas
  have hcached : ((cached? name sql).exec s).1 = .ok (some q) := by
    rw [exec_cached? hc, Cache.get_fst, hfind]
  cases hcall with
  | get =>
    have hperform : ((Call.get name sql).perform).exec s = _ :=
      exec_bind_pure (fun found : Option Issued => found.map (sql, ·)) _ s
    rw [hperform, hcached]
    rfl
  | getOrPrepare examples =>
    have hperform : ((Call.getOrPrepare name sql examples).perform).exec s = _ :=
      exec_bind_pure (fun q => some (sql, q)) _ s
    rw [hperform]
    unfold Session.getOrPrepare getOrPrepareWith
    rw [exec_bind]
    rcases hexec : (cached? name sql).exec s with ⟨r, s'⟩
    rw [hexec] at hcached
    obtain rfl : r = .ok (some q) := hcached
    rfl

end Call

/-- Calls for a text that are made in turn return the same query, if nothing removes the text from
the return of the first to the return of the second. -/
theorem Successive.result_unique {m m' : Moment} {first middle last : List Made} {made made' : Made}
    (h : Successive m (first ++ made :: (middle ++ made' :: last)) m')
    (hcall : made.call.Fetches name sql) (hcall' : made'.call.Fetches name sql)
    (hresult : made.result = .ok (some (sql, q))) (hresult' : made'.result = .ok (some (sql, q')))
    (hmiddle : ∀ e ∈ middle.flatMap Made.log, ¬e.Removes name sql)
    (hlast : ∀ e ∈ made'.log.dropLast, ¬e.Removes name sql) : q' = q := by
  obtain ⟨s, hmakes⟩ := h.mem_makes made (by simp)
  obtain ⟨s', hmakes'⟩ := h.mem_makes made' (by simp)
  obtain ⟨before, e, hlog, hused⟩ := hcall.returns hmakes hresult
  obtain ⟨before', e', hlog', hused'⟩ := hcall'.returns hmakes' hresult'
  rw [hlog', List.dropLast_concat] at hlast
  have hevents : (first ++ made :: (middle ++ made' :: last)).flatMap Made.log =
      (first.flatMap Made.log ++ before) ++ e ::
        ((middle.flatMap Made.log ++ before') ++ e' :: last.flatMap Made.log) := by
    simp [hlog, hlog']
  have hraces := h.run.races 0 (fun _ => m.calls) rfl
  rw [hevents] at hraces
  exact hraces.used?_unique hused hused' (List.forall_mem_append.mpr ⟨hmiddle, hlast⟩)

end

/-- **The query that is stored first wins.** Every list of calls can be made from every moment, and
such calls make a run; a run of one thread is a race in which the others wait. In races, whatever
threads make whatever calls, nested or not: the queries that are made have numbers of their own.
What a call for a text has returned is in the cache from then on, until the text is evicted, deleted
or cleared. And if this does not happen between the returns of two calls for the text, they return
the same query. So do two calls for a text that are made in turn, if it does not happen in the calls
between them, nor in the second one before it returns; and of two calls with none between them, the
second returns what the first has returned, whatever it would try its query on. -/
theorem first_stored_wins (name sql : Text) :
    (∀ calls m, ∃ mades, mades.map Made.call = calls ∧
      Successive m mades ⟨Call.after calls m.state, m.calls⟩) ∧
    (∀ m mades m', Successive m mades m' → Run m (mades.flatMap Made.log) m') ∧
    (∀ m log m', Run m log m' → ∀ t calls, calls t = m.calls →
      Races ⟨m.state, calls⟩ log ⟨m'.state, Function.update calls t m'.calls⟩) ∧
    (∀ m log m', Races m log m' →
      (log.filterMap Event.issued?).Pairwise (·.serial < ·.serial) ∧
      ∀ before e after q, log = before ++ e :: after → e.used? name = some (sql, q) →
        ((∀ e' ∈ after, ¬e'.Removes name sql) → Has name sql q m'.state) ∧
        ∀ between e' rest q', after = between ++ e' :: rest → e'.used? name = some (sql, q') →
          (∀ e'' ∈ between, ¬e''.Removes name sql) → q' = q) ∧
    (∀ m mades m', Successive m mades m' → ∀ first made middle made' last q q',
      mades = first ++ made :: (middle ++ made' :: last) →
      made.call.Fetches name sql → made'.call.Fetches name sql →
      made.result = .ok (some (sql, q)) → made'.result = .ok (some (sql, q')) →
      (∀ e ∈ middle.flatMap Made.log, ¬e.Removes name sql) →
      (∀ e ∈ made'.log.dropLast, ¬e.Removes name sql) → q' = q) ∧
    ∀ s (call call' : Call) q, call.Fetches name sql → call'.Fetches name sql →
      (call.perform.exec s).1 = .ok (some (sql, q)) →
      (call'.perform.exec (call.perform.exec s).2).1 = .ok (some (sql, q)) := by
  refine ⟨exists_successive, fun m mades m' h => h.run, fun m log m' h => h.races,
    fun m log m' h => ⟨h.serials.1, fun before e after q hlog hused => ⟨fun hkept => ?_, ?_⟩⟩,
    ?_, fun s call call' q hcall hcall' h => hcall'.result_of_has (hcall.has h)⟩
  · obtain ⟨m₁, m₂, -, hturn, hafter⟩ := h.split hlog
    exact hafter.has_kept hkept (hturn.has_of_used? hused)
  · rintro between e' rest q' rfl hused' hkept
    exact Races.used?_unique (hlog ▸ h) hused hused' hkept
  · rintro m mades m' h first made middle made' last q q' rfl
    exact h.result_unique

/-- Two threads miss one text. The second one stores its query, which the first one then returns.
And a source asks for the text that a call prepares: the call returns what was stored for the
source, as a call of `get` does then. -/
theorem first_stored_wins_race :
    (∃ log m q q', Races ⟨.initial .default, fun _ => []⟩ log m ∧
      log = [.opened ['c'] 2, .asked ['c'] [':', 'a'] none, .asked ['c'] [':', 'a'] none] ++
        .stored ['c'] [':', 'a'] q none :: ([] ++ .overtaken ['c'] [':', 'a'] q' :: []) ∧
      q' = q ∧ Has ['c'] [':', 'a'] q m.state) ∧
    ∃ (s : State) (m' : Moment) (made made' : Made) (q q' : Issued),
      (openCache ['c'] 2).exec (.initial .default) = (.ok (), s) ∧
      Successive ⟨s, []⟩ [made, made'] m' ∧
      made.call = .getOrPrepare ['c'] [':', 'a'] [.requester ['c'] [':', 'a'] []] ∧
      made'.call = .get ['c'] [':', 'a'] ∧ made.result = .ok (some ([':', 'a'], q)) ∧
      made'.result = .ok (some ([':', 'a'], q')) ∧ q' = q := by
  constructor
  · let a : Prepared :=
      ⟨⟨[':', 'a'], [.placeholder ['a'] 0 1 [':', 'a']]⟩, .default, false⟩
    have ha : Prepares .default [':', 'a'] a :=
      ⟨_, scan_placeholder (by simp) (List.forall_mem_singleton.mpr rfl), rfl⟩
    have hopened : Races ⟨.initial .default, fun _ => []⟩ ([] ++ [.opened ['c'] 2]) _ :=
      .step (.refl _) (.take 0 (.opened rfl rfl))
    have hfirst : Races _ (_ ++ [.asked ['c'] [':', 'a'] none]) _ :=
      .step hopened (.take 0 (.missed rfl))
    have hsecond : Races _ (_ ++ [.asked ['c'] [':', 'a'] none]) _ :=
      .step hfirst (.take 1 (.missed rfl))
    have hstored := hsecond.step (.take 1 (.stored rfl rfl ha rfl))
    have hovertaken := hstored.step (.take 0 (.overtaken rfl rfl ha rfl))
    obtain ⟨-, hwins⟩ := (first_stored_wins ['c'] [':', 'a']).2.2.2.1 _ _ _ hovertaken
    obtain ⟨hkept, hsame⟩ := hwins
      [.opened ['c'] 2, .asked ['c'] [':', 'a'] none, .asked ['c'] [':', 'a'] none] _ _ _ rfl rfl
    refine ⟨_, _, _, _, hovertaken, rfl, ?_, ?_⟩
    · exact hsame [] _ [] _ rfl rfl (List.forall_mem_nil _)
    · exact hkept (List.forall_mem_singleton.mpr (by simp [Event.Removes]))
  · let s : State := ((openCache ['c'] 2).exec (.initial .default)).2
    let call : Call := .getOrPrepare ['c'] [':', 'a'] [.requester ['c'] [':', 'a'] []]
    have hok : ((getOrPrepare ['c'] [':', 'a'] [.requester ['c'] [':', 'a'] []]).exec s).1.isOk =
        true := by decide +kernel
    obtain ⟨q, hq⟩ : ∃ q, (call.perform.exec s).1 = .ok (some ([':', 'a'], q)) := by
      have hperform : call.perform.exec s = _ :=
        exec_bind_pure (fun q => some ([':', 'a'], q)) _ s
      rw [hperform]
      rcases hr : ((getOrPrepare ['c'] [':', 'a'] [.requester ['c'] [':', 'a'] []]).exec s).1
        with f | q
      · rw [hr] at hok
        contradiction
      · exact ⟨q, rfl⟩
    have hcall : call.Fetches ['c'] [':', 'a'] := .getOrPrepare _
    obtain ⟨-, -, -, -, hsame, hnext⟩ := first_stored_wins ['c'] [':', 'a']
    have hq' := hnext s call (.get ['c'] [':', 'a']) q hcall .get hq
    obtain ⟨made, hasked, hleads⟩ := call.exists_made ⟨s, []⟩
    obtain ⟨made', hget, hleads'⟩ :=
      Call.exists_made (.get ['c'] [':', 'a']) ⟨(call.perform.exec s).2, []⟩
    have hmades : Successive ⟨s, []⟩ [made, made'] _ := .step (.step (.refl _) hleads) hleads'
    have hresult : made.result = .ok (some ([':', 'a'], q)) := by
      rw [← hasked] at hq
      exact (congrArg Prod.fst hleads.exec_eq).symm.trans hq
    have hresult' : made'.result = .ok (some ([':', 'a'], q)) := by
      rw [← hget] at hq'
      exact (congrArg Prod.fst hleads'.exec_eq).symm.trans hq'
    have hlog : made'.log.dropLast = [] := by
      have hmakes := hleads'.makes
      rw [hget] at hmakes
      generalize made'.log = log at hmakes ⊢
      generalize made'.result = r, made'.started = started at hmakes
      cases hmakes with
      | got | unopened => rfl
      | beside hcache => contradiction
    refine ⟨s, _, made, made', q, q, rfl, hmades, hasked, hget, hresult, hresult', ?_⟩
    exact hsame _ _ _ hmades [] made [] made' [] q q rfl (hasked ▸ hcall) (hget ▸ .get) hresult
      hresult' (List.forall_mem_nil _) (hlog ▸ List.forall_mem_nil _)

end Session

end NamedSql
