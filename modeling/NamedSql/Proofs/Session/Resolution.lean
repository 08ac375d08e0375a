import NamedSql.Proofs.Session.Execution

/-!
# What resolution gives

Resolving names against a source consults one thing that can change, the field map of the class of
the source. What is known of a class is the field map it is registered with or, failing that, the
map of its declared fields (`Registry.known?`); looking it up keeps what is known.

**Answers** (`answersFor_resolve_of_known`). A source whose class has a known field map answers by
it, whatever the rest of the state is like. Only a source whose lookup prepares queries of its own
may otherwise answer by the caches, and if there are none it answers by its class as well
(`answersFor_resolve_of_caches_nil`).
-/

namespace NamedSql

/-! ## Known field maps -/

namespace Registry

variable {r : Resolver} {c : Class} {registry : Registry}

/-- The field map that is known of a class, registered or declared. -/
def known? (r : Resolver) (c : Class) (registry : Registry) : Option FieldMap :=
  registry.lookup c.id <|> r.declaredMap? c

theorem known?_of_lookup {m : FieldMap} (h : registry.lookup c.id = some m) :
    known? r c registry = some m := by
  unfold known?
  rw [h]
  rfl

theorem known?_of_lookup_none (h : registry.lookup c.id = none) :
    known? r c registry = r.declaredMap? c := by
  unfold known?
  rw [h]
  rfl

theorem fieldMap?_fst : (fieldMap? r c registry).1 = known? r c registry := by
  unfold fieldMap?
  cases hlookup : registry.lookup c.id with
  | some m => rw [known?_of_lookup hlookup]
  | none =>
    rw [known?_of_lookup_none hlookup]
    cases r.declaredMap? c <;> rfl

/-- Looking a field map up keeps it, and touches no other class. -/
theorem lookup_fieldMap?_snd (r : Resolver) (c : Class) (registry : Registry) (i : ClassId) :
    (fieldMap? r c registry).2.lookup i =
      if i = c.id then known? r c registry else registry.lookup i := by
  have hkeep {m : Option FieldMap} (h : registry.lookup c.id = m) :
      registry.lookup i = if i = c.id then m else registry.lookup i := by
    by_cases hi : i = c.id
    · rw [if_pos hi, hi, h]
    · rw [if_neg hi]
  unfold fieldMap?
  cases hlookup : registry.lookup c.id with
  | some m =>
    rw [known?_of_lookup hlookup]
    exact hkeep hlookup
  | none =>
    rw [known?_of_lookup_none hlookup]
    cases r.declaredMap? c with
    | some m => exact lookup_putEntry ..
    | none => exact hkeep hlookup

theorem lookup_fieldMap?_snd_of_lookup {i : ClassId} {m : FieldMap}
    (h : registry.lookup i = some m) : (fieldMap? r c registry).2.lookup i = some m := by
  rw [lookup_fieldMap?_snd]
  split
  · next hi => exact known?_of_lookup (hi ▸ h)
  · exact h

theorem known?_or_declaredMap? : (known? r c registry <|> r.declaredMap? c) =
    known? r c registry := by
  unfold known?
  cases registry.lookup c.id with
  | some m => rfl
  | none => cases r.declaredMap? c <;> rfl

/-- The map that a registration of a class puts into the registry. -/
def newMap? (r : Resolver) (c : Class) : Option (List (Text × Text)) → Option FieldMap
  | some es => some (.ofEntries es)
  | none => r.declaredMap? c

theorem register_eq (r : Resolver) (c : Class) (entries : Option (List (Text × Text)))
    (registry : Registry) : register r c entries registry = match newMap? r c entries with
      | some m => .ok (m, putEntry c.id m registry)
      | none => .error (.nothingToRegister c.name) := by
  unfold register newMap?
  cases entries with
  | some es => rfl
  | none => cases r.declaredMap? c <;> rfl

end Registry

/-! ## Answers of a source -/

namespace Source

variable {missing : Text → Failure} {names : List Text}

/-- The entries of a mapping, or its lookup method, are stronger than any field map. -/
theorem answering_mapping (mapper : Text → Text) (m m' : Option FieldMap) (c : Class)
    (es : Entries) : answering mapper m (mapping c es) = answering mapper m' (mapping c es) := by
  unfold answering
  cases (mapping c es).classOf.lookup? <;> rfl

theorem Answering.answerAll_cons (missing : Text → Failure) (name : Text) (names : List Text)
    (how : Answering) :
    how.answerAll missing (name :: names) = match how.answer (missing name) name with
      | .error e => .error e
      | .ok v => (how.answerAll missing names).map (v :: ·) := by
  unfold answerAll
  rw [List.mapM_cons]
  cases how.answer (missing name) name with
  | error e => rfl
  | ok v => cases names.mapM fun name => how.answer (missing name) name <;> rfl

/-- There is one value for each name. -/
theorem Answering.length_of_answerAll {how : Answering} {values : List Value}
    (h : how.answerAll missing names = .ok values) : values.length = names.length := by
  induction names generalizing values with
  | nil =>
    rw [← Except.ok.inj h]
    rfl
  | cons name names ih =>
    rw [answerAll_cons] at h
    split at h
    · contradiction
    · cases hrest : how.answerAll missing names with
      | error e => simp [hrest, Except.map] at h
      | ok rest =>
        rw [hrest] at h
        rw [← Except.ok.inj h, List.length_cons, List.length_cons, ih hrest]

end Source

namespace Session

variable {α β : Type}

theorem exec_fieldMap?_false (r : Resolver) (c : Class) (s : State) :
    (fieldMap? r false c).exec s = (.ok (Registry.known? r c s.registry),
      { s with registry := (Registry.fieldMap? r c s.registry).2 }) := by
  rw [exec_fieldMap?, if_neg Bool.false_ne_true, Registry.fieldMap?_fst]

/-- A registration that fails changes nothing. -/
theorem exec_register (c : Class) (entries : Option (List (Text × Text))) (s : State) :
    (register c entries).exec s = match Registry.newMap? s.config.resolver c entries with
      | some m => (.ok m, { s with registry := putEntry c.id m s.registry })
      | none => (.error (.error (.misconfigured (.nothingToRegister c.name))), s) := by
  unfold register configured
  simp only [exec_bind, exec_config, exec_get, Registry.register_eq]
  cases Registry.newMap? s.config.resolver c entries <;> rfl

theorem exec_answersBy (r : Resolver) (m : Option FieldMap) (x : Source) (names : List Text)
    (sql : Option Text) (s : State) :
    (answersBy r m x names sql).exec s =
      ((x.answering r.mapper.apply m).answerAll (missingParameter · x.typeName? sql) names, s) := by
  unfold answersBy
  cases (x.answering r.mapper.apply m).answerAll (missingParameter · x.typeName? sql) names <;> rfl

/-- From `s` to `s'` the field map of a class was looked up at most. -/
inductive Consults (r : Resolver) (c : Class) (s : State) : State → Prop
  | nothing : Consults r c s s
  | fieldMap : Consults r c s { s with registry := (Registry.fieldMap? r c s.registry).2 }

theorem Consults.known?_eq {r : Resolver} {c c' : Class} {s s' : State} (h : Consults r c' s s')
    (hc : c'.id = c.id → c' = c) :
    Registry.known? r c s'.registry = Registry.known? r c s.registry := by
  cases h with
  | nothing => rfl
  | fieldMap =>
    by_cases hid : c.id = c'.id
    · obtain rfl := hc hid.symm
      have hlookup := Registry.lookup_fieldMap?_snd r c' s.registry c'.id
      rw [if_pos rfl] at hlookup
      rw [Registry.known?, hlookup, Registry.known?_or_declaredMap?]
    · have hlookup := Registry.lookup_fieldMap?_snd r c' s.registry c.id
      rw [if_neg hid] at hlookup
      rw [Registry.known?, hlookup, Registry.known?]

/-- In the state `s` a computation gives what a source answers by what is known of its class. -/
def AnswersFor (r : Resolver) (x : Source) (names : List Text) (sql : Option Text)
    (k : Session (List Value)) (s : State) : Prop :=
  ∃ s', Consults r x.classOf s s' ∧ k.exec s =
    ((x.answering r.mapper.apply (Registry.known? r x.classOf s.registry)).answerAll
      (missingParameter · x.typeName? sql) names, s')

theorem AnswersFor.fst_eq {r : Resolver} {x : Source} {names : List Text} {sql : Option Text}
    {k : Session (List Value)} {s : State} (h : AnswersFor r x names sql k s) :
    (k.exec s).1 = (x.answering r.mapper.apply (Registry.known? r x.classOf s.registry)).answerAll
      (missingParameter · x.typeName? sql) names := by
  obtain ⟨s', -, hexec⟩ := h
  rw [hexec]

theorem answersFor_answers (r : Resolver) (x : Source) (names : List Text) (sql : Option Text)
    (s : State) : AnswersFor r x names sql (answers r false x names sql) s := by
  unfold AnswersFor answers
  split
  · exact ⟨s, .nothing, exec_answersBy ..⟩
  · rw [Source.answering_mapping _ _ none]
    exact ⟨s, .nothing, exec_answersBy ..⟩
  · rw [exec_bind, exec_fieldMap?_false]
    exact ⟨_, .fieldMap, exec_answersBy ..⟩

theorem resolve_eq_answers {x : Source}
    (h : ∀ cache query examples, x ≠ .requester cache query examples) (r : Resolver)
    (isolated : Bool) (names : List Text) (sql : Option Text) :
    resolve r isolated names sql x =
      if names.isEmpty then return [] else answers r isolated x names sql := by
  cases x with
  | requester cache query examples => exact absurd rfl (h cache query examples)
  | _ =>
    unfold resolve
    rfl

/-- A source whose lookup asks for no query answers by what is known of its class. -/
theorem answersFor_resolve {x : Source}
    (h : ∀ cache query examples, x ≠ .requester cache query examples) (r : Resolver)
    (names : List Text) (sql : Option Text) (s : State) :
    AnswersFor r x names sql (resolve r false names sql x) s := by
  rw [resolve_eq_answers h]
  cases names with
  | nil => exact ⟨s, .nothing, rfl⟩
  | cons name names => exact answersFor_answers ..

/-- A source whose class has a known field map answers by it, also one that would ask for a query
otherwise. -/
theorem answersFor_resolve_of_known {r : Resolver} {x : Source} {s : State} {m : FieldMap}
    (hm : Registry.known? r x.classOf s.registry = some m) (names : List Text)
    (sql : Option Text) : AnswersFor r x names sql (resolve r false names sql x) s := by
  cases x with
  | requester cache query examples =>
    unfold AnswersFor resolve
    rw [exec_bind, exec_fieldMap?_false, hm]
    exact ⟨_, .fieldMap, exec_answersBy ..⟩
  | _ => exact answersFor_resolve (by simp) ..

/-- Asking a cache that was never opened fails like a lookup that misses its key. -/
theorem exec_asks_of_caches_nil {s : State} (h : s.caches = []) (cache sql : Text) (examples : Nat)
    (check : Prepared → Session Unit) (missing : Text → Failure) (names : List Text) :
    (names.mapM fun name => do
        orMissing (missing name) <| discard <| getOrPrepareWith cache sql examples check
        return Value.text name).exec s =
      (match names with
        | [] => .ok []
        | name :: _ => .error (missing name), s) := by
  have hcache : s.caches.lookup cache = none := by
    rw [h]
    rfl
  have hasked : (discard (getOrPrepareWith cache sql examples check)).exec s =
      (.error (.ofKind .key), s) := by
    change ((fun _ => ()) <$> getOrPrepareWith cache sql examples check).exec s = _
    unfold getOrPrepareWith
    rw [exec_map, exec_bind, exec_cached?_none hcache]
  cases names with
  | nil => rfl
  | cons name names =>
    rw [List.mapM_cons, exec_bind, exec_bind]
    unfold orMissing
    rw [exec_tryCatch, hasked]
    rfl

/-- Without caches every source answers by what is known of its class. -/
theorem answersFor_resolve_of_caches_nil {s : State} (h : s.caches = []) (r : Resolver)
    (x : Source) (names : List Text) (sql : Option Text) :
    AnswersFor r x names sql (resolve r false names sql x) s := by
  cases hm : Registry.known? r x.classOf s.registry with
  | some m => exact answersFor_resolve_of_known hm names sql
  | none =>
    cases x with
    | requester cache query examples =>
      unfold AnswersFor resolve
      rw [exec_bind, exec_fieldMap?_false, hm]
      let x : Source := .requester cache query examples
      have hasks := exec_asks_of_caches_nil
        (s := { s with registry := (Registry.fieldMap? r x.classOf s.registry).2 }) h
      refine ⟨_, .fieldMap, (hasks ..).trans ?_⟩
      cases names <;> rfl
    | _ => exact answersFor_resolve (by simp) ..

/-! ## Checking against a class -/

theorem exec_checkClass (r : Resolver) (c : Class) (names : List Text) (sql : Option Text)
    (s : State) :
    (checkClass r false c names sql).exec s =
      (match Registry.known? r c s.registry with
        | none => .error (.error (.misconfigured (.nothingToAssert c.name)))
        | some m => match names.find? (!m.contains ·) with
          | some n => .error (missingParameter n (some c.metaName) sql)
          | none => .ok (),
        { s with registry := (Registry.fieldMap? r c s.registry).2 }) := by
  unfold checkClass
  rw [exec_bind, exec_fieldMap?_false]
  cases Registry.known? r c s.registry with
  | none => rfl
  | some m =>
    dsimp only
    cases names.find? (!m.contains ·) <;> rfl

/-- A source that is no class is checked by resolving the names. -/
theorem exec_checkAll_singleton {x : Source} (h : ∀ c, x ≠ .cls c) (r : Resolver)
    (names : List Text) (sql : Option Text) (s : State) :
    (checkAll r false names sql [x]).exec s =
      (((resolve r false names sql x).exec s).1.map fun _ => (),
        ((resolve r false names sql x).exec s).2) := by
  have hdiscard : (discard (resolve r false names sql x)).exec s =
      (((resolve r false names sql x).exec s).1.map fun _ => (),
        ((resolve r false names sql x).exec s).2) := by
    change ((fun _ => ()) <$> resolve r false names sql x).exec s = _
    rw [exec_map]
    rcases (resolve r false names sql x).exec s with ⟨f | values, s'⟩ <;> rfl
  cases x with
  | cls c => exact absurd rfl (h c)
  | _ =>
    unfold checkAll
    rw [exec_bind]
    dsimp only
    rw [hdiscard]
    rcases (resolve r false names sql _).exec s with ⟨f | values, s'⟩ <;> rfl

theorem exec_checkAll_cls (r : Resolver) (c : Class) (names : List Text) (sql : Option Text)
    (s : State) :
    (checkAll r false names sql [.cls c]).exec s = (checkClass r false c names sql).exec s := by
  unfold checkAll
  rw [exec_bind]
  rcases (checkClass r false c names sql).exec s with ⟨f | _, s'⟩ <;> rfl

/-! ## One value for each name -/

theorem length_of_mapM {f : α → Session β} {as : List α} {bs : List β} {s : State}
    (h : ((as.mapM f).exec s).1 = .ok bs) : bs.length = as.length := by
  induction as generalizing bs s with
  | nil =>
    rw [← Except.ok.inj h]
    rfl
  | cons a as ih =>
    rw [List.mapM_cons, exec_bind] at h
    split at h
    · next b s' _ =>
      rw [exec_bind] at h
      split at h
      · next bs' s'' hrest =>
        rw [← Except.ok.inj h, List.length_cons, List.length_cons, ih (congrArg Prod.fst hrest)]
      · contradiction
    · contradiction

theorem length_of_answersBy {r : Resolver} {m : Option FieldMap} {x : Source} {names : List Text}
    {sql : Option Text} {s : State} {values : List Value}
    (h : ((answersBy r m x names sql).exec s).1 = .ok values) : values.length = names.length := by
  rw [exec_answersBy] at h
  exact Source.Answering.length_of_answerAll h

theorem length_of_bind_fieldMap? {r : Resolver} {isolated : Bool} {c : Class} {n : Nat}
    {k : Option FieldMap → Session (List α)} {s : State} {as : List α}
    (hk : ∀ m s as, ((k m).exec s).1 = .ok as → as.length = n)
    (h : ((fieldMap? r isolated c >>= k).exec s).1 = .ok as) : as.length = n := by
  rw [exec_bind, exec_fieldMap?] at h
  cases isolated with
  | true => exact hk _ _ _ h
  | false => exact hk _ _ _ h

theorem length_of_answers {r : Resolver} {isolated : Bool} {x : Source} {names : List Text}
    {sql : Option Text} {s : State} {values : List Value}
    (h : ((answers r isolated x names sql).exec s).1 = .ok values) :
    values.length = names.length := by
  unfold answers at h
  split at h
  · exact length_of_answersBy h
  · exact length_of_answersBy h
  · exact length_of_bind_fieldMap? (fun _ _ _ => length_of_answersBy) h

/-- Resolving gives one value for each name. -/
theorem length_of_resolve {r : Resolver} {isolated : Bool} {names : List Text} {sql : Option Text}
    {x : Source} {s : State} {values : List Value}
    (h : ((resolve r isolated names sql x).exec s).1 = .ok values) :
    values.length = names.length := by
  cases x with
  | requester cache query examples =>
    unfold resolve at h
    refine length_of_bind_fieldMap? (fun m s as has => ?_) h
    cases m with
    | some m => exact length_of_answersBy has
    | none => exact length_of_mapM has
  | _ =>
    rw [resolve_eq_answers (by simp)] at h
    split at h
    · next hempty =>
      rw [← Except.ok.inj h, List.isEmpty_iff.mp hempty]
      rfl
    · exact length_of_answers h

/-! ## Binding -/

/-- Binding puts what resolution gives beside the compiled text. -/
theorem bind_fst (p : Prepared) (x : Source) (s : State) :
    ((bind p x).exec s).1 =
      ((resolve p.config.resolver p.isolated p.names p.rawSql x).exec s).1.map
        (Bound.mk p.compiled.sql) := by
  unfold bind
  rw [exec_bind_pure]

end Session

end NamedSql
