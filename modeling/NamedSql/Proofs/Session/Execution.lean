import NamedSql.Proofs.Preliminaries
import NamedSql.Session.Binding

/-!
# Running a session

What a computation of a session gives from a state, and the state it leaves (`exec`). Each
operation on a cache has one equation here, for a cache that is open; later proofs use these and
never unfold the operations.

**Theorem (`CompositionalFor.resolve`).** A property that sequencing keeps holds of binding if it
holds of looking a field map up and of asking a cache for a query, as far as the source makes such
requests. The recursion of binding through sources, which is also that of preparing through
examples, is followed once, here.
-/

namespace NamedSql

namespace Session

variable {α β : Type}

/-- What a computation gives from a state, and the state it leaves. -/
def exec (m : Session α) (s : State) : Except Failure α × State := (ExceptT.run m).run s

/-! ## Sequencing -/

@[simp] theorem exec_pure (a : α) (s : State) : (pure a : Session α).exec s = (.ok a, s) := rfl

@[simp] theorem exec_fail (f : Failure) (s : State) :
    (fail f : Session α).exec s = (.error f, s) := rfl

theorem exec_bind (m : Session α) (k : α → Session β) (s : State) :
    (m >>= k).exec s = match m.exec s with
      | (.ok a, s') => (k a).exec s'
      | (.error f, s') => (.error f, s') := by
  unfold exec
  rw [ExceptT.run_bind, StateT.run_bind]
  rcases (ExceptT.run m).run s with ⟨_ | a, s'⟩ <;> rfl

theorem exec_map (g : α → β) (m : Session α) (s : State) :
    (g <$> m).exec s = match m.exec s with
      | (.ok a, s') => (.ok (g a), s')
      | (.error f, s') => (.error f, s') := by
  rw [← bind_pure_comp, exec_bind]
  rfl

theorem exec_bind_pure (g : α → β) (m : Session α) (s : State) :
    (m >>= fun a => pure (g a)).exec s = ((m.exec s).1.map g, (m.exec s).2) := by
  rw [exec_bind]
  rcases m.exec s with ⟨f | a, s'⟩ <;> rfl

/-- What is discarded leaves what it leaves, and its failure. -/
theorem exec_discard_then {α : Type} (m : Session α) (s : State) :
    (do
      discard m
      return (none : Option (Text × Issued))).exec s =
        ((m.exec s).1.map fun _ => none, (m.exec s).2) := by
  change (((fun _ => ()) <$> m) >>= fun _ => pure none).exec s = _
  rw [exec_bind_pure, exec_map]
  rcases m.exec s with ⟨_ | _, _⟩ <;> rfl

theorem exec_tryCatch (m : Session α) (k : Failure → Session α) (s : State) :
    (tryCatch m k).exec s = match m.exec s with
      | (.ok a, s') => (.ok a, s')
      | (.error f, s') => (k f).exec s' := by
  unfold exec
  rw [ExceptT.run_tryCatch, StateT.run_bind]
  rcases (ExceptT.run m).run s with ⟨_ | a, s'⟩ <;> rfl

@[simp] theorem exec_get (s : State) : (get : Session State).exec s = (.ok s, s) := rfl

@[simp] theorem exec_modify (f : State → State) (s : State) :
    (modify f : Session PUnit).exec s = (.ok ⟨⟩, f s) := rfl

@[simp] theorem exec_config (s : State) : config.exec s = (.ok s.config, s) := rfl

/-! ## The registry, events and serial numbers -/

@[simp] theorem exec_report (e : LogEvent) (s : State) :
    (report e).exec s = (.ok (), { s with events := s.events ++ [e] }) := rfl

@[simp] theorem exec_issue (p : Prepared) (s : State) :
    (issue p).exec s = (.ok ⟨s.nextSerial, p⟩, { s with nextSerial := s.nextSerial + 1 }) := rfl

theorem exec_scanned (d : Delimiter) (sql : Text) (s : State) :
    (scanned d sql).exec s = ((scan d sql).mapError fun e => .error (.unclosed e), s) := by
  unfold scanned
  cases scan d sql <;> rfl

theorem exec_scanned_ok {d : Delimiter} {sql : Text} {q : Scanned} (h : scan d sql = .ok q)
    (s : State) : (scanned d sql).exec s = (.ok q, s) := by
  rw [exec_scanned, h]
  rfl

theorem exec_scanned_error {d : Delimiter} {sql : Text} {e : LexError}
    (h : scan d sql = .error e) (s : State) :
    (scanned d sql).exec s = (.error (.error (.unclosed e)), s) := by
  rw [exec_scanned, h]
  rfl

theorem exec_fieldMap? (r : Resolver) (isolated : Bool) (c : Class) (s : State) :
    (fieldMap? r isolated c).exec s =
      if isolated then (.ok (Registry.fieldMap? r c []).1, s)
      else (.ok (Registry.fieldMap? r c s.registry).1,
        { s with registry := (Registry.fieldMap? r c s.registry).2 }) := by
  cases isolated <;> rfl

/-! ## Caches -/

section

variable {s : State} {name : Text} {c : Cache}

theorem exec_cache (h : s.caches.lookup name = some c) : (cache name).exec s = (.ok c, s) := by
  simp [cache, exec_bind, h]

theorem exec_cache_none (h : s.caches.lookup name = none) :
    (cache name).exec s = (.error (.ofKind .key), s) := by
  simp [cache, exec_bind, h]

@[simp] theorem exec_setCache (name : Text) (c : Cache) (s : State) :
    (setCache name c).exec s = (.ok (), { s with caches := putEntry name c s.caches }) := rfl

theorem exec_cached? (h : s.caches.lookup name = some c) (sql : Text) :
    (cached? name sql).exec s =
      (.ok (c.get sql).1, { s with caches := putEntry name (c.get sql).2 s.caches }) := by
  simp [cached?, exec_bind, exec_map, exec_cache h]

theorem exec_storeIn (h : s.caches.lookup name = some c) (sql : Text) (q : Issued) :
    (storeIn name sql q).exec s = (.ok (c.store sql q).1, { s with
      caches := putEntry name (c.store sql q).2.1 s.caches
      events := s.events ++ ((c.store sql q).2.2.map evictionEvent).toList }) := by
  rcases hstore : c.store sql q with ⟨stored, c', _ | old⟩ <;>
    simp [storeIn, exec_bind, exec_map, exec_cache h, hstore]

theorem exec_deleteFrom (h : s.caches.lookup name = some c) (sql : Text) :
    (deleteFrom name sql).exec s =
      (.ok (c.contains sql),
        { s with caches := putEntry name (c.delete sql).2 s.caches }) := by
  simp [deleteFrom, exec_bind, exec_map, exec_cache h, Cache.delete]

theorem exec_clearCache (h : s.caches.lookup name = some c) :
    (clearCache name).exec s =
      (.ok (), { s with caches := putEntry name c.clear s.caches }) := by
  simp [clearCache, exec_bind, exec_cache h]

/-! Every operation on a cache that was never opened fails and changes nothing. -/

theorem exec_cache_bind_none (h : s.caches.lookup name = none) (k : Cache → Session α) :
    (cache name >>= k).exec s = (.error (.ofKind .key), s) := by
  rw [exec_bind, exec_cache_none h]

theorem exec_cached?_none (h : s.caches.lookup name = none) (sql : Text) :
    (cached? name sql).exec s = (.error (.ofKind .key), s) := exec_cache_bind_none h _

theorem exec_storeIn_none (h : s.caches.lookup name = none) (sql : Text) (q : Issued) :
    (storeIn name sql q).exec s = (.error (.ofKind .key), s) := exec_cache_bind_none h _

theorem exec_deleteFrom_none (h : s.caches.lookup name = none) (sql : Text) :
    (deleteFrom name sql).exec s = (.error (.ofKind .key), s) := exec_cache_bind_none h _

theorem exec_clearCache_none (h : s.caches.lookup name = none) :
    (clearCache name).exec s = (.error (.ofKind .key), s) := exec_cache_bind_none h _

theorem containsIn_state (name : Text) (v : Value) (s : State) :
    ((containsIn name v).exec s).2 = s := by
  unfold containsIn
  cases h : s.caches.lookup name with
  | none => rw [exec_cache_bind_none h]
  | some c =>
    rw [exec_bind, exec_cache h]
    dsimp only
    split
    · rfl
    · split <;> rfl

theorem exec_openCache {size : Int} {c : Cache} (h : Cache.ofSize? size = some c) :
    (openCache name size).exec s = (.ok (), { s with caches := putEntry name c s.caches }) := by
  simp [openCache, h]

end

/-! ## Properties of computations -/

/-- From states in which `I` holds, `m` leads to such states. -/
def Preserves (I : State → Prop) (m : Session α) : Prop := ∀ s, I s → I (m.exec s).2

namespace Preserves

variable {I : State → Prop}

theorem bind {m : Session α} {k : α → Session β} (hm : Preserves I m)
    (hk : ∀ a, Preserves I (k a)) : Preserves I (m >>= k) := by
  intro s hs
  have h := hm s hs
  rw [exec_bind]
  rcases hexec : m.exec s with ⟨f | a, s'⟩ <;> rw [hexec] at h
  · exact h
  · exact hk a s' h

theorem tryCatch {m : Session α} {k : Failure → Session α} (hm : Preserves I m)
    (hk : ∀ f, Preserves I (k f)) : Preserves I (MonadExcept.tryCatch m k) := by
  intro s hs
  have h := hm s hs
  rw [exec_tryCatch]
  rcases hexec : m.exec s with ⟨f | a, s'⟩ <;> rw [hexec] at h
  · exact hk f s' h
  · exact h

end Preserves

/-- A property of computations that sequencing keeps. -/
structure Sequential (P : {α : Type} → Session α → Prop) : Prop where
  pure {α : Type} (a : α) : P (Pure.pure a : Session α)
  bind {α β : Type} {m : Session α} {k : α → Session β} :
    P m → (∀ a, P (k a)) → P (m >>= k)

namespace Sequential

variable {P : {α : Type} → Session α → Prop} (hP : Sequential P)
  {check : Prepared → Session Unit} (hcheck : ∀ p, P (check p))

include hP hcheck

/-- What preparing is made of. -/
theorem prepareWith {c : Config} {sql : Text} {examples : Nat}
    (hscanned : P (Session.scanned c.delimiter sql))
    (hissued : ∀ p, P (do report (preparedEvent p examples); issue p)) (isolated : Bool) :
    P (Session.prepareWith c isolated sql examples check) :=
  hP.bind hscanned fun _ => hP.bind (hcheck _) fun _ => hissued _

/-- What asking a cache is made of. -/
theorem getOrPrepareWith {name sql : Text} {examples : Nat}
    (hcached : P (Session.cached? name sql)) (hconfig : P Session.config)
    (hscanned : ∀ d, P (Session.scanned d sql))
    (hissued : ∀ p, P (do report (preparedEvent p examples); issue p))
    (hstore : ∀ q, P (Session.storeIn name sql q)) :
    P (Session.getOrPrepareWith name sql examples check) := by
  refine hP.bind hcached fun found => ?_
  cases found with
  | some q => exact hP.pure q
  | none =>
    refine hP.bind hconfig fun c => hP.bind ?_ hstore
    exact hP.prepareWith hcheck (hscanned c.delimiter) hissued false

end Sequential

/-- A source asks a cache for a text when it looks a name up, or a source does on which what it
asks for is checked. -/
inductive Requests (name sql : Text) : Source → Prop
  | outer (examples : List Source) : Requests name sql (.requester name sql examples)
  | inner {cache query : Text} {examples : List Source} {x : Source} :
      x ∈ examples → Requests name sql x → Requests name sql (.requester cache query examples)

/-- A property that holds of a computation when it holds of its parts, and holds of what binding
and preparing are made of, where caches are asked only for certain texts. -/
structure CompositionalFor (asked : Text → Text → Prop)
    (P : {α : Type} → Session α → Prop) : Prop where
  pure {α : Type} (a : α) : P (Pure.pure a : Session α)
  fail {α : Type} (f : Failure) : P (Session.fail f : Session α)
  bind {α β : Type} {m : Session α} {k : α → Session β} :
    P m → (∀ a, P (k a)) → P (m >>= k)
  tryCatch {α : Type} {m : Session α} {k : Failure → Session α} :
    P m → (∀ f, P (k f)) → P (MonadExcept.tryCatch m k)
  fieldMap? (r : Resolver) (isolated : Bool) (c : Class) : P (Session.fieldMap? r isolated c)
  getOrPrepareWith (name sql : Text) (examples : Nat) {check : Prepared → Session Unit} :
    asked name sql → (∀ p, P (check p)) → P (Session.getOrPrepareWith name sql examples check)

namespace CompositionalFor

variable {asked : Text → Text → Prop} {P : {α : Type} → Session α → Prop}
  (hP : CompositionalFor asked P)

include hP

theorem discard {m : Session α} (hm : P m) : P (Functor.discard m) := by
  have h := hP.bind hm fun _ => hP.pure ()
  rwa [bind_pure_comp] at h

theorem mapM {f : α → Session β} (h : ∀ a, P (f a)) (as : List α) : P (as.mapM f) := by
  induction as with
  | nil => exact hP.pure []
  | cons a as ih =>
    rw [List.mapM_cons]
    exact hP.bind (h a) fun b => hP.bind ih fun bs => hP.pure (b :: bs)

theorem orMissing {m : Session α} (missing : Failure) (hm : P m) :
    P (Session.orMissing missing m) := by
  refine hP.tryCatch hm fun f => ?_
  cases f with
  | fault f => exact hP.fail _
  | _ => exact hP.fail _

theorem checkClass (r : Resolver) (isolated : Bool) (c : Class) (names : List Text)
    (sql : Option Text) : P (Session.checkClass r isolated c names sql) := by
  refine hP.bind (hP.fieldMap? r isolated c) fun m => ?_
  cases m with
  | none => exact hP.fail _
  | some m =>
    dsimp only
    cases names.find? (!m.contains ·) with
    | none => exact hP.pure _
    | some name => exact hP.fail _

theorem answersBy (r : Resolver) (m : Option FieldMap) (s : Source) (names : List Text)
    (sql : Option Text) : P (Session.answersBy r m s names sql) := by
  unfold Session.answersBy
  split
  · exact hP.pure _
  · exact hP.fail _

theorem answers (r : Resolver) (isolated : Bool) (s : Source) (names : List Text)
    (sql : Option Text) : P (Session.answers r isolated s names sql) := by
  unfold Session.answers
  split
  · exact hP.bind (hP.pure none) fun m => hP.answersBy ..
  · exact hP.bind (hP.pure none) fun m => hP.answersBy ..
  · exact hP.bind (hP.fieldMap? ..) fun m => hP.answersBy ..

mutual

theorem resolve (r : Resolver) (isolated : Bool) (names : List Text) (sql : Option Text) :
    ∀ x : Source, (∀ name query, Requests name query x → asked name query) →
      P (Session.resolve r isolated names sql x)
  | .requester name query examples, h => by
    unfold Session.resolve
    refine hP.bind (hP.fieldMap? ..) fun m => ?_
    cases m with
    | some m => exact hP.answersBy ..
    | none =>
      refine hP.mapM (fun n => hP.bind (hP.orMissing _ (hP.discard ?_)) fun _ => hP.pure _) names
      refine hP.getOrPrepareWith _ _ _ (h _ _ (.outer _)) fun p => ?_
      exact checkAll p.config.resolver p.isolated p.names p.rawSql examples
        fun x hx name query hquery => h name query (.inner hx hquery)
  | .absent, _ | .value .., _ | .mapping .., _ | .instance _, _ | .cls _, _ => by
    unfold Session.resolve
    split
    · exact hP.pure []
    · exact hP.answers ..

theorem checkAll (r : Resolver) (isolated : Bool) (names : List Text) (sql : Option Text) :
    ∀ sources : List Source,
      (∀ x ∈ sources, ∀ name query, Requests name query x → asked name query) →
        P (Session.checkAll r isolated names sql sources)
  | [], _ => hP.pure ()
  | x :: rest, h => by
    have hx := resolve r isolated names sql x (h x List.mem_cons_self)
    have hrest := checkAll r isolated names sql rest fun y hy => h y (List.mem_cons_of_mem x hy)
    cases x with
    | cls c => exact hP.bind (hP.checkClass r isolated c names sql) fun _ => hrest
    | _ => exact hP.bind (hP.discard hx) fun _ => hrest

end

end CompositionalFor

/-- A property that holds of a computation when it holds of its parts, and holds of what binding
and preparing are made of. -/
structure Compositional (P : {α : Type} → Session α → Prop) : Prop where
  pure {α : Type} (a : α) : P (Pure.pure a : Session α)
  fail {α : Type} (f : Failure) : P (Session.fail f : Session α)
  bind {α β : Type} {m : Session α} {k : α → Session β} :
    P m → (∀ a, P (k a)) → P (m >>= k)
  tryCatch {α : Type} {m : Session α} {k : Failure → Session α} :
    P m → (∀ f, P (k f)) → P (MonadExcept.tryCatch m k)
  fieldMap? (r : Resolver) (isolated : Bool) (c : Class) : P (Session.fieldMap? r isolated c)
  getOrPrepareWith (name sql : Text) (examples : Nat) {check : Prepared → Session Unit} :
    (∀ p, P (check p)) → P (Session.getOrPrepareWith name sql examples check)

namespace Compositional

variable {P : {α : Type} → Session α → Prop} (hP : Compositional P)

include hP

/-- Whatever caches are asked for. -/
theorem forAll : CompositionalFor (fun _ _ => True) P where
  pure := hP.pure
  fail := hP.fail
  bind := hP.bind
  tryCatch := hP.tryCatch
  fieldMap? := hP.fieldMap?
  getOrPrepareWith name sql examples _ _ hcheck := hP.getOrPrepareWith name sql examples hcheck

theorem discard {m : Session α} (hm : P m) : P (Functor.discard m) := hP.forAll.discard hm

theorem resolve (r : Resolver) (isolated : Bool) (names : List Text) (sql : Option Text)
    (x : Source) : P (Session.resolve r isolated names sql x) :=
  hP.forAll.resolve r isolated names sql x fun _ _ _ => trivial

theorem checkAll (r : Resolver) (isolated : Bool) (names : List Text) (sql : Option Text)
    (sources : List Source) : P (Session.checkAll r isolated names sql sources) :=
  hP.forAll.checkAll r isolated names sql sources fun _ _ _ _ _ => trivial

end Compositional

end Session

end NamedSql
