import NamedSql.Proofs.Query.Factoring
import NamedSql.Proofs.Session.Calls
import NamedSql.Proofs.Session.Resolution

/-!
# Asserting a record class up front

A query can be prepared with a record class in the place of an example. Only the field map of the
class is looked at then, and no object of it. What this says about objects that are bound later
rests on two facts.

**Attributes.** An object of the class answers by the same field map. If its attributes can be read
(`Source.Reads`), a name has a value exactly when the map has the name.

**Field maps stay.** Asserting a class puts its field map into the registry, and nothing but a
registration of that class replaces it (`Action.keeps_entry`).

**Theorem (`asserted_class_exact`).** A query that was prepared with a class binds every readable
object of it from then on, and a query that was refused for a name refuses every such object for
that name.
-/

namespace NamedSql

/-! ## Objects of a class -/

namespace Source

/-- `x` is an object of the class `c`. -/
structure IsA (x : Source) (c : Class) : Prop where
  classOf : x.classOf = c
  isMapping : x.isMapping = c.isMapping

/-- Every attribute that a field map names can be read from `x`. -/
def Reads (x : Source) (m : FieldMap) : Prop := ∀ e ∈ m.entries, (x.attribute? e.2).isSome

theorem answering_some {x : Source} (hmapping : x.isMapping = false) (habsent : x ≠ absent)
    (mapper : Text → Text) (m : FieldMap) :
    x.answering mapper (some m) = .attributes m x.attribute? := by
  cases x with
  | absent => contradiction
  | mapping c es => contradiction
  | _ => rfl

theorem Answering.answer_attributes_some {m : FieldMap} {name a : Text} (h : m.get? name = some a)
    (read : Text → Option Value) (missing : Failure) :
    (attributes m read).answer missing name =
      (read a).elim (.error (.ofKind .noAttribute)) .ok := by
  simp only [answer, h]

theorem Answering.answer_attributes_none {m : FieldMap} {name : Text} (h : m.get? name = none)
    (read : Text → Option Value) (missing : Failure) :
    (attributes m read).answer missing name = .error missing := by
  simp only [answer, h]

namespace Reads

variable {x : Source} {m : FieldMap} {names : List Text} (h : x.Reads m) (missing : Text → Failure)

include h

theorem answer_eq_ok {name : Text} (hname : m.contains name = true) :
    ∃ v, (Answering.attributes m x.attribute?).answer (missing name) name = .ok v := by
  obtain ⟨a, ha⟩ := Option.isSome_iff_exists.mp hname
  obtain ⟨v, hv⟩ := Option.isSome_iff_exists.mp (h (name, a) (mem_of_lookup ha))
  rw [Answering.answer_attributes_some ha, hv]
  exact ⟨v, rfl⟩

/-- Names that the field map has all have values. -/
theorem answerAll_eq_ok (hnames : names.find? (!m.contains ·) = none) :
    ∃ values, (Answering.attributes m x.attribute?).answerAll missing names = .ok values := by
  induction names with
  | nil => exact ⟨[], rfl⟩
  | cons name names ih =>
    rw [List.find?_cons] at hnames
    split at hnames
    · contradiction
    · next hname =>
      rw [Bool.not_eq_false'] at hname
      obtain ⟨v, hv⟩ := h.answer_eq_ok missing hname
      obtain ⟨values, hvalues⟩ := ih hnames
      rw [Answering.answerAll_cons, hv, hvalues]
      exact ⟨v :: values, rfl⟩

/-- The first name that the field map does not have is the one that is missing. -/
theorem answerAll_eq_error {n : Text} (hnames : names.find? (!m.contains ·) = some n) :
    (Answering.attributes m x.attribute?).answerAll missing names = .error (missing n) := by
  induction names with
  | nil => contradiction
  | cons name names ih =>
    rw [Answering.answerAll_cons]
    rw [List.find?_cons] at hnames
    split at hnames
    · next hname =>
      obtain rfl := Option.some.inj hnames
      have hnone : m.get? name = none := by simpa [FieldMap.contains] using hname
      rw [Answering.answer_attributes_none hnone]
    · next hname =>
      rw [Bool.not_eq_false'] at hname
      obtain ⟨v, hv⟩ := h.answer_eq_ok missing hname
      rw [hv, ih hnames]
      rfl

end Reads

end Source

namespace Session

/-! ## Preparing with a class -/

/-- A query is issued if it passes its check. -/
theorem exec_prepareWith_ok {c : Config} {isolated : Bool} {sql : Text} {examples : Nat}
    {check : Prepared → Session Unit} {q : Scanned} {s s' : State}
    (hscan : scan c.delimiter sql = .ok q)
    (hcheck : (check ⟨q, c, isolated⟩).exec s = (.ok (), s')) :
    (prepareWith c isolated sql examples check).exec s =
      (.ok ⟨s'.nextSerial, ⟨q, c, isolated⟩⟩, { s' with
        events := s'.events ++ [preparedEvent ⟨q, c, isolated⟩ examples]
        nextSerial := s'.nextSerial + 1 }) := by
  unfold prepareWith
  rw [exec_bind, exec_scanned_ok hscan]
  dsimp only
  rw [exec_bind, hcheck]
  rfl

theorem exec_prepareWith_error {c : Config} {isolated : Bool} {sql : Text} {examples : Nat}
    {check : Prepared → Session Unit} {q : Scanned} {s s' : State} {f : Failure}
    (hscan : scan c.delimiter sql = .ok q)
    (hcheck : (check ⟨q, c, isolated⟩).exec s = (.error f, s')) :
    (prepareWith c isolated sql examples check).exec s = (.error f, s') := by
  unfold prepareWith
  rw [exec_bind, exec_scanned_ok hscan]
  dsimp only
  rw [exec_bind, hcheck]

/-- A query is prepared with a class, or refused for a name, as the known field map says. -/
theorem prepare_cls_cases {c : Class} {sql : Text} {s s' : State} {r : Except Failure Issued}
    (h : (prepare s.config false sql [.cls c]).exec s = (r, s')) :
    (∃ e, r = .error (.error (.unclosed e))) ∨
    r = .error (.error (.misconfigured (.nothingToAssert c.name))) ∨
    ∃ q m, scan s.config.delimiter sql = .ok q ∧
      Registry.known? s.config.resolver c s.registry = some m ∧
      s'.config = s.config ∧ s'.registry.lookup c.id = some m ∧
      r = match q.names.find? (!m.contains ·) with
        | some n => .error (missingParameter n (some c.metaName) (some q.sql))
        | none => .ok ⟨s.nextSerial, ⟨q, s.config, false⟩⟩ := by
  unfold prepare at h
  cases hscan : scan s.config.delimiter sql with
  | error e =>
    unfold prepareWith at h
    rw [exec_bind, exec_scanned_error hscan] at h
    exact .inl ⟨e, (Prod.mk.inj h).1.symm⟩
  | ok q =>
    have hcheck := exec_checkClass s.config.resolver c q.names (some q.sql) s
    rw [← exec_checkAll_cls] at hcheck
    cases hm : Registry.known? s.config.resolver c s.registry with
    | none =>
      rw [hm] at hcheck
      rw [exec_prepareWith_error hscan hcheck] at h
      exact .inr (.inl (Prod.mk.inj h).1.symm)
    | some m =>
      have hentry := Registry.lookup_fieldMap?_snd s.config.resolver c s.registry c.id
      rw [if_pos rfl, hm] at hentry
      refine .inr (.inr ⟨q, m, rfl, rfl, ?_⟩)
      rw [hm] at hcheck
      dsimp only at hcheck
      cases hfind : q.names.find? (!m.contains ·) with
      | some n =>
        rw [hfind] at hcheck
        rw [exec_prepareWith_error hscan hcheck] at h
        obtain ⟨rfl, rfl⟩ := Prod.mk.inj h
        exact ⟨rfl, hentry, rfl⟩
      | none =>
        rw [hfind] at hcheck
        rw [exec_prepareWith_ok hscan hcheck] at h
        obtain ⟨rfl, rfl⟩ := Prod.mk.inj h
        exact ⟨rfl, hentry, rfl⟩

/-- A query that was prepared with a class has names of its field map only, and the map is in the
registry from then on. -/
theorem of_prepare_cls_eq_ok {c : Class} {sql : Text} {s s' : State} {p : Issued}
    (h : (prepare s.config false sql [.cls c]).exec s = (.ok p, s')) :
    ∃ m, s'.registry.lookup c.id = some m ∧ p.query.isolated = false ∧
      p.query.names.find? (!m.contains ·) = none := by
  obtain ⟨e, he⟩ | he | ⟨q, m, -, -, -, hentry, hresult⟩ := prepare_cls_cases h
  · contradiction
  · contradiction
  · split at hresult
    · contradiction
    · next hfind =>
      obtain rfl := Except.ok.inj hresult
      exact ⟨m, hentry, rfl, hfind⟩

/-- A query is refused for its first name that is not in the field map, which is known of the class
before and after. -/
theorem of_prepare_cls_eq_error {c : Class} {sql n : Text} {t sql' : Option Text} {s s' : State}
    (h : (prepare s.config false sql [.cls c]).exec s =
      (.error (.error (.unknownParameter n t sql')), s')) :
    s'.config = s.config ∧ ∃ q m, scan s.config.delimiter sql = .ok q ∧
      q.names.find? (!m.contains ·) = some n ∧
      Registry.known? s.config.resolver c s.registry = some m ∧
      Registry.known? s.config.resolver c s'.registry = some m := by
  obtain ⟨e, he⟩ | he | ⟨q, m, hscan, hm, hconfig, hentry, hresult⟩ := prepare_cls_cases h
  · exact nomatch he
  · exact nomatch he
  · split at hresult
    · next n' hfind =>
      obtain ⟨rfl, -, -⟩ :=
        Error.unknownParameter.inj (Failure.error.inj (Except.error.inj hresult))
      exact ⟨hconfig, q, m, hscan, hfind, hm, Registry.known?_of_lookup hentry⟩
    · contradiction

/-- Without examples a query is prepared if it can be scanned. -/
theorem exec_prepare_nil {c : Config} {sql : Text} {q : Scanned} (h : scan c.delimiter sql = .ok q)
    (s : State) : ∃ n s', (prepare c false sql []).exec s = (.ok ⟨n, ⟨q, c, false⟩⟩, s') ∧
      s'.config = s.config ∧ s'.registry = s.registry :=
  ⟨_, _, exec_prepareWith_ok h rfl, rfl, rfl⟩

/-! ## Field maps stay -/

/-- `k` keeps the field map of a class in the registry. -/
def KeepsEntry (i : ClassId) (m : FieldMap) {α : Type} (k : Session α) : Prop :=
  ∀ s, s.registry.lookup i = some m → (k.exec s).2.registry.lookup i = some m

namespace KeepsEntry

variable {i : ClassId} {m : FieldMap} {α β : Type}

theorem of_registry {k : Session α} (h : ∀ s, (k.exec s).2.registry = s.registry) :
    KeepsEntry i m k := by
  intro s hs
  rw [h]
  exact hs

theorem bind {k : Session α} {k' : α → Session β} (hk : KeepsEntry i m k)
    (hk' : ∀ a, KeepsEntry i m (k' a)) : KeepsEntry i m (k >>= k') := Preserves.bind hk hk'

theorem tryCatch {k : Session α} {k' : Failure → Session α} (hk : KeepsEntry i m k)
    (hk' : ∀ f, KeepsEntry i m (k' f)) : KeepsEntry i m (MonadExcept.tryCatch k k') :=
  Preserves.tryCatch hk hk'

theorem fieldMap? (r : Resolver) (isolated : Bool) (c : Class) :
    KeepsEntry i m (Session.fieldMap? r isolated c) := by
  intro s hs
  rw [exec_fieldMap?]
  cases isolated with
  | true => exact hs
  | false => exact Registry.lookup_fieldMap?_snd_of_lookup hs

theorem cached? (name sql : Text) : KeepsEntry i m (Session.cached? name sql) := by
  refine of_registry fun s => ?_
  cases hc : s.caches.lookup name with
  | none => rw [exec_cached?_none hc]
  | some c => rw [exec_cached? hc]

theorem storeIn (name sql : Text) (q : Issued) : KeepsEntry i m (Session.storeIn name sql q) := by
  refine of_registry fun s => ?_
  cases hc : s.caches.lookup name with
  | none => rw [exec_storeIn_none hc]
  | some c => rw [exec_storeIn hc]

theorem deleteFrom (name sql : Text) : KeepsEntry i m (Session.deleteFrom name sql) := by
  refine of_registry fun s => ?_
  cases hc : s.caches.lookup name with
  | none => rw [exec_deleteFrom_none hc]
  | some c => rw [exec_deleteFrom hc]

theorem clearCache (name : Text) : KeepsEntry i m (Session.clearCache name) := by
  refine of_registry fun s => ?_
  cases hc : s.caches.lookup name with
  | none => rw [exec_clearCache_none hc]
  | some c => rw [exec_clearCache hc]

theorem containsIn (name : Text) (v : Value) : KeepsEntry i m (Session.containsIn name v) := by
  refine of_registry fun s => ?_
  rw [containsIn_state]

theorem openCache (name : Text) (size : Int) : KeepsEntry i m (Session.openCache name size) := by
  refine of_registry fun s => ?_
  unfold Session.openCache
  cases Cache.ofSize? size <;> rfl

theorem compile (sql : Text) : KeepsEntry i m (Session.compile sql) := by
  refine of_registry fun s => ?_
  unfold Session.compile
  rw [exec_bind, exec_config]
  dsimp only
  rw [exec_bind]
  cases hscan : scan s.config.delimiter sql with
  | error e => rw [exec_scanned_error hscan]
  | ok q =>
    rw [exec_scanned_ok hscan]
    rfl

theorem restyle (p : Prepared) (style : Value) : KeepsEntry i m (Session.restyle p style) := by
  refine of_registry fun s => ?_
  unfold Session.restyle
  cases p.restyle style <;> rfl

theorem sequential (i : ClassId) (m : FieldMap) : Sequential (KeepsEntry i m) where
  pure _ := of_registry fun _ => rfl
  bind := bind

theorem scanned (d : Delimiter) (sql : Text) : KeepsEntry i m (Session.scanned d sql) := by
  refine of_registry fun s => ?_
  rw [exec_scanned]

theorem prepareWith (c : Config) (isolated : Bool) (sql : Text) (examples : Nat)
    {check : Prepared → Session Unit} (hcheck : ∀ p, KeepsEntry i m (check p)) :
    KeepsEntry i m (Session.prepareWith c isolated sql examples check) :=
  (sequential i m).prepareWith hcheck (scanned c.delimiter sql)
    (fun _ => of_registry fun _ => rfl) isolated

theorem getOrPrepareWith (name sql : Text) (examples : Nat) {check : Prepared → Session Unit}
    (hcheck : ∀ p, KeepsEntry i m (check p)) :
    KeepsEntry i m (Session.getOrPrepareWith name sql examples check) :=
  (sequential i m).getOrPrepareWith hcheck (cached? name sql) (of_registry fun _ => rfl)
    (scanned · sql) (fun _ => of_registry fun _ => rfl) (storeIn name sql)

/-- Binding and preparing keep every field map that is in the registry. -/
theorem compositional (i : ClassId) (m : FieldMap) : Compositional (KeepsEntry i m) where
  pure _ := of_registry fun _ => rfl
  fail _ := of_registry fun _ => rfl
  bind := bind
  tryCatch := tryCatch
  fieldMap? := fieldMap?
  getOrPrepareWith name sql examples _ hcheck := getOrPrepareWith name sql examples hcheck

theorem resolve (r : Resolver) (isolated : Bool) (names : List Text) (sql : Option Text)
    (x : Source) : KeepsEntry i m (Session.resolve r isolated names sql x) :=
  (compositional i m).resolve r isolated names sql x

theorem checkAll (r : Resolver) (isolated : Bool) (names : List Text) (sql : Option Text)
    (xs : List Source) : KeepsEntry i m (Session.checkAll r isolated names sql xs) :=
  (compositional i m).checkAll r isolated names sql xs

theorem discard {k : Session α} (hk : KeepsEntry i m k) : KeepsEntry i m (Functor.discard k) :=
  (compositional i m).discard hk

theorem bindText (sql : Text) (x : Source) : KeepsEntry i m (Session.bindText sql x) := by
  refine (compile sql).bind fun q => bind (of_registry fun _ => rfl) fun c => ?_
  exact (resolve _ _ _ _ x).bind fun _ => of_registry fun _ => rfl

theorem bindPrepared (p : Prepared) (x : Source) : KeepsEntry i m (Session.bind p x) :=
  bind (resolve _ _ _ _ x) fun _ => of_registry fun _ => rfl

/-- A registration keeps the field maps of all other classes. -/
theorem register {c : Class} (hc : c.id ≠ i) (entries : Option (List (Text × Text))) :
    KeepsEntry i m (Session.register c entries) := by
  intro s hs
  rw [exec_register]
  cases Registry.newMap? s.config.resolver c entries with
  | none => exact hs
  | some m' => exact (lookup_putEntry ..).trans ((if_neg hc.symm).trans hs)

end KeepsEntry

/-! ## Actions -/

/-- What a program can do with an interface: a call, or something that leaves the caches and the
registry to themselves. -/
inductive Action where
  | call (c : Call)
  | compile (sql : Text)
  | openCache (name : Text) (size : Int)
  | restyle (p : Prepared) (style : Value)
  /-- A query is prepared under settings of its own. -/
  | prepareApart (c : Config) (sql : Text) (examples : List Source)

namespace Action

def perform : Action → Session Unit
  | call c => discard c.perform
  | compile sql => discard (Session.compile sql)
  | openCache name size => Session.openCache name size
  | restyle p style => discard (Session.restyle p style)
  | prepareApart c sql examples => discard (Session.prepare c true sql examples)

/-- The class that an action registers. -/
def registers? : Action → Option Class
  | call (.register c _) => some c
  | _ => none

/-- The state after actions, whether they succeed or fail. -/
def after (actions : List Action) (s : State) : State :=
  actions.foldl (fun s a => (a.perform.exec s).2) s

variable {i : ClassId} {m : FieldMap}

theorem keeps_entry {a : Action} (h : ∀ c, a.registers? = some c → c.id ≠ i) :
    KeepsEntry i m a.perform := by
  have prepare (c : Config) (isolated : Bool) (sql : Text) (examples : List Source) :
      KeepsEntry i m (Session.prepare c isolated sql examples) :=
    .prepareWith c isolated sql _ fun p => .checkAll _ _ _ _ examples
  have nothing {α : Type} (a : α) : KeepsEntry i m (pure a : Session α) :=
    .of_registry fun _ => rfl
  cases a with
  | call c =>
    refine .discard ?_
    cases c with
    | prepare sql examples =>
      refine .bind (.bind (.of_registry fun _ => rfl) fun c => ?_) fun _ => nothing _
      exact prepare c false sql examples
    | bindText sql x => exact .bind (.discard (.bindText sql x)) fun _ => nothing _
    | fieldMap? c =>
      refine .bind (.discard ?_) fun _ => nothing _
      exact .bind (.of_registry fun _ => rfl) fun config => .fieldMap? _ _ c
    | register c entries => exact .bind (.discard (.register (h c rfl) entries)) fun _ => nothing _
    | get cache sql => exact .bind (.cached? cache sql) fun _ => nothing _
    | getOrPrepare cache sql examples =>
      refine .bind (.getOrPrepareWith cache sql _ fun p => ?_) fun _ => nothing _
      exact .checkAll _ _ _ _ examples
    | delete cache sql => exact .bind (.discard (.deleteFrom cache sql)) fun _ => nothing _
    | contains cache v => exact .bind (.discard (.containsIn cache v)) fun _ => nothing _
    | clear cache => exact .bind (.discard (.clearCache cache)) fun _ => nothing _
    | bind p x => exact .bind (.discard (.bindPrepared p x)) fun _ => nothing _
    | validate p x => exact .bind (.discard (.checkAll _ _ _ _ [x])) fun _ => nothing _
  | compile sql => exact .discard (.compile sql)
  | openCache name size => exact .openCache name size
  | restyle p style => exact .discard (.restyle p style)
  | prepareApart c sql examples => exact .discard (prepare c true sql examples)

/-- **A field map in the registry stays until its class is registered again.** -/
theorem lookup_after {actions : List Action} {s : State}
    (h : ∀ a ∈ actions, ∀ c, a.registers? = some c → c.id ≠ i)
    (hm : s.registry.lookup i = some m) : (after actions s).registry.lookup i = some m := by
  induction actions generalizing s with
  | nil => exact hm
  | cons a actions ih =>
    rw [List.forall_mem_cons] at h
    exact ih h.2 (keeps_entry h.1 s hm)

end Action

/-! ## Objects of an asserted class -/

/-- `x` is an object of the class `c`, and in the state `s` every attribute that the field map of
`c` names can be read from it. -/
structure ReadableAs (x : Source) (c : Class) (s : State) : Prop where
  isA : x.IsA c
  reads (m : FieldMap) :
    ((fieldMap? s.config.resolver false c).exec s).1 = .ok (some m) → x.Reads m

theorem ReadableAs.reads_of_known {x : Source} {c : Class} {s : State} {m : FieldMap}
    (hx : ReadableAs x c s) (hm : Registry.known? s.config.resolver c s.registry = some m) :
    x.Reads m := by
  refine hx.reads m ?_
  rw [exec_fieldMap?_false, hm]

section

variable {c : Class} (hmapping : c.isMapping = false) (habsent : c ≠ Source.absent.classOf)

include hmapping habsent

/-- A readable object answers by the field map that is known of its class. -/
theorem ReadableAs.bind_fst_eq {x : Source} {s : State} {m : FieldMap} {p : Prepared}
    (hx : ReadableAs x c s) (hisolated : p.isolated = false)
    (hm : Registry.known? p.config.resolver c s.registry = some m) :
    ((bind p x).exec s).1 =
      ((Source.Answering.attributes m x.attribute?).answerAll
        (missingParameter · (some c.name) (some p.rawSql)) p.names).map
          (Bound.mk p.compiled.sql) := by
  obtain ⟨⟨rfl, hx⟩, -⟩ := hx
  have hne : x ≠ .absent := by
    rintro rfl
    contradiction
  have htype : x.typeName? = some x.classOf.name := by
    cases x with
    | absent => contradiction
    | _ => rfl
  rw [bind_fst, hisolated, (answersFor_resolve_of_known hm _ _).fst_eq, hm,
    Source.answering_some (hx.trans hmapping) hne, htype]

theorem ReadableAs.bind_eq_ok {x : Source} {s : State} {m : FieldMap} {p : Prepared}
    (hx : ReadableAs x c s) (hisolated : p.isolated = false)
    (hm : s.registry.lookup c.id = some m) (hfind : p.names.find? (!m.contains ·) = none) :
    ∃ values, ((bind p x).exec s).1 = .ok ⟨p.compiled.sql, values⟩ ∧
      values.length = p.names.length := by
  have hreads : x.Reads m := hx.reads_of_known (Registry.known?_of_lookup hm)
  obtain ⟨values, hvalues⟩ := hreads.answerAll_eq_ok _ hfind
  refine ⟨values, ?_, Source.Answering.length_of_answerAll hvalues⟩
  rw [hx.bind_fst_eq hmapping habsent hisolated (Registry.known?_of_lookup hm), hvalues]
  rfl

theorem ReadableAs.bind_eq_error {x : Source} {s : State} {m : FieldMap} {p : Prepared} {n : Text}
    (hx : ReadableAs x c s) (hisolated : p.isolated = false) (hconfig : p.config = s.config)
    (hm : Registry.known? s.config.resolver c s.registry = some m)
    (hfind : p.names.find? (!m.contains ·) = some n) :
    ((bind p x).exec s).1 = .error (missingParameter n (some c.name) (some p.rawSql)) := by
  have hreads : x.Reads m := hx.reads_of_known hm
  rw [← hconfig] at hm
  rw [hx.bind_fst_eq hmapping habsent hisolated hm, hreads.answerAll_eq_error _ hfind]
  rfl

/-- **What is asserted of a class holds of its objects.** Let a class that is no class of mappings
be asserted for a query. If the query is prepared, then after any actions that do not register the
class again it binds every readable object of the class, with one value for each placeholder. If it
is refused for a name, then for the same name every readable object is refused by the query that is
prepared without the class, before or after this. -/
theorem asserted_class_exact (s : State) (sql : Text) :
    (∀ p s₁, (prepare s.config false sql [.cls c]).exec s = (.ok p, s₁) →
      ∀ actions : List Action,
        (∀ a ∈ actions, ∀ c', a.registers? = some c' → c'.id ≠ c.id) →
        ∀ x, ReadableAs x c (Action.after actions s₁) → ∃ values,
          ((bind p.query x).exec (Action.after actions s₁)).1 =
            .ok ⟨p.query.compiled.sql, values⟩ ∧ values.length = p.query.names.length) ∧
    ∀ n t sql' s₁, (prepare s.config false sql [.cls c]).exec s =
        (.error (.error (.unknownParameter n t sql')), s₁) →
      ∀ s', s' = s ∨ s' = s₁ → ∃ p s₂, (prepare s.config false sql []).exec s' = (.ok p, s₂) ∧
        ∀ x, ReadableAs x c s₂ →
          ((bind p.query x).exec s₂).1 =
            .error (.error (.unknownParameter n (some c.name) (some sql))) := by
  constructor
  · intro p s₁ hprepare actions hactions x hx
    obtain ⟨m, hentry, hisolated, hfind⟩ := of_prepare_cls_eq_ok hprepare
    have hlater := Action.lookup_after hactions hentry
    exact hx.bind_eq_ok hmapping habsent hisolated hlater hfind
  · intro n t sql' s₁ hprepare s' hs'
    obtain ⟨hconfig, q, m, hscan, hfind, hm, hm₁⟩ := of_prepare_cls_eq_error hprepare
    have hknown : s'.config = s.config ∧
        Registry.known? s.config.resolver c s'.registry = some m := by
      obtain rfl | rfl := hs'
      · exact ⟨rfl, hm⟩
      · exact ⟨hconfig, hm₁⟩
    obtain ⟨serial, s₂, hplain, hconfig₂, hregistry₂⟩ := exec_prepare_nil hscan s'
    refine ⟨_, s₂, hplain, fun x hx => ?_⟩
    have hsql : Prepared.rawSql ⟨q, s.config, false⟩ = sql :=
      Prepares.rawSql_eq (⟨q, hscan, rfl⟩ : Prepares s.config sql _)
    have hconfig' : s.config = s₂.config := (hconfig₂.trans hknown.1).symm
    have hm₂ : Registry.known? s₂.config.resolver c s₂.registry = some m := by
      rw [← hconfig', hregistry₂]
      exact hknown.2
    have hbind := hx.bind_eq_error (p := ⟨q, s.config, false⟩) hmapping habsent rfl
      hconfig' hm₂ hfind
    rwa [hsql] at hbind

end

/-- A class with one attribute, asked for by its name and by another one. -/
theorem asserted_class_exact_attribute :
    let c : Class := .named ['R']
    let s : State := { State.initial .default with registry := [(c.id, ⟨[(['a'], ['x'])]⟩)] }
    let x : Source := .instance ⟨c, [], [(['x'], .int 7)]⟩
    let other : Action := .call (.register (.named ['S']) (some [(['a'], ['y'])]))
    (∃ p s₁ values, (prepare .default false [':', 'a'] [.cls c]).exec s = (.ok p, s₁) ∧
      ((bind p.query x).exec (Action.after [other] s₁)).1 = .ok ⟨['$', '1'], values⟩ ∧
      values.length = 1) ∧
    ∃ p s₂, (prepare .default false [':', 'b'] []).exec s = (.ok p, s₂) ∧
      ((bind p.query x).exec s₂).1 =
        .error (.error (.unknownParameter ['b'] (some ['R']) (some [':', 'b']))) := by
  intro c s x other
  have habsent : c ≠ Source.absent.classOf := fun h => nomatch congrArg Class.name h
  have hx {s' : State} (hs : s'.registry.lookup c.id = some ⟨[(['a'], ['x'])]⟩) :
      ReadableAs x c s' := by
    refine ⟨⟨rfl, rfl⟩, fun m hm => ?_⟩
    rw [exec_fieldMap?_false, Registry.known?_of_lookup hs] at hm
    obtain rfl := Option.some.inj (Except.ok.inj hm)
    exact List.forall_mem_singleton.mpr rfl
  constructor
  · have hscan : scan Config.default.delimiter [':', 'a'] = _ :=
      scan_placeholder (by simp) (List.forall_mem_singleton.mpr rfl)
    have hprepare : (prepare .default false [':', 'a'] [.cls c]).exec s = _ :=
      exec_prepareWith_ok hscan rfl
    have hother : ∀ a ∈ [other], ∀ c', a.registers? = some c' → c'.id ≠ c.id := by
      rintro a ha c' hc'
      obtain rfl := List.mem_singleton.mp ha
      obtain rfl := Option.some.inj hc'
      decide
    obtain ⟨values, hbind, hlength⟩ :=
      (asserted_class_exact rfl habsent s [':', 'a']).1 _ _ hprepare _ hother x (hx rfl)
    exact ⟨_, _, values, hprepare, hbind, hlength⟩
  · have hscan : scan Config.default.delimiter [':', 'b'] = _ :=
      scan_placeholder (by simp) (List.forall_mem_singleton.mpr rfl)
    have hprepare : (prepare .default false [':', 'b'] [.cls c]).exec s =
        (.error (missingParameter ['b'] (some c.metaName) (some [':', 'b'])), _) :=
      exec_prepareWith_error hscan rfl
    obtain ⟨p, s₂, hplain, hbind⟩ :=
      (asserted_class_exact rfl habsent s [':', 'b']).2 _ _ _ _ hprepare _ (.inl rfl)
    refine ⟨p, s₂, hplain, hbind x (hx ?_)⟩
    have hsame := hplain.symm.trans (exec_prepareWith_ok hscan rfl)
    rw [(Prod.mk.inj hsame).2]
    rfl

end Session

end NamedSql
