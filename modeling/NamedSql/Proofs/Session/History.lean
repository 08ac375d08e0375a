import NamedSql.Proofs.Session.Resolution

/-!
# The registry forgets its history

A resolver remembers the field maps that it has built, and those that were registered. Which of the
two an entry of the registry is cannot be told from its answers: after any calls, what is known of a
class is the map of its last registration, or else that of its declared fields.

**Theorem (`answers_forget_history`).** After any calls of a fresh resolver, whether they succeed or
fail, a call about a class answers as if only the last successful registration of that class had
been made.

One call may only look a field map up, which keeps what is known of every class, or register a
class, which replaces what is known of that class (`known?_perform`). The theorem follows by
induction over the calls.
-/

namespace NamedSql

namespace Session

/-! ## Calls of a resolver -/

inductive ResolverCall where
  | resolve (names : List Text) (sql : Option Text) (x : Source)
  | validate (names : List Text) (sql : Option Text) (x : Source)
  | fieldMap? (c : Class)
  | register (c : Class) (entries : Option (List (Text × Text)))

inductive Answer where
  | values (vs : List Value)
  | valid
  | fieldMap? (m : Option FieldMap)

namespace ResolverCall

/-- The class whose field map a call consults or sets. -/
def about : ResolverCall → Class
  | resolve _ _ x => x.classOf
  | validate _ _ (.cls c) => c
  | validate _ _ x => x.classOf
  | fieldMap? c => c
  | register c _ => c

def perform : ResolverCall → Session Answer
  | resolve names sql x => return .values (← Session.resolve (← config).resolver false names sql x)
  | validate names sql x => do
    check (← config).resolver false names sql x
    return .valid
  | fieldMap? c => return .fieldMap? (← Session.fieldMap? (← config).resolver false c)
  | register c entries => return .fieldMap? (some (← Session.register c entries))

/-- The state after calls, whether they succeed or fail. -/
def after (calls : List ResolverCall) (s : State) : State :=
  calls.foldl (fun s k => (k.perform.exec s).2) s

/-- The calls with their answers. -/
def replay : List ResolverCall → State → List (ResolverCall × Except Failure Answer)
  | [], _ => []
  | k :: calls, s => (k, (k.perform.exec s).1) :: replay calls (k.perform.exec s).2

/-- Whether a call that was answered is a successful registration of a class. -/
def registered (c : Class) : ResolverCall × Except Failure Answer → Bool
  | (register c' _, .ok _) => c'.id = c.id
  | _ => false

/-- The last successful registration of a class. -/
def lastRegistration (c : Class) (calls : List ResolverCall) (s : State) : Option ResolverCall :=
  (((replay calls s).filter (registered c)).map Prod.fst).getLast?

/-! ## One call -/

/-- What a call answers when `m` is what is known of the class that it is about. -/
def answer (r : Resolver) (m : Option FieldMap) : ResolverCall → Except Failure Answer
  | resolve names sql x =>
    ((x.answering r.mapper.apply m).answerAll (missingParameter · x.typeName? sql) names).map
      .values
  | validate names sql (.cls c) =>
    match m with
    | none => .error (.error (.misconfigured (.nothingToAssert c.name)))
    | some m => match names.find? (!m.contains ·) with
      | some n => .error (missingParameter n (some c.metaName) sql)
      | none => .ok .valid
  | validate names sql x =>
    ((x.answering r.mapper.apply m).answerAll (missingParameter · x.typeName? sql) names).map
      fun _ => .valid
  | fieldMap? _ => .ok (.fieldMap? m)
  | register c entries =>
    match Registry.newMap? r c entries with
    | some m => .ok (.fieldMap? (some m))
    | none => .error (.error (.misconfigured (.nothingToRegister c.name)))

/-- What a call does to a state: perhaps it looks a field map up, or it registers a class. -/
inductive Touches (s : State) : ResolverCall → State → Prop
  | consults {k : ResolverCall} {s' : State} : Consults s.config.resolver k.about s s' →
      Touches s k s'
  | registers {c : Class} {entries : Option (List (Text × Text))} {m : FieldMap} :
      Registry.newMap? s.config.resolver c entries = some m →
      Touches s (register c entries) { s with registry := putEntry c.id m s.registry }

section

variable {x : Source} (h : ∀ c, x ≠ .cls c) (names : List Text) (sql : Option Text)

include h

theorem about_validate : (validate names sql x).about = x.classOf := by
  cases x with
  | cls c => exact absurd rfl (h c)
  | _ => rfl

theorem answer_validate (r : Resolver) (m : Option FieldMap) :
    (validate names sql x).answer r m = ((x.answering r.mapper.apply m).answerAll
      (missingParameter · x.typeName? sql) names).map fun _ => .valid := by
  cases x with
  | cls c => exact absurd rfl (h c)
  | _ => rfl

end

theorem exec_perform_register (c : Class) (entries : Option (List (Text × Text))) (s : State) :
    (register c entries).perform.exec s = match Registry.newMap? s.config.resolver c entries with
      | some m => (.ok (.fieldMap? (some m)), { s with registry := putEntry c.id m s.registry })
      | none => (.error (.error (.misconfigured (.nothingToRegister c.name))), s) := by
  unfold perform
  rw [exec_bind_pure fun m => Answer.fieldMap? (some m), exec_register]
  cases Registry.newMap? s.config.resolver c entries <;> rfl

/-- **A call answers by what is known of its class.** -/
theorem exec_perform {s : State} (hs : s.caches = []) (k : ResolverCall) :
    ∃ s', Touches s k s' ∧ k.perform.exec s =
      (k.answer s.config.resolver (Registry.known? s.config.resolver k.about s.registry), s') := by
  cases k with
  | resolve names sql x =>
    obtain ⟨s', hconsults, hexec⟩ :=
      answersFor_resolve_of_caches_nil hs s.config.resolver x names sql
    refine ⟨s', .consults hconsults, ?_⟩
    unfold perform
    rw [exec_bind, exec_config]
    dsimp only
    rw [exec_bind_pure, hexec]
    rfl
  | validate names sql x =>
    unfold perform check
    rw [exec_bind, exec_config]
    dsimp only
    rw [exec_bind_pure fun _ => Answer.valid]
    by_cases hcls : ∃ c, x = .cls c
    · obtain ⟨c, rfl⟩ := hcls
      rw [exec_checkAll_cls, exec_checkClass]
      refine ⟨_, .consults .fieldMap, ?_⟩
      unfold answer about
      cases Registry.known? s.config.resolver c s.registry with
      | none => rfl
      | some m =>
        dsimp only
        cases names.find? (!m.contains ·) <;> rfl
    · rw [not_exists] at hcls
      obtain ⟨s', hconsults, hexec⟩ :=
        answersFor_resolve_of_caches_nil hs s.config.resolver x names sql
      rw [exec_checkAll_singleton hcls, answer_validate hcls, hexec]
      refine ⟨s', .consults (about_validate hcls names sql ▸ hconsults), ?_⟩
      rw [about_validate hcls]
      cases (x.answering s.config.resolver.mapper.apply
        (Registry.known? s.config.resolver x.classOf s.registry)).answerAll
          (missingParameter · x.typeName? sql) names <;> rfl
  | fieldMap? c =>
    unfold perform
    rw [exec_bind, exec_config]
    dsimp only
    rw [exec_bind_pure, exec_fieldMap?_false]
    exact ⟨_, .consults .fieldMap, rfl⟩
  | register c entries =>
    have hanswer (m : Option FieldMap) : (register c entries).answer s.config.resolver m =
        match Registry.newMap? s.config.resolver c entries with
        | some m => .ok (.fieldMap? (some m))
        | none => .error (.error (.misconfigured (.nothingToRegister c.name))) := rfl
    rw [exec_perform_register, hanswer]
    cases hm : Registry.newMap? s.config.resolver c entries with
    | none => exact ⟨s, .consults .nothing, rfl⟩
    | some m => exact ⟨_, .registers hm, rfl⟩

/-! ## What a call changes -/

variable {c : Class} {s s' : State} {k : ResolverCall}

theorem Touches.config_eq (h : Touches s k s') : s'.config = s.config := by
  cases h with
  | consults h => cases h <;> rfl
  | registers => rfl

theorem Touches.caches_eq (h : Touches s k s') : s'.caches = s.caches := by
  cases h with
  | consults h => cases h <;> rfl
  | registers => rfl

theorem perform_config (hs : s.caches = []) (k : ResolverCall) :
    (k.perform.exec s).2.config = s.config := by
  obtain ⟨s', htouches, hexec⟩ := exec_perform hs k
  rw [hexec]
  exact htouches.config_eq

theorem perform_caches (hs : s.caches = []) (k : ResolverCall) :
    (k.perform.exec s).2.caches = [] := by
  obtain ⟨s', htouches, hexec⟩ := exec_perform hs k
  rw [hexec]
  exact htouches.caches_eq.trans hs

/-- A call that does not succeed in registering a class keeps what is known of it. -/
theorem known?_perform_of_not_registered (hs : s.caches = [])
    (hk : k.about.id = c.id → k.about = c)
    (h : registered c (k, (k.perform.exec s).1) = false) :
    Registry.known? s.config.resolver c (k.perform.exec s).2.registry =
      Registry.known? s.config.resolver c s.registry := by
  obtain ⟨s', htouches, hexec⟩ := exec_perform hs k
  cases htouches with
  | consults hconsults =>
    rw [hexec]
    exact hconsults.known?_eq hk
  | @registers c' entries m hm =>
    rw [exec_perform_register, hm] at h ⊢
    have hid : c.id ≠ c'.id := fun heq => of_decide_eq_false h heq.symm
    unfold Registry.known?
    dsimp only
    rw [lookup_putEntry, if_neg hid]

/-- After a successful registration of a class its map is known, whatever was known before. -/
theorem known?_perform_of_registered (h : registered c (k, (k.perform.exec s).1) = true) :
    ∃ m, ∀ s', s'.config = s.config →
      Registry.known? s.config.resolver c (k.perform.exec s').2.registry = some m := by
  cases k with
  | register c' entries =>
    rw [exec_perform_register] at h
    cases hm : Registry.newMap? s.config.resolver c' entries with
    | none =>
      rw [hm] at h
      contradiction
    | some m =>
      rw [hm] at h
      have hid : c'.id = c.id := of_decide_eq_true h
      refine ⟨m, fun s' hconfig => ?_⟩
      rw [exec_perform_register, hconfig, hm]
      refine Registry.known?_of_lookup ?_
      dsimp only
      rw [lookup_putEntry, if_pos hid.symm]
  | _ => contradiction

/-! ## Runs of calls -/

theorem lastRegistration_cons (c : Class) (k : ResolverCall) (calls : List ResolverCall)
    (s : State) :
    lastRegistration c (k :: calls) s =
      (lastRegistration c calls (k.perform.exec s).2 <|>
        if registered c (k, (k.perform.exec s).1) then some k else none) := by
  unfold lastRegistration
  rw [replay, List.filter_cons]
  generalize replay calls (k.perform.exec s).2 = answered
  cases registered c (k, (k.perform.exec s).1) with
  | true =>
    rw [if_pos rfl, List.map_cons, List.getLast?_cons]
    cases ((answered.filter (registered c)).map Prod.fst).getLast? <;> rfl
  | false =>
    rw [if_neg Bool.false_ne_true]
    cases ((answered.filter (registered c)).map Prod.fst).getLast? <;> rfl

theorem after_config (calls : List ResolverCall) (hs : s.caches = []) :
    (after calls s).config = s.config ∧ (after calls s).caches = [] := by
  induction calls generalizing s with
  | nil => exact ⟨rfl, hs⟩
  | cons k calls ih =>
    obtain ⟨hconfig, hcaches⟩ := ih (perform_caches hs k)
    exact ⟨hconfig.trans (perform_config hs k), hcaches⟩

/-- The last registration is one that succeeded in a state of the run. -/
theorem exists_registered {calls : List ResolverCall} (hs : s.caches = [])
    (h : lastRegistration c calls s = some k) :
    ∃ s', s'.config = s.config ∧ registered c (k, (k.perform.exec s').1) = true := by
  induction calls generalizing s with
  | nil => contradiction
  | cons k' calls ih =>
    rw [lastRegistration_cons] at h
    cases hlast : lastRegistration c calls (k'.perform.exec s).2 with
    | some k'' =>
      rw [hlast] at h
      obtain rfl := Option.some.inj h
      obtain ⟨s', hconfig, hregistered⟩ := ih (perform_caches hs k') hlast
      exact ⟨s', hconfig.trans (perform_config hs k'), hregistered⟩
    | none =>
      rw [hlast] at h
      cases hregistered : registered c (k', (k'.perform.exec s).1) with
      | true =>
        rw [hregistered] at h
        obtain rfl := Option.some.inj h
        exact ⟨s, rfl, hregistered⟩
      | false =>
        rw [hregistered] at h
        contradiction

/-- **What is known of a class after calls is what its last registration alone makes known.** -/
theorem known?_after {calls : List ResolverCall} (hs : s.caches = [])
    (hcalls : ∀ k ∈ calls, k.about.id = c.id → k.about = c) :
    Registry.known? s.config.resolver c (after calls s).registry =
      Registry.known? s.config.resolver c
        (after (lastRegistration c calls s).toList s).registry := by
  induction calls generalizing s with
  | nil => rfl
  | cons k calls ih =>
    rw [List.forall_mem_cons] at hcalls
    have hcaches := perform_caches hs k
    have hconfig := perform_config hs k
    have hafter := ih hcaches hcalls.2
    rw [hconfig] at hafter
    refine hafter.trans ?_
    rw [lastRegistration_cons]
    cases hlast : lastRegistration c calls (k.perform.exec s).2 with
    | some k' =>
      obtain ⟨s', hs', hregistered⟩ := exists_registered hcaches hlast
      obtain ⟨m, hm⟩ := known?_perform_of_registered hregistered
      have hsame : s'.config = s.config := hs'.trans hconfig
      rw [hsame] at hm
      exact (hm _ hconfig).trans (hm s rfl).symm
    | none =>
      cases hregistered : registered c (k, (k.perform.exec s).1) with
      | true => rfl
      | false => exact known?_perform_of_not_registered hs hcalls.1 hregistered

/-- **A resolver answers as if only the last registration of a class had been made.** After any
calls of a fresh resolver, every call about a class has the answer, or the failure, that it has when
of those calls only the last successful registration of this class was made, if there is one. The
calls may be about any classes; two classes with the same identity are the same. -/
theorem answers_forget_history (config : Config) (calls : List ResolverCall) (c : Class)
    (hcalls : ∀ k ∈ calls, k.about.id = c.id → k.about = c) (k : ResolverCall)
    (hk : k.about = c) :
    (k.perform.exec (after calls (.initial config))).1 =
      (k.perform.exec
        (after (lastRegistration c calls (.initial config)).toList (.initial config))).1 := by
  let s := State.initial config
  have hanswer {s' : State} (hconfig : s'.config = config) (hcaches : s'.caches = []) :
      (k.perform.exec s').1 =
        k.answer config.resolver (Registry.known? config.resolver c s'.registry) := by
    obtain ⟨s'', -, hexec⟩ := exec_perform hcaches k
    rw [hexec, hconfig, hk]
  obtain ⟨hconfig, hcaches⟩ := after_config (s := s) calls rfl
  obtain ⟨hconfig', hcaches'⟩ :=
    after_config (s := s) (lastRegistration c calls s).toList rfl
  have hknown := known?_after (s := s) rfl hcalls
  exact (hanswer hconfig hcaches).trans
    ((congrArg (k.answer config.resolver) hknown).trans (hanswer hconfig' hcaches').symm)

/-- A class is met, registered twice, and then a registration of it fails. -/
theorem answers_forget_history_registered :
    let c : Class := .named ['R']
    let x : Source := .instance ⟨c, [], [(['x'], .int 7), (['y'], .int 8)]⟩
    let calls : List ResolverCall :=
      [.fieldMap? c, .register c (some [(['a'], ['y'])]), .register c (some [(['a'], ['x'])]),
        .register c none, .fieldMap? (.named ['S'])]
    lastRegistration c calls (.initial .default) = some (.register c (some [(['a'], ['x'])])) ∧
      ((resolve [['a']] none x).perform.exec (after calls (.initial .default))).1 =
        .ok (.values [.int 7]) := by
  intro c x calls
  have hcalls : ∀ k ∈ calls, k.about.id = c.id → k.about = c := by
    intro k hk hid
    simp only [calls, List.mem_cons, List.not_mem_nil, or_false] at hk
    obtain rfl | rfl | rfl | rfl | rfl := hk
    · rfl
    · rfl
    · rfl
    · rfl
    · exact absurd hid (by decide)
  exact ⟨rfl, answers_forget_history .default calls c hcalls (resolve [['a']] none x) rfl⟩

end ResolverCall

end Session

end NamedSql
