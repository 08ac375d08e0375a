import NamedSql.Proofs.Session.Assertion

/-!
# Restyling

A prepared query can be put into another style, and from that into a third one. Its text is not
read again for this: the segments that were scanned are rendered under a configuration that is
changed and checked again.

**Configurations.** Whatever passed the check of settings passes it again with every known style,
and keeps everything else (`Config.restyle_eq`). A change of style overwrites the one before it
(`Prepared.inStyle_inStyle`).

**Chains.** A chain of styles ends in the last one, or stops at the first unknown one
(`exec_restyleAll_ok`, `exec_restyleAll_error`). On the way the session only numbers the queries
that it issues.

**Theorem (`restyled_as_fresh`).** What a chain ends in is the query that preparing the same text in
the last style gives, and it binds the values that the first query binds, or fails as that does.
-/

namespace NamedSql

/-! ## Restyled configurations -/

theorem checkDelimiter_char (d : Delimiter) : checkDelimiter (.text [d.char]) = .ok d := by
  simp only [checkDelimiter, Value.asText?, Delimiter.ofChar?, d.valid, ↓reduceDIte]

theorem checkTagKey_text {key : Text} (h : key ≠ []) : checkTagKey (.text key) = .ok key := by
  simp only [checkTagKey, Value.asText?, List.isEmpty_iff, if_neg h]

theorem ne_nil_of_checkTagKey {given : Value} {key : Text} (h : checkTagKey given = .ok key) :
    key ≠ [] := by
  unfold checkTagKey at h
  split at h
  · split at h
    · contradiction
    · next hkey =>
      obtain rfl := Except.ok.inj h
      rwa [List.isEmpty_iff] at hkey
  · contradiction

theorem checkStyle_ok {given : Value} {style : Style} (h : Style.ofValue? given = some style) :
    checkStyle given = .ok style := by
  simp only [checkStyle, h]

theorem checkStyle_error {given : Value} (h : Style.ofValue? given = none) :
    checkStyle given = .error (.unknownStyle given) := by
  simp only [checkStyle, h]

/-- A configuration that passed its check has a tag key. -/
theorem Settings.tagKey_ne_nil_of_check {given : Settings} {c : Config}
    (h : given.check = .ok c) : c.tagKey ≠ [] := by
  unfold check at h
  obtain ⟨delimiter, -, h⟩ := of_bind_eq_ok h
  obtain ⟨style, -, h⟩ := of_bind_eq_ok h
  obtain ⟨key, hkey, h⟩ := of_bind_eq_ok h
  obtain ⟨mapper, -, h⟩ := of_bind_eq_ok h
  obtain rfl := Except.ok.inj h
  exact ne_nil_of_checkTagKey hkey

namespace Config

/-- The configuration in another style, as it is before the check. -/
def inStyle (c : Config) (style : Style) : Config := { c with style }

/-- A configuration can be put into every known style, and into no other. -/
theorem restyle_eq {c : Config} (hkey : c.tagKey ≠ []) (given : Value) :
    c.restyle given = (checkStyle given).map c.inStyle := by
  unfold restyle Settings.check settings
  dsimp only
  rw [checkDelimiter_char, checkTagKey_text hkey]
  cases checkStyle given <;> rfl

end Config

namespace Prepared

/-- The query under the configuration in another style. -/
def inStyle (p : Prepared) (style : Style) : Prepared := { p with config := p.config.inStyle style }

theorem inStyle_inStyle (p : Prepared) (style style' : Style) :
    (p.inStyle style).inStyle style' = p.inStyle style' := rfl

theorem restyle_eq {p : Prepared} (hkey : p.config.tagKey ≠ []) (given : Value) :
    p.restyle given = (checkStyle given).map p.inStyle := by
  unfold restyle
  rw [Config.restyle_eq hkey]
  cases checkStyle given <;> rfl

end Prepared

namespace Session

/-! ## Chains of styles -/

/-- Puts a query into one style after the other. -/
def restyleAll (p : Issued) (styles : List Value) : Session Issued :=
  styles.foldlM (fun q style => restyle q.query style) p

theorem exec_restyle_ok {p : Prepared} (hkey : p.config.tagKey ≠ []) {v : Value} {style : Style}
    (hv : Style.ofValue? v = some style) (s : State) :
    (restyle p v).exec s =
      (.ok ⟨s.nextSerial, p.inStyle style⟩, { s with nextSerial := s.nextSerial + 1 }) := by
  unfold restyle
  rw [Prepared.restyle_eq hkey, checkStyle_ok hv]
  rfl

theorem exec_restyle_error {p : Prepared} (hkey : p.config.tagKey ≠ []) {v : Value}
    (hv : Style.ofValue? v = none) (s : State) :
    (restyle p v).exec s = (.error (.error (.misconfigured (.unknownStyle v))), s) := by
  unfold restyle
  rw [Prepared.restyle_eq hkey, checkStyle_error hv]
  rfl

/-- The rest of a chain goes on from the query in its first style. -/
theorem exec_restyleAll_cons {p : Issued} (hkey : p.query.config.tagKey ≠ []) {v : Value}
    {style : Style} (hv : Style.ofValue? v = some style) (vs : List Value) (s : State) :
    (restyleAll p (v :: vs)).exec s =
      (restyleAll ⟨s.nextSerial, p.query.inStyle style⟩ vs).exec
        { s with nextSerial := s.nextSerial + 1 } := by
  unfold restyleAll
  rw [List.foldlM_cons, exec_bind, exec_restyle_ok hkey hv]

/-- A chain of known styles ends in the last one. -/
theorem exec_restyleAll_ok {vs : List Value} (hvs : ∀ w ∈ vs, (Style.ofValue? w).isSome) {v : Value}
    {style : Style} (hv : Style.ofValue? v = some style) {p : Issued}
    (hkey : p.query.config.tagKey ≠ []) (s : State) :
    ∃ n, (restyleAll p (vs ++ [v])).exec s =
      (.ok ⟨n, p.query.inStyle style⟩, { s with nextSerial := n + 1 }) := by
  induction vs generalizing p s with
  | nil => exact ⟨s.nextSerial, exec_restyleAll_cons hkey hv [] s⟩
  | cons w vs ih =>
    rw [List.forall_mem_cons] at hvs
    obtain ⟨style', hw⟩ := Option.isSome_iff_exists.mp hvs.1
    rw [List.cons_append, exec_restyleAll_cons hkey hw]
    obtain ⟨n, hexec⟩ := ih hvs.2 (p := ⟨s.nextSerial, p.query.inStyle style'⟩) hkey
      { s with nextSerial := s.nextSerial + 1 }
    rw [Prepared.inStyle_inStyle] at hexec
    exact ⟨n, hexec⟩

/-- A chain stops at the first unknown style. -/
theorem exec_restyleAll_error {vs : List Value} {w : Value}
    (hw : vs.find? (fun v => (Style.ofValue? v).isNone) = some w) {p : Issued}
    (hkey : p.query.config.tagKey ≠ []) (s : State) :
    ∃ n, (restyleAll p vs).exec s =
      (.error (.error (.misconfigured (.unknownStyle w))), { s with nextSerial := n }) := by
  induction vs generalizing p s with
  | nil => contradiction
  | cons v vs ih =>
    rw [List.find?_cons] at hw
    cases hv : Style.ofValue? v with
    | none =>
      rw [hv] at hw
      obtain rfl := Option.some.inj hw
      refine ⟨s.nextSerial, ?_⟩
      unfold restyleAll
      rw [List.foldlM_cons, exec_bind, exec_restyle_error hkey hv]
    | some style =>
      rw [hv] at hw
      rw [exec_restyleAll_cons hkey hv]
      exact ih hw (p := ⟨s.nextSerial, p.query.inStyle style⟩) hkey _

/-! ## Preparing and binding with a resolver -/

/-- Prepares a query that is bound by a resolver of its own. -/
def prepareBy (r : Resolver) (c : Config) (isolated : Bool) (sql : Text) (examples : List Source) :
    Session Issued :=
  prepareWith c isolated sql examples.length fun p =>
    checkAll r p.isolated p.names p.rawSql examples

/-- Binds a query by a resolver of its own. -/
def bindBy (r : Resolver) (p : Prepared) (x : Source) : Session Bound :=
  return ⟨p.compiled.sql, ← resolve r p.isolated p.names p.rawSql x⟩

theorem prepare_eq_prepareBy (c : Config) : prepare c = prepareBy c.resolver c := rfl

theorem bind_eq_bindBy (p : Prepared) : bind p = bindBy p.config.resolver p := rfl

/-- Binding puts what resolution gives beside the compiled text, and leaves what resolution does. -/
theorem exec_bindBy (r : Resolver) (p : Prepared) (x : Source) (s : State) :
    (bindBy r p x).exec s =
      (((resolve r p.isolated p.names p.rawSql x).exec s).1.map (Bound.mk p.compiled.sql),
        ((resolve r p.isolated p.names p.rawSql x).exec s).2) := by
  unfold bindBy
  rw [exec_bind]
  rcases (resolve r p.isolated p.names p.rawSql x).exec s with ⟨_ | _, _⟩ <;> rfl

/-- Two queries bind every source to the same values, or fail for it in the same way, whichever
resolver binds them and in whatever state, and leave the same state. -/
def BindAlike (p q : Prepared) : Prop :=
  ∀ (r : Resolver) (x : Source) (s : State), ∃ (values : Except Failure (List Value)) (s' : State),
    (bindBy r p x).exec s = (values.map (Bound.mk p.compiled.sql), s') ∧
    (bindBy r q x).exec s = (values.map (Bound.mk q.compiled.sql), s')

/-- The names, the text and the isolation of a query, on which resolution rests, are the same in
every style. -/
theorem bindAlike_inStyle (p : Prepared) (style : Style) : BindAlike p (p.inStyle style) := by
  intro r x s
  exact ⟨_, _, exec_bindBy r p x s, exec_bindBy r (p.inStyle style) x s⟩

/-! ## Preparing afresh -/

/-- `p` is the query that preparing `sql` under `c` gives. -/
structure AsFresh (c : Config) (isolated : Bool) (sql : Text) (p : Prepared) : Prop where
  config_eq : p.config = c
  rawSql_eq : p.rawSql = sql
  /-- The compiled text and the names are those of the text compiled at once. -/
  compile_eq : NamedSql.compile c.delimiter c.style sql = .ok p.compiled
  /-- Every query that is prepared from the text is this one, up to its number. -/
  query_eq (r : Resolver) (examples : List Source) (s s' : State) (f : Issued) :
    (prepareBy r c isolated sql examples).exec s = (.ok f, s') → f.query = p

section

variable {r : Resolver} {c : Config} {isolated : Bool} {sql : Text} {examples : List Source}
  {s s' : State} {p : Issued}

/-- A query is prepared if its text can be scanned and the examples pass. -/
theorem of_prepareBy_eq_ok (h : (prepareBy r c isolated sql examples).exec s = (.ok p, s')) :
    ∃ q t, scan c.delimiter sql = .ok q ∧
      (checkAll r isolated q.names q.sql examples).exec s = (.ok (), t) ∧
      p.query = ⟨q, c, isolated⟩ := by
  unfold prepareBy at h
  cases hscan : scan c.delimiter sql with
  | error e =>
    unfold prepareWith at h
    rw [exec_bind, exec_scanned_error hscan] at h
    exact nomatch (Prod.mk.inj h).1
  | ok q =>
    rcases hcheck : (checkAll r isolated q.names q.sql examples).exec s with ⟨f | ⟨⟩, t⟩
    · rw [exec_prepareWith_error hscan hcheck] at h
      exact nomatch (Prod.mk.inj h).1
    · rw [exec_prepareWith_ok hscan hcheck] at h
      obtain rfl := Except.ok.inj (Prod.mk.inj h).1
      exact ⟨q, t, rfl, hcheck, rfl⟩

/-- What is scanned under a configuration is what preparing gives. -/
theorem AsFresh.of_scan {q : Scanned} (hscan : scan c.delimiter sql = .ok q) :
    AsFresh c isolated sql ⟨q, c, isolated⟩ where
  config_eq := rfl
  rawSql_eq := by
    have hprepares : Prepares c sql ⟨q, c, false⟩ := ⟨q, hscan, rfl⟩
    exact hprepares.rawSql_eq
  compile_eq := by
    unfold NamedSql.compile
    rw [hscan]
    rfl
  query_eq r examples s s' f hf := by
    obtain ⟨q', -, hscan', -, hquery⟩ := of_prepareBy_eq_ok hf
    obtain rfl : q = q' := Except.ok.inj (hscan.symm.trans hscan')
    exact hquery

/-- A style is rendered from segments that do not depend on it. -/
theorem asFresh_inStyle (h : (prepareBy r c isolated sql examples).exec s = (.ok p, s'))
    (style : Style) : AsFresh (c.inStyle style) isolated sql (p.query.inStyle style) := by
  obtain ⟨q, -, hscan, -, hquery⟩ := of_prepareBy_eq_ok h
  rw [hquery]
  exact .of_scan (c := c.inStyle style) hscan

/-- A query that is prepared under a configuration is prepared in every other style too, with the
same examples. -/
theorem prepareBy_inStyle (h : (prepareBy r c isolated sql examples).exec s = (.ok p, s'))
    (style : Style) : ∃ f t, (prepareBy r (c.inStyle style) isolated sql examples).exec s =
      (.ok f, t) := by
  obtain ⟨q, t, hscan, hcheck, -⟩ := of_prepareBy_eq_ok h
  exact ⟨_, _, exec_prepareWith_ok (c := c.inStyle style) hscan hcheck⟩

end

/-- **Restyling is preparing afresh.** A chain of known styles that ends in `style` makes of a
prepared query the one that its text gives under the configuration in that style. The session only
numbers the queries on the way, so the first query stays what it is wherever it is kept. Every
source that is bound to the last query gives the values that it gives for the first one, or fails in
the same way. A chain with an unknown style is refused at the first such style. -/
theorem restyled_as_fresh {given : Settings} {c : Config} (hc : given.check = .ok c)
    {r : Resolver} {isolated : Bool} {sql : Text} {examples : List Source} {s s' : State}
    {p : Issued} (hp : (prepareBy r c isolated sql examples).exec s = (.ok p, s')) :
    (∀ (vs : List Value) (v : Value) (style : Style),
      (∀ w ∈ vs, (Style.ofValue? w).isSome) → Style.ofValue? v = some style →
      c.restyle v = .ok (c.inStyle style) ∧
      (∃ f t, (prepareBy r (c.inStyle style) isolated sql examples).exec s = (.ok f, t)) ∧
      ∀ t : State, ∃ q n,
        (restyleAll p (vs ++ [v])).exec t = (.ok q, { t with nextSerial := n }) ∧
        AsFresh (c.inStyle style) isolated sql q.query ∧ BindAlike p.query q.query) ∧
    ∀ vs : List Value, (∃ w ∈ vs, Style.ofValue? w = none) →
      ∃ w, vs.find? (fun v => (Style.ofValue? v).isNone) = some w ∧
        ∀ t : State, ∃ n, (restyleAll p vs).exec t =
          (.error (.error (.misconfigured (.unknownStyle w))), { t with nextSerial := n }) := by
  have hkey : c.tagKey ≠ [] := Settings.tagKey_ne_nil_of_check hc
  have hconfig : p.query.config = c := by
    obtain ⟨q, -, -, -, hquery⟩ := of_prepareBy_eq_ok hp
    rw [hquery]
  constructor
  · intro vs v style hvs hv
    refine ⟨?_, prepareBy_inStyle hp style, ?_⟩
    · rw [Config.restyle_eq hkey, checkStyle_ok hv]
      rfl
    · intro t
      obtain ⟨n, hexec⟩ := exec_restyleAll_ok hvs hv (hconfig ▸ hkey) t
      exact ⟨_, n + 1, hexec, asFresh_inStyle hp style, bindAlike_inStyle p.query style⟩
  · intro vs hunknown
    have hsome : (vs.find? fun v => (Style.ofValue? v).isNone).isSome := by
      obtain ⟨w, hmem, hw⟩ := hunknown
      exact List.find?_isSome.mpr ⟨w, hmem, by rw [hw]; rfl⟩
    obtain ⟨w, hfind⟩ := Option.isSome_iff_exists.mp hsome
    refine ⟨w, hfind, fun t => ?_⟩
    exact exec_restyleAll_error hfind (hconfig ▸ hkey) t

theorem restyled_as_fresh_percent :
    Settings.default.check = .ok .default ∧
    ∃ p s', (prepare .default false [':', 'a'] []).exec (.initial .default) = (.ok p, s') ∧
      (∃ q n, (restyleAll p [.text "qmark".toList, .style .percent]).exec s' =
          (.ok q, { s' with nextSerial := n }) ∧
        q.query.compiled = ⟨['%', 's'], [['a']]⟩ ∧
        ∀ x t, ∃ (values : Except Failure (List Value)) (t' : State),
          (bind p.query x).exec t = (values.map (Bound.mk ['$', '1']), t') ∧
          (bind q.query x).exec t = (values.map (Bound.mk ['%', 's']), t')) ∧
      ∃ n, (restyleAll p [.text "qmark".toList, .text "oracle".toList, .style .percent]).exec s' =
        (.error (.error (.misconfigured (.unknownStyle (.text "oracle".toList)))),
          { s' with nextSerial := n }) := by
  have hcheck : Settings.default.check = .ok .default := rfl
  have hscan : scan Config.default.delimiter [':', 'a'] = _ :=
    scan_placeholder (by simp) (List.forall_mem_singleton.mpr rfl)
  have hp : (prepare .default false [':', 'a'] []).exec (.initial .default) = _ :=
    exec_prepareWith_ok hscan rfl
  rw [prepare_eq_prepareBy] at hp
  obtain ⟨hfresh, hrefused⟩ := restyled_as_fresh hcheck hp
  refine ⟨hcheck, _, _, hp, ?_, ?_⟩
  · obtain ⟨-, -, hchain⟩ := hfresh [.text "qmark".toList] (.style .percent) .percent
      (List.forall_mem_singleton.mpr rfl) rfl
    obtain ⟨q, n, hexec, hq, hbind⟩ := hchain _
    have hcompiled : q.query.compiled = ⟨['%', 's'], [['a']]⟩ := by
      have hcompile := hq.compile_eq
      unfold NamedSql.compile at hcompile
      rw [show scan (Config.inStyle .default .percent).delimiter [':', 'a'] = _ from hscan]
        at hcompile
      exact (Except.ok.inj hcompile).symm
    refine ⟨q, n, hexec, hcompiled, fun x t => ?_⟩
    obtain ⟨values, t', hfirst, hlast⟩ := hbind Config.default.resolver x t
    refine ⟨values, t', hfirst, ?_⟩
    rw [hcompiled] at hlast
    rw [bind_eq_bindBy, hq.config_eq]
    exact hlast
  · obtain ⟨w, hfind, hexec⟩ :=
      hrefused [.text "qmark".toList, .text "oracle".toList, .style .percent]
        ⟨.text "oracle".toList, by simp, rfl⟩
    obtain rfl : Value.text "oracle".toList = w := Option.some.inj hfind
    exact hexec _

end Session

end NamedSql
