import Mathlib.Data.List.Induction
import NamedSql.Proofs.Record.Precedence
import NamedSql.Proofs.Session.Assertion

/-!
# Explicit registrations

A class can be registered with a mapping from names to attributes. The mapping is the field map of
the class from then on, until the class is registered again: neither its declared fields nor a
lookup method have a say any more, and no other class is touched.

A mapping keeps answering by itself, also if its class is registered; what a registration decides
for such a class is how the class itself is checked. Nothing decides what an absent source answers.

**Theorem (`registration_decides`).** After a registration a name is known of the class exactly if
the mapping has it, and its objects, unless they are mappings, answer the name with the attribute
that the mapping gives for it.
-/

namespace NamedSql

/-! ## Field maps -/

namespace FieldMap

/-- The last value of a repeated name counts. -/
theorem get?_ofEntries (es : List (Text × Text)) (name : Text) :
    (ofEntries es).get? name = es.reverse.lookup name := by
  unfold get? ofEntries
  induction es using List.reverseRecOn with
  | nil => rfl
  | append_singleton es e ih =>
    rw [List.foldl_append, List.foldl_cons, List.foldl_nil, lookup_putEntry, ih,
      List.reverse_concat, List.lookup_cons]
    by_cases hname : name = e.1
    · simp [hname]
    · rw [if_neg hname, beq_false_of_ne hname]

end FieldMap

/-! ## Registrations -/

namespace Session

variable {c : Class} {s : State} {m : FieldMap}

/-- A class is checked by the field map that is known of it. -/
theorem check_cls_fst_of_known {r : Resolver} (hm : Registry.known? r c s.registry = some m)
    (names : List Text) (sql : Option Text) :
    ((check r false names sql (.cls c)).exec s).1 = match names.find? (!m.contains ·) with
      | none => .ok ()
      | some n => .error (missingParameter n (some c.metaName) sql) := by
  unfold check
  rw [exec_checkAll_cls, exec_checkClass, hm]
  dsimp only
  cases names.find? (!m.contains ·) <;> rfl

/-- A class whose field map is in the registry is checked by this map. -/
theorem check_cls_fst (hm : s.registry.lookup c.id = some m) (r : Resolver) (name : Text)
    (sql : Option Text) : ((check r false [name] sql (.cls c)).exec s).1 =
      if m.contains name then .ok () else .error (missingParameter name (some c.metaName) sql) := by
  rw [check_cls_fst_of_known (Registry.known?_of_lookup hm)]
  cases hname : m.contains name <;> simp [hname]

/-- An object that is no mapping answers by the field map that is known of its class. -/
theorem resolve_fst_of_known {r : Resolver} {x : Source}
    (hm : Registry.known? r x.classOf s.registry = some m) (hmapping : x.isMapping = false)
    (habsent : x ≠ .absent) (names : List Text) (sql : Option Text) :
    ((resolve r false names sql x).exec s).1 =
      (Source.Answering.attributes m x.attribute?).answerAll (missingParameter · x.typeName? sql)
        names := by
  rw [(answersFor_resolve_of_known hm names sql).fst_eq, hm,
    Source.answering_some hmapping habsent]

/-- A mapping and the absent source answer as if nothing were known of their class. -/
theorem resolve_fst_of_unregistered {x : Source} (h : x.isMapping ∨ x = .absent) (r : Resolver)
    (names : List Text) (sql : Option Text) (s : State) :
    ((resolve r false names sql x).exec s).1 =
      (x.answering r.mapper.apply none).answerAll (missingParameter · x.typeName? sql) names := by
  have hanswering (m : Option FieldMap) :
      x.answering r.mapper.apply m = x.answering r.mapper.apply none := by
    obtain hmapping | rfl := h
    · cases x with
      | mapping c es => exact Source.answering_mapping ..
      | _ => contradiction
    · rfl
  have hplain : ∀ cache query examples, x ≠ .requester cache query examples := by
    rintro cache query examples rfl
    exact h.elim nofun nofun
  rw [(answersFor_resolve hplain r names sql s).fst_eq, hanswering]

/-- **A registration decides how a class answers.** A class can be registered with any mapping from
names to attributes. After any actions that do not register it again, a check of the class accepts
the names of the mapping and no others. An object of the class lacks the names that are not in the
mapping, and answers the others with the attributes that the mapping gives for them, if it has
these. Mappings and the absent source answer as if nothing were known of their class. -/
theorem registration_decides (c : Class) (es : List (Text × Text)) (s : State) :
    ∃ s₁, (register c (some es)).exec s = (.ok (.ofEntries es), s₁) ∧
      ∀ actions : List Action, (∀ a ∈ actions, ∀ c', a.registers? = some c' → c'.id ≠ c.id) →
        let s' := Action.after actions s₁
        let r := s'.config.resolver
        ∀ (name : Text) (sql : Option Text),
          ((check r false [name] sql (.cls c)).exec s').1 =
            (if (es.reverse.lookup name).isSome then .ok ()
              else .error (missingParameter name (some c.metaName) sql)) ∧
          ∀ x : Source, x.IsA c →
            (c.isMapping = false → x ≠ .absent →
              (es.reverse.lookup name = none → ((resolve r false [name] sql x).exec s').1 =
                .error (missingParameter name x.typeName? sql)) ∧
              ∀ a v, es.reverse.lookup name = some a → x.attribute? a = some v →
                ((resolve r false [name] sql x).exec s').1 = .ok [v]) ∧
            (c.isMapping ∨ x = .absent → ((resolve r false [name] sql x).exec s').1 =
              (x.answering r.mapper.apply none).answerAll
                (missingParameter · x.typeName? sql) [name]) := by
  refine ⟨_, exec_register c (some es) s, fun actions hactions => ?_⟩
  intro s' r name sql
  have hm : s'.registry.lookup c.id = some (.ofEntries es) :=
    Action.lookup_after hactions (by simp)
  have hget := FieldMap.get?_ofEntries es name
  refine ⟨?_, fun x hx => ⟨fun hmapping habsent => ?_, fun h => ?_⟩⟩
  · rw [check_cls_fst hm, FieldMap.contains, hget]
  · have hknown : Registry.known? r x.classOf s'.registry = some (.ofEntries es) :=
      Registry.known?_of_lookup (hx.classOf ▸ hm)
    rw [resolve_fst_of_known hknown (hx.isMapping.trans hmapping) habsent,
      Source.Answering.answerAll_cons]
    constructor
    · intro hnone
      rw [Source.Answering.answer_attributes_none (hget.trans hnone)]
    · intro a v ha hv
      rw [Source.Answering.answer_attributes_some (hget.trans ha), hv]
      rfl
  · rw [← hx.isMapping] at h
    exact resolve_fst_of_unregistered h r [name] sql s'

/-- A class with a lookup method is registered, and another class after it. -/
theorem registration_decides_lookup :
    let l : Lookup := ⟨[(['b'], .int 2)], .ofKind .key⟩
    let c := Class.Declaration.declare ⟨['L'], .plain, [], [], some l⟩ none
    let x : Source := .instance ⟨c, [], [(['x'], .int 1)]⟩
    let other : Action := .call (.register (.named ['S']) (some []))
    ∃ s₁, (register c (some [(['a'], ['x'])])).exec (.initial .default) =
        (.ok (.ofEntries [(['a'], ['x'])]), s₁) ∧
      let s' := Action.after [other] s₁
      ((resolve s'.config.resolver false [['a']] none x).exec s').1 = .ok [.int 1] ∧
      ((resolve s'.config.resolver false [['b']] none x).exec s').1 =
        .error (missingParameter ['b'] (some ['L']) none) := by
  intro l c x other
  obtain ⟨s₁, hregister, hafter⟩ := registration_decides c [(['a'], ['x'])] (.initial .default)
  have hother : ∀ a ∈ [other], ∀ c', a.registers? = some c' → c'.id ≠ c.id := by
    rintro a ha c' hc'
    obtain rfl := List.mem_singleton.mp ha
    obtain rfl := Option.some.inj hc'
    decide
  have hdecides := hafter [other] hother
  have hx : x.IsA c := ⟨rfl, rfl⟩
  have hpresent := (((hdecides ['a'] none).2 x hx).1 rfl nofun).2 ['x'] (.int 1) rfl rfl
  have hmissing := (((hdecides ['b'] none).2 x hx).1 rfl nofun).1 rfl
  exact ⟨s₁, hregister, hpresent, hmissing⟩

/-- A class of mappings is registered without names, and a mapping of the class still answers. -/
theorem registration_spares_mappings :
    let c := Class.Declaration.declare ⟨['D'], .mapping, [], [], none⟩ none
    let x : Source := .mapping c [(['a'], .int 1)]
    ∃ s₁, (register c (some [])).exec (.initial .default) = (.ok ⟨[]⟩, s₁) ∧ x.IsA c ∧
      ((resolve s₁.config.resolver false [['a']] none x).exec s₁).1 = .ok [.int 1] ∧
      ((resolve s₁.config.resolver false [['a']] none x).exec s₁).1 ≠
        .error (missingParameter ['a'] x.typeName? none) := by
  intro c x
  refine ⟨_, exec_register c (some []) (.initial .default), ⟨rfl, rfl⟩, ?_⟩
  rw [resolve_fst_of_unregistered (.inl rfl)]
  exact ⟨rfl, nofun⟩

end Session

end NamedSql
