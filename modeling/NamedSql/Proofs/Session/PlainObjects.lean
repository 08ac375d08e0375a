import NamedSql.Proofs.Record.Attributes
import NamedSql.Proofs.Session.Missing

/-!
# Plain objects

An object of which nothing is known but its attributes answers by its public ones: a name is
answered by the first public attribute whose mapped name it is, and failing that by the attribute of
that name (`resolve_plain`).

Public are the attributes that the object keeps under public names, in its dictionary or in slots of
its class and the classes above it. An object with a dictionary is an exception: what it keeps in
slots is not reached (`slot_beside_dictionary_unreachable`).

**Theorem (`public_attributes_reachable`).** Every other attribute that an object keeps under a
public name is reached by this name.
-/

namespace NamedSql

namespace Source

/-! ## What a plain object keeps -/

/-- A plain object: it is neither absent nor a mapping nor a class, it has no lookup method, and no
field map is known of its class. -/
structure Plain (r : Resolver) (registry : Registry) (x : Source) : Prop where
  not_absent : x ≠ .absent
  not_mapping : x.isMapping = false ∧ x.classOf.isMapping = false
  not_class : ∀ c, x ≠ .cls c
  no_lookup : x.hasLookup = false
  unknown : Registry.known? r x.classOf registry = none
  built : ∀ y, x = .instance y → y.Built

/-- The value that an object itself keeps under a name. Of the values that are no instances of
declared classes only unique identifiers keep anything, in slots. -/
def own? : Source → Text → Option Value
  | .instance y, n => y.own? n
  | value (.uuid i) _, n => valueAttribute? (.uuid i) n
  | _, _ => none

/-- A name is that of a slot, and the object has a dictionary too. -/
def BesideDictionary (x : Source) (n : Text) : Prop := ∃ y, x = .instance y ∧ y.BesideDictionary n

/-- Another member of the class stands in the place of a slot. -/
def Covered (x : Source) (n : Text) : Prop := ∃ y, x = .instance y ∧ y.Covered n

variable {r : Resolver} {registry : Registry} {x : Source} {n : Text}

theorem Plain.not_looksUp (hx : x.Plain r registry) : ¬x.LooksUp r registry := by
  rintro ⟨hlookup, -⟩
  rw [hx.no_lookup] at hlookup
  contradiction

theorem Plain.readBy_eq (hx : x.Plain r registry) :
    x.readBy r registry = .ofFields r.mapper.apply (x.publicNames.map (⟨·, none⟩)) := by
  rw [readBy, hx.unknown, Option.getD_none]

/-- A class of which no field map is known is no record class. -/
theorem family_of_known?_eq_none {c : Class} (h : Registry.known? r c registry = none) :
    c.family = none := by
  have hdeclared : r.declaredMap? c = none := by
    unfold Registry.known? at h
    cases hlookup : registry.lookup c.id with
    | some m => simp [hlookup] at h
    | none => simpa [hlookup] using h
  cases hfamily : c.family with
  | none => rfl
  | some family =>
    cases family <;>
      simp [Resolver.declaredMap?, Class.declaredFields?, Class.family?, hfamily, Installed.all]
        at hdeclared

/-- A unique identifier has two attributes, both public. -/
theorem isSome_valueAttribute?_uuid {i : Nat} :
    (valueAttribute? (.uuid i) n).isSome ↔ n = "int".toList ∨ n = "is_safe".toList := by
  constructor
  · intro h
    rw [← String.toList_ofList (l := n)]
    unfold valueAttribute? at h
    split at h <;> simp_all
  · rintro (rfl | rfl) <;> rfl

/-- A plain object is an instance of a declared class, a unique identifier, or something without
attributes of its own. -/
theorem Plain.cases (hx : x.Plain r registry) :
    (∃ y, x = .instance y ∧ y.Built ∧ y.cls.family = none) ∨
      (∃ i others, x = value (.uuid i) others) ∨
      x.publicNames = [] ∧ ∀ n, x.own? n = none := by
  cases x with
  | «instance» y => exact .inl ⟨y, rfl, hx.built y rfl, family_of_known?_eq_none hx.unknown⟩
  | value v others =>
    cases v with
    | uuid i => exact .inr (.inl ⟨i, others, rfl⟩)
    | _ => exact .inr (.inr ⟨rfl, fun _ => rfl⟩)
  | cls c => exact absurd rfl (hx.not_class c)
  | _ => exact .inr (.inr ⟨rfl, fun _ => rfl⟩)

theorem Plain.mem_publicNames (hx : x.Plain r registry) (hpublic : Instance.isPublic n)
    (hown : (x.own? n).isSome) (hplace : ¬x.BesideDictionary n) : n ∈ x.publicNames := by
  obtain ⟨y, rfl, hbuilt, hfamily⟩ | ⟨i, others, rfl⟩ | ⟨-, hnone⟩ := hx.cases
  · have hy : ¬y.BesideDictionary n := fun hbeside => hplace ⟨y, rfl, hbeside⟩
    exact hbuilt.proper.mem_publicNames hfamily hpublic hown hy
  · simpa [publicNames] using isSome_valueAttribute?_uuid.mp hown
  · rw [hnone] at hown
    contradiction

theorem Plain.isSome_attribute? (hx : x.Plain r registry) (h : n ∈ x.publicNames) :
    (x.attribute? n).isSome := by
  obtain ⟨y, rfl, hbuilt, -⟩ | ⟨i, others, rfl⟩ | ⟨hnil, -⟩ := hx.cases
  · exact hbuilt.proper.isSome_read? h
  · have hsome : (valueAttribute? (.uuid i) n).isSome :=
      isSome_valueAttribute?_uuid.mpr (by simpa [publicNames] using h)
    simp [attribute?, hsome]
  · rw [hnil] at h
    contradiction

theorem Plain.own?_of_mem_publicNames (hx : x.Plain r registry) (h : n ∈ x.publicNames)
    (hcovered : ¬x.Covered n) :
    Instance.isPublic n ∧ x.own? n = x.attribute? n ∧ ¬x.BesideDictionary n := by
  obtain ⟨y, rfl, hbuilt, -⟩ | ⟨i, others, rfl⟩ | ⟨hnil, -⟩ := hx.cases
  · have hy : ¬y.Covered n := fun hcovers => hcovered ⟨y, rfl, hcovers⟩
    obtain ⟨hpublic, hown, hplace⟩ := hbuilt.proper.own?_of_mem_publicNames h hy
    exact ⟨hpublic, hown, fun ⟨_, rfl, hbeside⟩ => hplace hbeside⟩
  · obtain rfl | rfl : n = "int".toList ∨ n = "is_safe".toList := by
      simpa [publicNames] using h
    · exact ⟨rfl, rfl, fun ⟨_, hinstance, _⟩ => nomatch hinstance⟩
    · exact ⟨rfl, rfl, fun ⟨_, hinstance, _⟩ => nomatch hinstance⟩
  · rw [hnil] at h
    contradiction

/-! ## Which attribute answers -/

/-- The attribute that answers a name: the first public one whose mapped name it is, failing that
the public one of this name. -/
def chosen? (r : Resolver) (x : Source) (n : Text) : Option Text :=
  x.publicNames.find? (r.mapper.apply · = n) <|> x.publicNames.find? (· = n)

theorem mem_of_chosen? {a : Text} (h : x.chosen? r n = some a) : a ∈ x.publicNames := by
  rw [chosen?, Option.orElse_eq_orElse, Option.orElse_eq_or, Option.or_eq_some_iff] at h
  obtain h | ⟨-, h⟩ := h
  · exact List.mem_of_find?_eq_some h
  · exact List.mem_of_find?_eq_some h

theorem isSome_chosen? (h : n ∈ x.publicNames) : (x.chosen? r n).isSome := by
  have hexact : (x.publicNames.find? (· = n)).isSome :=
    List.find?_isSome.mpr ⟨n, h, decide_eq_true rfl⟩
  rw [chosen?, Option.orElse_eq_orElse, Option.orElse_eq_or, Option.isSome_or, hexact, Bool.or_true]

end Source

namespace Session

variable {r : Resolver} {x : Source} {s : State} {n : Text}

/-- A plain object answers a name by the attribute that is chosen for it. -/
theorem resolve_plain (hx : x.Plain r s.registry) (n : Text) (sql : Option Text) :
    ((resolve r false [n] sql x).exec s).1 =
      match x.chosen? r n with
      | none => .error (missingParameter n x.typeName? sql)
      | some a => match x.attribute? a with
        | none => .error (.ofKind .noAttribute)
        | some v => .ok [v] := by
  have hget : (x.readBy r s.registry).get? n = x.chosen? r n := by
    rw [hx.readBy_eq, FieldMap.get?_ofFields_untagged, Source.chosen?]
  rw [(answersFor_resolve_of_not_looksUp hx.not_looksUp [n] sql).fst_eq,
    Source.answering_of_not_looksUp hx.not_looksUp hx.not_mapping.1 hx.not_absent,
    Source.Answering.answerAll_cons]
  cases hchosen : x.chosen? r n with
  | none => rw [Source.Answering.answer_attributes_none (hget.trans hchosen)]
  | some a =>
    rw [Source.Answering.answer_attributes_some (hget.trans hchosen)]
    cases hread : x.attribute? a with
    | none => simp only [hread, Option.elim_none]
    | some v =>
      simp only [hread, Option.elim_some]
      rfl

/-- A public attribute of a plain object is reached by its name. -/
theorem resolve_of_mem_publicNames (hx : x.Plain r s.registry) (h : n ∈ x.publicNames)
    (sql : Option Text) :
    ∃ a v, x.chosen? r n = some a ∧ x.attribute? a = some v ∧
      ((resolve r false [n] sql x).exec s).1 = .ok [v] := by
  obtain ⟨a, ha⟩ := Option.isSome_iff_exists.mp (Source.isSome_chosen? (r := r) h)
  have hread := hx.isSome_attribute? (Source.mem_of_chosen? ha)
  obtain ⟨v, hv⟩ := Option.isSome_iff_exists.mp hread
  refine ⟨a, v, ha, hv, ?_⟩
  simp only [resolve_plain hx, ha, hv]

/-- **Public attributes are reached.** What a plain object keeps under a public name, and not in a
slot beside a dictionary, is reached by this name: resolution gives the value of the attribute that
is chosen for the name. It is chosen among these attributes and the names of covered slots, and it
is read as the object keeps it. -/
theorem public_attributes_reachable (hx : x.Plain r s.registry) (sql : Option Text) :
    (∀ n, Instance.isPublic n → (x.own? n).isSome → ¬x.BesideDictionary n →
      ∃ a v, x.chosen? r n = some a ∧ a ∈ x.publicNames ∧ x.attribute? a = some v ∧
        ((resolve r false [n] sql x).exec s).1 = .ok [v]) ∧
    ∀ a, ¬x.Covered a →
      (a ∈ x.publicNames ↔ Instance.isPublic a ∧ (x.own? a).isSome ∧ ¬x.BesideDictionary a) ∧
      (a ∈ x.publicNames → x.attribute? a = x.own? a) := by
  refine ⟨fun n hpublic hown hplace => ?_, fun a hcovered => ⟨⟨fun h => ?_, ?_⟩, fun h => ?_⟩⟩
  · have hmem := hx.mem_publicNames hpublic hown hplace
    obtain ⟨a, v, ha, hv, hresolve⟩ := resolve_of_mem_publicNames hx hmem sql
    exact ⟨a, v, ha, Source.mem_of_chosen? ha, hv, hresolve⟩
  · obtain ⟨hpublic, hown, hplace⟩ := hx.own?_of_mem_publicNames h hcovered
    exact ⟨hpublic, hown ▸ hx.isSome_attribute? h, hplace⟩
  · rintro ⟨hpublic, hown, hplace⟩
    exact hx.mem_publicNames hpublic hown hplace
  · exact (hx.own?_of_mem_publicNames h hcovered).2.1.symm

/-- Two classes have a slot each, and a mapper sends both names to that of the second one. The slot
of the nearer class comes first, so it is chosen for this name. -/
theorem public_attributes_reachable_slots :
    let above := Class.Declaration.declare ⟨['S'], .slots [['a']], [], [], none⟩ none
    let c := Class.Declaration.declare ⟨['T'], .slots [['b']], [], [], none⟩ (some above)
    let r : Resolver := ⟨[], .constant 0 ['a']⟩
    ∃ y, Instance.create c [(['a'], .int 1), (['b'], .int 2)] = .ok y ∧
      Source.Plain r [] (.instance y) ∧ Source.own? (.instance y) ['a'] = some (.int 1) ∧
      ((resolve r false [['a']] none (.instance y)).exec (.initial .default)).1 = .ok [.int 2] := by
  intro above c r
  have hdeclared : c.Declared := .under _ _ (.alone _ _)
  let y : Instance := ⟨c, [(['a'], .int 1), (['b'], .int 2)], []⟩
  have hcreate : Instance.create c [(['a'], .int 1), (['b'], .int 2)] = .ok y := rfl
  have hplain : Source.Plain r [] (.instance y) :=
    { not_absent := nofun
      not_mapping := ⟨rfl, rfl⟩
      not_class := nofun
      no_lookup := rfl
      unknown := rfl
      built := fun _ h => Source.instance.inj h ▸ .create hdeclared hcreate }
  have hplace : ¬Source.BesideDictionary (.instance y) ['a'] := by
    rintro ⟨_, h, hdictionary, -⟩
    obtain rfl := Source.instance.inj h
    contradiction
  refine ⟨y, hcreate, hplain, rfl, ?_⟩
  obtain ⟨a, v, ha, -, hv, hresolve⟩ :=
    (public_attributes_reachable (s := .initial .default) hplain none).1 ['a'] rfl rfl hplace
  obtain rfl : ['b'] = a := Option.some.inj ha
  obtain rfl : Value.int 2 = v := Option.some.inj hv
  exact hresolve

/-- A class has a value in the place of a slot, and this is chosen before what the object keeps. -/
example :
    let far := Class.Declaration.declare ⟨['S'], .slots [['a']], [], [], none⟩ none
    let near := Class.Declaration.declare ⟨['T'], .slots [['b']], [], [], none⟩ (some far)
    let c := Class.Declaration.declare ⟨['U'], .slots [], [], [(['b'], .int 5)], none⟩ (some near)
    let x : Source := .instance ⟨c, [(['a'], .int 1)], []⟩
    x.chosen? ⟨[], .constant 0 ['a']⟩ ['a'] = some ['b'] ∧ x.own? ['b'] = none ∧
      x.attribute? ['b'] = some (.int 5) := ⟨rfl, rfl, rfl⟩

/-- **A slot beside a dictionary is not reached.** A class with a slot has a class without slots
below it, whose instances have a dictionary. The slot is set and public, and its name is missing. -/
theorem slot_beside_dictionary_unreachable :
    let above := Class.Declaration.declare ⟨['S'], .slots [['x']], [], [], none⟩ none
    let c := Class.Declaration.declare ⟨['P'], .plain, [], [], none⟩ (some above)
    let r := Config.default.resolver
    ∃ y, Instance.create c [(['x'], .int 1)] = .ok y ∧ Source.Plain r [] (.instance y) ∧
      Instance.isPublic ['x'] ∧ Source.own? (.instance y) ['x'] = some (.int 1) ∧
      ((resolve r false [['x']] none (.instance y)).exec (.initial .default)).1 =
        .error (missingParameter ['x'] (some ['P']) none) := by
  intro above c r
  have hdeclared : c.Declared := .under _ _ (.alone _ _)
  let y : Instance := ⟨c, [(['x'], .int 1)], []⟩
  have hcreate : Instance.create c [(['x'], .int 1)] = .ok y := rfl
  have hplain : Source.Plain r [] (.instance y) :=
    { not_absent := nofun
      not_mapping := ⟨rfl, rfl⟩
      not_class := nofun
      no_lookup := rfl
      unknown := rfl
      built := fun _ h => Source.instance.inj h ▸ .create hdeclared hcreate }
  refine ⟨y, hcreate, hplain, rfl, rfl, ?_⟩
  rw [resolve_plain hplain]
  rfl

end Session

end NamedSql
