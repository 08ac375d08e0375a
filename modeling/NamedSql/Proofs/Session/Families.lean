import NamedSql.Proofs.Session.Registration

/-!
# The record families agree

The same fields can be declared in a record class of each family. A family has its own place for
metadata and its own way to read tags from it; where a field carries a plain metadata object or none
at all, the tag is the same (`Field.tag?_eq_plainTag?`).

How a class is made, and its objects, is up to the library of its family. All that is taken of it is
that it reports the fields as they were declared (`Class.Reports`).

**Theorem (`record_families_agree`).** In every family the declared fields, the field map, the names
that a check accepts and the values that resolution gives are those of the list of fields.
-/

namespace NamedSql

/-! ## Fields with plain metadata -/

/-- No metadata, or one plain metadata object. -/
inductive Metadata.IsPlain : Metadata → Prop
  | absent : IsPlain absent
  | entries (es : Entries) : IsPlain (entries es)

/-- A single annotation has the tag of its metadata. -/
theorem Field.structTag?_eq_plainTag? {f : Field} (h : f.metadata.IsPlain) (key : Text) :
    f.structTag? key = f.plainTag? key := by
  unfold structTag? plainTag?
  generalize f.metadata = metadata at h
  cases h with
  | absent => rfl
  | entries es => simp [annotationTag?]

/-- Plain metadata has the same tag in every family. -/
theorem Field.tag?_eq_plainTag? {f : Field} (h : f.metadata.IsPlain) (family : Family)
    (key : Text) : f.tag? family key = f.plainTag? key := by
  cases family with
  | dataclass | attrs | model => rfl
  | struct => exact structTag?_eq_plainTag? h key

/-! ## Classes that report fields -/

/-- A record class of a family whose library reports `fields`: these, in this order, and with this
metadata. -/
structure Class.Reports (c : Class) (family : Family) (fields : List Field) : Prop where
  family : c.family = some family
  fields : c.fields = fields

theorem Class.Reports.declaredFields? {c : Class} {family : Family} {fields : List Field}
    (h : c.Reports family fields) (hplain : ∀ f ∈ fields, f.metadata.IsPlain) (key : Text) :
    c.declaredFields? .all key = some (fields.map fun f => ⟨f.name, f.plainTag? key⟩) := by
  have hfamily : c.family? .all = some family := by
    rw [family?, h.family]
    cases family <;> rfl
  unfold Class.declaredFields?
  rw [hfamily, h.fields, Option.map_some]
  congr 1
  refine List.map_congr_left fun f hf => ?_
  rw [Field.tagged, Field.tag?_eq_plainTag? (hplain f hf)]

/-- Objects with the same attributes answer the same by a field map of these. -/
theorem Source.Answering.answerAll_attributes_congr {m : FieldMap}
    {read read' : Text → Option Value} (h : ∀ name a, m.get? name = some a → read a = read' a)
    (missing : Text → Failure) (names : List Text) :
    (attributes m read).answerAll missing names =
      (attributes m read').answerAll missing names := by
  unfold answerAll
  congr 1
  funext name
  cases hname : m.get? name with
  | none => rw [answer_attributes_none hname, answer_attributes_none hname]
  | some a => rw [answer_attributes_some hname, answer_attributes_some hname, h name a hname]

namespace Session

/-- **The families of record classes agree.** Let fields have plain metadata objects or none, and
let there be a class of each family whose library reports them. These classes have the same tags
under every key. Unless a mapping of its own is registered for a class, they have the same field
map, a check of the class passes or is refused for the same name, and an object of the class answers
with its attributes by this map, so that objects of any family that hold the same values answer the
same. What a family leaves its mark on is the name of the class of the class, which stands in the
message of a check. -/
theorem record_families_agree (r : Resolver) {fields : List Field}
    (hplain : ∀ f ∈ fields, f.metadata.IsPlain) (classes : Family → Class)
    (hdataclass : (classes .dataclass).Reports .dataclass fields)
    (hattrs : (classes .attrs).Reports .attrs fields)
    (hstruct : (classes .struct).Reports .struct fields)
    (hmodel : (classes .model).Reports .model fields) (family : Family) :
    let c := classes family
    let tagged : List TaggedField := fields.map fun f => ⟨f.name, f.plainTag? r.tagKey⟩
    let m := FieldMap.ofFields r.mapper.apply tagged
    c.declaredFields? .all r.tagKey = some tagged ∧
    ∀ s : State, Registry.known? r c s.registry = r.declaredMap? c →
      ((fieldMap? r false c).exec s).1 = .ok (some m) ∧
      ∀ (names : List Text) (sql : Option Text),
        ((check r false names sql (.cls c)).exec s).1 =
          (match names.find? (!m.contains ·) with
            | none => .ok ()
            | some n => .error (missingParameter n (some c.metaName) sql)) ∧
        ∀ (x : Instance) (values : Text → Option Value), x.cls = c →
          (∀ f ∈ fields, x.read? f.name = values f.name) →
          ((resolve r false names sql (.instance x)).exec s).1 =
            (Source.Answering.attributes m values).answerAll
              (missingParameter · (some c.name) sql) names := by
  intro c tagged m
  have hreports : c.Reports family fields := by
    cases family with
    | dataclass => exact hdataclass
    | attrs => exact hattrs
    | struct => exact hstruct
    | model => exact hmodel
  have hdeclared : c.declaredFields? .all r.tagKey = some tagged :=
    hreports.declaredFields? hplain r.tagKey
  refine ⟨hdeclared, fun s hs => ?_⟩
  have hknown : Registry.known? r c s.registry = some m := by
    rw [hs, Resolver.declaredMap?, hdeclared]
    rfl
  refine ⟨?_, fun names sql => ⟨check_cls_fst_of_known hknown names sql, ?_⟩⟩
  · rw [exec_fieldMap?_false, hknown]
  · intro x values hx hread
    let object : Source := .instance x
    have hclass : object.classOf = c := hx
    have htype : object.typeName? = some c.name := congrArg (some ∘ Class.name) hclass
    have hresolve := resolve_fst_of_known (x := object) (hclass ▸ hknown) rfl nofun names sql
    rw [htype] at hresolve
    refine hresolve.trans ?_
    refine Source.Answering.answerAll_attributes_congr (fun n a ha => ?_) _ names
    obtain ⟨t, ht, rfl⟩ := List.mem_map.mp (FieldMap.mem_of_get?_ofFields ha)
    obtain ⟨f, hf, rfl⟩ := List.mem_map.mp ht
    exact hread f hf

/-- A struct with a field that is tagged with the name of another one. The tag decides who answers
this name, and the other field answers its mapped name. -/
theorem record_families_agree_struct :
    let fields : List Field := [⟨['a'], .int, none, .entries [(['t'], .text ['b'])]⟩,
      ⟨['b'], .int, some (.int 2), .absent⟩]
    let classes (family : Family) : Class :=
      (⟨['R'], .record family, fields, [], none⟩ : Class.Declaration).declare none
    let x : Instance := ⟨classes .struct, [(['a'], .int 1), (['b'], .int 2)], []⟩
    let r : Resolver := ⟨['t'], .constant 0 ['z']⟩
    ((resolve r false [['b'], ['z']] none (.instance x)).exec (.initial .default)).1 =
        .ok [.int 1, .int 2] ∧
      ((check r false [['b'], ['c']] none (.cls (classes .struct))).exec (.initial .default)).1 =
        .error (missingParameter ['c'] (some "StructMeta".toList) none) := by
  intro fields classes x r
  have hplain : ∀ f ∈ fields, f.metadata.IsPlain := by
    simp only [fields, List.forall_mem_cons]
    exact ⟨.entries _, .absent, nofun⟩
  obtain ⟨-, hsession⟩ := record_families_agree r hplain classes ⟨rfl, rfl⟩ ⟨rfl, rfl⟩ ⟨rfl, rfl⟩
    ⟨rfl, rfl⟩ .struct
  obtain ⟨-, hnames⟩ := hsession (.initial .default) rfl
  have hvalues : ∀ f ∈ fields, x.read? f.name = List.lookup f.name x.slotted := by
    simp only [fields, List.forall_mem_cons]
    exact ⟨rfl, rfl, nofun⟩
  constructor
  · rw [(hnames _ none).2 x (List.lookup · x.slotted) rfl hvalues]
    rfl
  · rw [(hnames _ none).1]
    rfl

end Session

end NamedSql
