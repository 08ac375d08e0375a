import Mathlib.Data.List.Forall2
import NamedSql.Proofs.Session.Registration
import NamedSql.Source.Shape

/-!
# Names without a value

A mapping has values for its keys, and the absent source has none. Any other source has a value for
a name if its field map gives an attribute for the name and this attribute is set. A source that
answers by a lookup method is left out: there the method decides.

Names are answered in order, so the first name without a value decides. If the source does not know
that name, it is reported as a missing parameter. The exception is an attribute that the field map
has and the object does not (`Source.Unset`): reading it fails, and this failure is not turned into
a missing parameter.

**Theorem (`first_name_without_value`).** Resolution gives the values of all names, or fails for the
first name without one.
-/

namespace NamedSql

namespace Source

/-- The first name that fails decides how an answer fails. -/
theorem Answering.answerAll_cases (missing : Text → Failure) (how : Answering)
    (names : List Text) :
    (∃ values, how.answerAll missing names = .ok values ∧
      List.Forall₂ (fun n v => how.answer (missing n) n = .ok v) names values) ∨
    ∃ before n after e, names = before ++ n :: after ∧
      (∀ k ∈ before, ∃ v, how.answer (missing k) k = .ok v) ∧
      how.answer (missing n) n = .error e ∧ how.answerAll missing names = .error e := by
  induction names with
  | nil => exact .inl ⟨[], rfl, .nil⟩
  | cons name names ih =>
    rw [answerAll_cons]
    cases hname : how.answer (missing name) name with
    | error e => exact .inr ⟨[], name, names, e, rfl, nofun, hname, rfl⟩
    | ok v =>
      obtain ⟨values, hall, heach⟩ | ⟨before, n, after, e, rfl, hbefore, hn, hall⟩ := ih <;>
        rw [hall]
      · exact .inl ⟨v :: values, rfl, .cons hname heach⟩
      · have hbefore' := List.forall_mem_cons.mpr ⟨⟨v, hname⟩, hbefore⟩
        exact .inr ⟨name :: before, n, after, e, rfl, hbefore', hn, rfl⟩

section

variable (r : Resolver) (registry : Registry) (x : Source)

/-- A source answers by a lookup method: its class has one, and no field map is known of the class
or the source is a mapping. -/
def LooksUp : Prop :=
  x.hasLookup ∧ (x.isMapping ∨ Registry.known? r x.classOf registry = none)

/-- The field map by which an object is read: what is known of its class or, failing that, the map
of its public attributes. -/
def readBy : FieldMap :=
  (Registry.known? r x.classOf registry).getD
    (.ofFields r.mapper.apply (x.publicNames.map (⟨·, none⟩)))

/-- The value that a source without a lookup method has for a name. -/
def valueOf? (name : Text) : Option Value :=
  match x with
  | absent => none
  | mapping _ es => es.lookup name
  | x => ((x.readBy r registry).get? name).bind x.attribute?

/-- The field map of an object has an attribute for a name, and the object lacks it. -/
def Unset (name : Text) : Prop :=
  x.isMapping = false ∧ x ≠ absent ∧
    ∃ a, (x.readBy r registry).get? name = some a ∧ x.attribute? a = none

end

variable {r : Resolver} {registry : Registry} {x : Source}

theorem lookup?_of_not_hasLookup (h : x.hasLookup = false) : x.classOf.lookup? = none := by
  cases x with
  | cls c => rfl
  | requester => contradiction
  | _ => exact Option.not_isSome_iff_eq_none.mp (Bool.eq_false_iff.mp h)

/-- An object without a lookup method is read by its field map. -/
theorem answering_of_not_looksUp (h : ¬x.LooksUp r registry) (hmapping : x.isMapping = false)
    (habsent : x ≠ absent) :
    x.answering r.mapper.apply (Registry.known? r x.classOf registry) =
      .attributes (x.readBy r registry) x.attribute? := by
  unfold readBy
  cases hknown : Registry.known? r x.classOf registry with
  | some m => exact answering_some hmapping habsent ..
  | none =>
    have hlookup : x.hasLookup = false := by
      rw [Bool.eq_false_iff]
      exact fun hlookup => h ⟨hlookup, .inr hknown⟩
    have hnone := lookup?_of_not_hasLookup hlookup
    unfold answering
    rw [hnone]
    cases x with
    | absent => contradiction
    | mapping => contradiction
    | _ => rfl

theorem valueOf?_of_object (hmapping : x.isMapping = false) (habsent : x ≠ absent) (name : Text) :
    x.valueOf? r registry name = ((x.readBy r registry).get? name).bind x.attribute? := by
  cases x with
  | absent => contradiction
  | mapping => contradiction
  | _ => rfl

/-- What a source answers for a name: its value, or a failure if there is none. -/
theorem answer_cases (h : ¬x.LooksUp r registry) (missing : Failure) (name : Text) :
    let answer :=
      (x.answering r.mapper.apply (Registry.known? r x.classOf registry)).answer missing name
    (∃ v, x.valueOf? r registry name = some v ∧ answer = .ok v) ∨
      x.valueOf? r registry name = none ∧
        (x.Unset r registry name ∧ answer = .error (.ofKind .noAttribute) ∨
          ¬x.Unset r registry name ∧ answer = .error missing) := by
  by_cases hobject : x.isMapping = false ∧ x ≠ absent
  · obtain ⟨hmapping, habsent⟩ := hobject
    rw [answering_of_not_looksUp h hmapping habsent, valueOf?_of_object hmapping habsent]
    cases hget : (x.readBy r registry).get? name with
    | none =>
      have hset : ¬x.Unset r registry name := by
        rintro ⟨-, -, a, ha, -⟩
        simp [hget] at ha
      exact .inr ⟨rfl, .inr ⟨hset, Answering.answer_attributes_none hget ..⟩⟩
    | some a =>
      have hanswer := Answering.answer_attributes_some hget x.attribute? missing
      cases hread : x.attribute? a with
      | some v => exact .inl ⟨v, hread, by rw [hanswer, hread]; rfl⟩
      | none =>
        have hunset : x.Unset r registry name := ⟨hmapping, habsent, a, hget, hread⟩
        exact .inr ⟨hread, .inl ⟨hunset, by rw [hanswer, hread]; rfl⟩⟩
  · have hset : ¬x.Unset r registry name := fun hunset => hobject ⟨hunset.1, hunset.2.1⟩
    cases x with
    | absent => exact .inr ⟨rfl, .inr ⟨hset, rfl⟩⟩
    | mapping c es =>
      have hlookup : (mapping c es).hasLookup = false := by
        rw [Bool.eq_false_iff]
        exact fun hlookup => h ⟨hlookup, .inl rfl⟩
      have hnone := lookup?_of_not_hasLookup hlookup
      unfold answering
      rw [hnone]
      cases hfind : es.lookup name with
      | some v => exact .inl ⟨v, hfind, by simp [Answering.answer, hfind]⟩
      | none => exact .inr ⟨hfind, .inr ⟨hset, by simp [Answering.answer, hfind]⟩⟩
    | _ => exact absurd ⟨rfl, by simp⟩ hobject

theorem valueOf?_of_answer_eq_ok (h : ¬x.LooksUp r registry) {missing : Failure} {name : Text}
    {v : Value} (hanswer : (x.answering r.mapper.apply
      (Registry.known? r x.classOf registry)).answer missing name = .ok v) :
    x.valueOf? r registry name = some v := by
  obtain ⟨v', hv', hanswer'⟩ | ⟨-, ⟨-, hanswer'⟩ | ⟨-, hanswer'⟩⟩ := answer_cases h missing name
  · rw [hv', Except.ok.inj (hanswer'.symm.trans hanswer)]
  · exact nomatch hanswer'.symm.trans hanswer
  · exact nomatch hanswer'.symm.trans hanswer

theorem of_answer_eq_error (h : ¬x.LooksUp r registry) {missing e : Failure} {name : Text}
    (hanswer : (x.answering r.mapper.apply
      (Registry.known? r x.classOf registry)).answer missing name = .error e) :
    x.valueOf? r registry name = none ∧ (¬x.Unset r registry name → e = missing) ∧
      (x.Unset r registry name → e = .ofKind .noAttribute) := by
  obtain ⟨v, -, hanswer'⟩ | ⟨hnone, ⟨hunset, hanswer'⟩ | ⟨hset, hanswer'⟩⟩ :=
    answer_cases h missing name
  · exact nomatch hanswer'.symm.trans hanswer
  · obtain rfl := Except.error.inj (hanswer'.symm.trans hanswer)
    exact ⟨hnone, absurd hunset, fun _ => rfl⟩
  · obtain rfl := Except.error.inj (hanswer'.symm.trans hanswer)
    exact ⟨hnone, fun _ => rfl, fun hunset => absurd hunset hset⟩

end Source

namespace Session

theorem answersFor_resolve_of_not_looksUp {r : Resolver} {x : Source} {s : State}
    (h : ¬x.LooksUp r s.registry) (names : List Text) (sql : Option Text) :
    AnswersFor r x names sql (resolve r false names sql x) s := by
  cases x with
  | requester cache query examples =>
    let x : Source := .requester cache query examples
    cases hknown : Registry.known? r x.classOf s.registry with
    | some m => exact answersFor_resolve_of_known hknown names sql
    | none => exact absurd ⟨rfl, .inr hknown⟩ h
  | _ => exact answersFor_resolve (by simp) ..

/-- **Resolution gives all values, or fails for the first name without one.** For a source that has
no lookup method to answer by, resolving names gives the value of each name in order. If a name has
no value, then resolution fails for the first such name: the name is missing, unless it stands for
an attribute that the source lacks. -/
theorem first_name_without_value {r : Resolver} {x : Source} {s : State}
    (h : ¬x.LooksUp r s.registry) (names : List Text) (sql : Option Text) :
    (∃ values, ((resolve r false names sql x).exec s).1 = .ok values ∧
      List.Forall₂ (fun n v => x.valueOf? r s.registry n = some v) names values) ∨
    ∃ before n after, names = before ++ n :: after ∧
      (∀ k ∈ before, (x.valueOf? r s.registry k).isSome) ∧ x.valueOf? r s.registry n = none ∧
      (¬x.Unset r s.registry n → ((resolve r false names sql x).exec s).1 =
        .error (missingParameter n x.typeName? sql)) ∧
      (x.Unset r s.registry n → ((resolve r false names sql x).exec s).1 =
        .error (.ofKind .noAttribute)) := by
  rw [(answersFor_resolve_of_not_looksUp h names sql).fst_eq]
  obtain ⟨values, hall, heach⟩ | ⟨before, n, after, e, hnames, hbefore, hn, hall⟩ :=
    Source.Answering.answerAll_cases (missingParameter · x.typeName? sql)
      (x.answering r.mapper.apply (Registry.known? r x.classOf s.registry)) names
  · exact .inl ⟨values, hall, heach.imp fun name v => Source.valueOf?_of_answer_eq_ok h⟩
  · obtain ⟨hnone, hmissing, hunset⟩ := Source.of_answer_eq_error h hn
    refine .inr ⟨before, n, after, hnames, fun k hk => ?_, hnone, fun hset => ?_, fun hn => ?_⟩
    · obtain ⟨v, hv⟩ := hbefore k hk
      rw [Source.valueOf?_of_answer_eq_ok h hv]
      rfl
    · rw [hall, hmissing hset]
    · rw [hall, hunset hn]

/-- A mapping has a null for one name, which is a value, and nothing for another one. -/
theorem first_name_without_value_mapping :
    let r := Config.default.resolver
    let s : State := .initial .default
    let x : Source := .mapping (.mappingNamed ['m']) [(['a'], .null)]
    ((resolve r false [['a'], ['b']] none x).exec s).1 =
      .error (missingParameter ['b'] (some ['m']) none) := by
  intro r s x
  have hx : ¬x.LooksUp r s.registry := by
    rintro ⟨hlookup, -⟩
    contradiction
  obtain ⟨values, -, hvalues⟩ | ⟨before, n, after, hnames, hbefore, hn, hmissing, -⟩ :=
    first_name_without_value hx [['a'], ['b']] none
  · obtain - | ⟨-, - | ⟨hb, -⟩⟩ := hvalues
    exact nomatch hb
  · obtain - | ⟨k, - | ⟨k', before⟩⟩ := before
    · obtain ⟨rfl, rfl⟩ := List.cons.inj hnames
      exact nomatch hn
    · obtain ⟨rfl, rfl⟩ := List.cons.inj (List.cons.inj hnames).2
      exact hmissing fun hunset => nomatch hunset.1
    · simp at hnames

/-- The attribute of a field is deleted, and the failure of its name is not a missing parameter. -/
theorem unset_attribute_not_missing :
    let c := Class.Declaration.declare
      ⟨['R'], .record .dataclass, [⟨['x'], .any, none, .absent⟩], [], none⟩ none
    let r := Config.default.resolver
    ∃ x, (do (← Instance.create c [(['x'], .int 1)]).revise [] [['x']]) = .ok x ∧
      ¬Source.LooksUp r [] (.instance x) ∧ Source.valueOf? r [] (.instance x) ['x'] = none ∧
      ((resolve r false [['x']] none (.instance x)).exec (.initial .default)).1 ≠
        .error (missingParameter ['x'] (some ['R']) none) := by
  intro c r
  have hmap : Registry.known? r c [] = some (.ofFields r.mapper.apply [⟨['x'], none⟩]) := rfl
  have hget : (FieldMap.ofFields r.mapper.apply [⟨['x'], none⟩]).get? ['x'] = some ['x'] := by
    rw [FieldMap.get?_ofFields]
    change List.lookup ['x'] [(r.mapper.apply ['x'], ['x']), (['x'], ['x'])] = _
    rw [List.lookup_cons]
    split <;> rfl
  let x : Source := .instance ⟨c, [], []⟩
  have hobject : x ≠ .absent := nofun
  have hvalue : x.valueOf? r [] ['x'] = none := by
    rw [Source.valueOf?_of_object rfl hobject, Source.readBy,
      show Registry.known? r x.classOf [] = _ from hmap, Option.getD_some, hget]
    rfl
  have hresolve : ((resolve r false [['x']] none x).exec (.initial .default)).1 =
      .error (.ofKind .noAttribute) := by
    rw [resolve_fst_of_known hmap rfl hobject, Source.Answering.answerAll_cons,
      Source.Answering.answer_attributes_some hget]
    rfl
  have hlookup : ¬x.LooksUp r [] := by
    rintro ⟨hlookup, -⟩
    contradiction
  refine ⟨⟨c, [], []⟩, rfl, hlookup, hvalue, ?_⟩
  rw [hresolve]
  nofun

end Session

end NamedSql
