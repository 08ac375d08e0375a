import NamedSql.Proofs.Preliminaries
import NamedSql.Record.Registry

/-!
# The attributes of an object

An object keeps an attribute in a slot, if the nearest member of this name that its class has is a
slot, and otherwise in its dictionary, if it has one. What it keeps under a name is its own value
(`Instance.own?`).

The public attributes of an object are its own ones, with two exceptions. Beside a dictionary the
slots are left out (`Instance.BesideDictionary`). And without a dictionary the name of a slot stands
for another member of the class, if a nearer class has one in its place (`Instance.Covered`).

**Theorem (`Instance.Built.mem_publicNames_iff`).** Apart from these a name is among the public
attributes exactly if it is public and the object has a value of its own for it.

This takes that all slots are listed, and that a dictionary holds nothing under the name of a slot.
Both are known of the classes that declarations make (`Class.Declared`) and of the objects that
programs make of them (`Instance.Built`).
-/

namespace NamedSql

/-! ## Declared classes -/

namespace Class

/-- A class that declarations make, one class under the other. -/
inductive Declared : Class → Prop
  | alone (d : Declaration) (number : Nat) : Declared (d.declare none number)
  | under (d : Declaration) (number : Nat) {base : Class} :
      Declared base → Declared (d.declare (some base) number)

/-- The slots of a class that is no record class are among those it lists. -/
def ListsSlots (c : Class) : Prop :=
  c.family = none → ∀ n, c.member? n = some .slot → n ∈ c.slots.flatMap Slots.names

theorem ListsSlots.declare {above : Class} (h : above.ListsSlots) (d : Declaration)
    (number : Nat) : (d.declare (some above) number).ListsSlots := by
  intro hfamily n hslot
  have hslots : (d.declare (some above) number).slots.flatMap Slots.names =
      d.kind.slotNames ++ above.slots.flatMap Slots.names := List.flatMap_append
  rw [hslots, List.mem_append]
  unfold member? Declaration.declare at hslot
  rw [List.lookup_append, Option.or_eq_some_iff] at hslot
  cases hkind : d.kind with
  | record family => simp [Declaration.declare, hkind] at hfamily
  | plain | slot | slots | mapping =>
    obtain hown | ⟨-, hinherited⟩ := hslot
    · have hmem := mem_of_lookup hown
      exact .inl (by simpa [hkind] using hmem)
    · exact .inr (h (by simpa [Declaration.declare, hkind] using hfamily) n hinherited)

theorem Declared.listsSlots {c : Class} (h : c.Declared) : c.ListsSlots := by
  induction h with
  | alone d number =>
    -- A class without a base is declared under one that has no members.
    have hempty : (named []).ListsSlots := fun _ _ hslot => nomatch hslot
    exact hempty.declare d number
  | under d number _ ih => exact ih.declare d number

end Class

/-! ## Objects -/

namespace Instance

variable {x y : Instance} {n : Text} {v : Value}

/-- An object that a program makes of a declared class: it is created with attributes, and later
attributes are set and removed. -/
inductive Built : Instance → Prop
  | create {c : Class} {values : Entries} {x : Instance} :
      c.Declared → create c values = .ok x → Built x
  | assign {x y : Instance} {n : Text} {v : Value} : Built x → x.assign n v = .ok y → Built y
  | remove {x y : Instance} {n : Text} : Built x → x.remove n = .ok y → Built y

/-- An attribute is set in the slot of its name, or in the dictionary if there is no such slot. -/
theorem assign_cases (h : x.assign n v = .ok y) :
    x.cls.member? n = some .slot ∧ y = { x with slotted := putEntry n v x.slotted } ∨
      x.cls.member? n ≠ some .slot ∧ x.cls.hasDictionary ∧
        y = { x with attributes := putEntry n v x.attributes } := by
  unfold assign at h
  split at h
  · next hslot =>
    rw [if_pos rfl] at h
    exact .inl ⟨hslot, (Except.ok.inj h).symm⟩
  · next hslot =>
    rw [if_neg Bool.false_ne_true] at h
    split at h
    · next hdictionary => exact .inr ⟨hslot, hdictionary, (Except.ok.inj h).symm⟩
    · contradiction

theorem remove_cases (h : x.remove n = .ok y) :
    y = { x with slotted := x.slotted.filter (·.1 ≠ n) } ∨
      y = { x with attributes := x.attributes.filter (·.1 ≠ n) } := by
  unfold remove at h
  split at h
  · rw [if_pos rfl] at h
    split at h
    · exact .inl (Except.ok.inj h).symm
    · contradiction
  · rw [if_neg Bool.false_ne_true] at h
    split at h
    · exact .inr (Except.ok.inj h).symm
    · contradiction

/-- An object of a declared class, with nothing in its dictionary unless it has one, and nothing
there under the name of a slot. -/
structure Proper (x : Instance) : Prop where
  declared : x.cls.Declared
  hasDictionary : ∀ n ∈ x.attributes.map Prod.fst, x.cls.hasDictionary
  not_slot : ∀ n ∈ x.attributes.map Prod.fst, x.cls.member? n ≠ some .slot

theorem Proper.assign (hx : x.Proper) (h : x.assign n v = .ok y) : y.Proper := by
  obtain ⟨-, rfl⟩ | ⟨hslot, hdictionary, rfl⟩ := assign_cases h
  · exact ⟨hx.declared, hx.hasDictionary, hx.not_slot⟩
  · refine ⟨hx.declared, fun _ _ => hdictionary, fun k hk => ?_⟩
    rw [← isSome_lookup_iff, lookup_putEntry] at hk
    by_cases hkn : k = n
    · rwa [hkn]
    · rw [if_neg hkn, isSome_lookup_iff] at hk
      exact hx.not_slot k hk

theorem Proper.remove (hx : x.Proper) (h : x.remove n = .ok y) : y.Proper := by
  obtain rfl | rfl := remove_cases h
  · exact ⟨hx.declared, hx.hasDictionary, hx.not_slot⟩
  · have hkept {k : Text} (hk : k ∈ (x.attributes.filter (·.1 ≠ n)).map Prod.fst) :
        k ∈ x.attributes.map Prod.fst := (List.filter_sublist.map Prod.fst).subset hk
    exact ⟨hx.declared, fun k hk => hx.hasDictionary k (hkept hk),
      fun k hk => hx.not_slot k (hkept hk)⟩

theorem Proper.create {c : Class} {values : Entries} (hc : c.Declared)
    (h : create c values = .ok x) : x.Proper := by
  have hnew : Proper ⟨c, [], []⟩ := ⟨hc, nofun, nofun⟩
  unfold Instance.create at h
  split at h
  · refine foldlM_invariant (fun x f y hx hstep => ?_) hnew h
    obtain ⟨v, -, hassign⟩ := of_bind_eq_ok hstep
    exact hx.assign hassign
  · exact foldlM_invariant (fun x e y hx hstep => hx.assign hstep) hnew h

/-- **What programs build is proper.** -/
theorem Built.proper (h : x.Built) : x.Proper := by
  induction h with
  | create hc h => exact .create hc h
  | assign _ h ih => exact ih.assign h
  | remove _ h ih => exact ih.remove h

/-! ## Public attributes -/

/-- The value that an object itself keeps under a name, in the slot of this name or in its
dictionary. -/
def own? (x : Instance) (n : Text) : Option Value :=
  match x.cls.member? n with
  | some .slot => x.slotted.lookup n
  | _ => x.attributes.lookup n

/-- A name is that of a slot, and the object has a dictionary too. -/
def BesideDictionary (x : Instance) (n : Text) : Prop :=
  x.cls.hasDictionary ∧ x.cls.member? n = some .slot

/-- Another member of the class stands in the place of a slot. -/
def Covered (x : Instance) (n : Text) : Prop :=
  x.cls.hasDictionary = false ∧ n ∈ x.cls.slots.flatMap Slots.names ∧ x.cls.member? n ≠ some .slot

theorem own?_of_slot (h : x.cls.member? n = some .slot) : x.own? n = x.slotted.lookup n := by
  simp [own?, h]

theorem own?_of_not_slot (h : x.cls.member? n ≠ some .slot) :
    x.own? n = x.attributes.lookup n := by
  unfold own?
  split
  · contradiction
  · rfl

theorem read?_of_slot (h : x.cls.member? n = some .slot) : x.read? n = x.slotted.lookup n := by
  simp [read?, h]

/-- What is in the dictionary is read there, whatever the members of the class are. -/
theorem read?_of_mem_keys (h : n ∈ x.attributes.map Prod.fst)
    (hslot : x.cls.member? n ≠ some .slot) : x.read? n = x.attributes.lookup n := by
  obtain ⟨v, hv⟩ := Option.isSome_iff_exists.mp (isSome_lookup_iff.mpr h)
  unfold read?
  split <;> simp_all

theorem mem_publicNames_of_dictionary (h : x.cls.hasDictionary = true) :
    n ∈ x.publicNames ↔ n ∈ x.attributes.map Prod.fst ∧ isPublic n := by
  rw [publicNames, if_pos h, List.mem_filter]

theorem mem_publicNames_of_slots (h : x.cls.hasDictionary = false) :
    n ∈ x.publicNames ↔ n ∈ x.cls.slots.flatMap Slots.names ∧ isPublic n ∧ (x.read? n).isSome := by
  rw [publicNames, if_neg (by simp [h]), List.mem_filter, Bool.and_eq_true]

namespace Proper

/-- What an object without a dictionary keeps is in a slot. -/
theorem slot_of_own? (hx : x.Proper) (h : x.cls.hasDictionary = false)
    (hown : (x.own? n).isSome) : x.cls.member? n = some .slot := by
  by_contra hslot
  rw [own?_of_not_slot hslot, isSome_lookup_iff] at hown
  have hdictionary := hx.hasDictionary n hown
  simp [h] at hdictionary

/-- A public attribute can be read. -/
theorem isSome_read? (hx : x.Proper) (h : n ∈ x.publicNames) : (x.read? n).isSome := by
  cases hdictionary : x.cls.hasDictionary with
  | true =>
    obtain ⟨hkey, -⟩ := (mem_publicNames_of_dictionary hdictionary).mp h
    rw [read?_of_mem_keys hkey (hx.not_slot n hkey)]
    exact isSome_lookup_iff.mpr hkey
  | false => exact ((mem_publicNames_of_slots hdictionary).mp h).2.2

/-- What an object keeps under a public name, and not in a slot beside a dictionary, is among its
public attributes. -/
theorem mem_publicNames (hx : x.Proper) (hfamily : x.cls.family = none) (hpublic : isPublic n)
    (hown : (x.own? n).isSome) (hplace : ¬x.BesideDictionary n) : n ∈ x.publicNames := by
  cases hdictionary : x.cls.hasDictionary with
  | true =>
    have hslot : x.cls.member? n ≠ some .slot := fun hslot => hplace ⟨hdictionary, hslot⟩
    rw [own?_of_not_slot hslot, isSome_lookup_iff] at hown
    exact (mem_publicNames_of_dictionary hdictionary).mpr ⟨hown, hpublic⟩
  | false =>
    have hslot := hx.slot_of_own? hdictionary hown
    rw [own?_of_slot hslot, ← read?_of_slot hslot] at hown
    have hlisted := hx.declared.listsSlots hfamily n hslot
    exact (mem_publicNames_of_slots hdictionary).mpr ⟨hlisted, hpublic, hown⟩

/-- A public attribute is read as the object keeps it, unless it is the name of a covered slot. -/
theorem own?_of_mem_publicNames (hx : x.Proper) (h : n ∈ x.publicNames) (hcovered : ¬x.Covered n) :
    isPublic n ∧ x.own? n = x.read? n ∧ ¬x.BesideDictionary n := by
  cases hdictionary : x.cls.hasDictionary with
  | true =>
    obtain ⟨hkey, hpublic⟩ := (mem_publicNames_of_dictionary hdictionary).mp h
    have hslot := hx.not_slot n hkey
    refine ⟨hpublic, ?_, fun hbeside => hslot hbeside.2⟩
    rw [own?_of_not_slot hslot, read?_of_mem_keys hkey hslot]
  | false =>
    obtain ⟨hlisted, hpublic, -⟩ := (mem_publicNames_of_slots hdictionary).mp h
    have hslot : x.cls.member? n = some .slot := by
      by_contra hslot
      exact hcovered ⟨hdictionary, hlisted, hslot⟩
    refine ⟨hpublic, ?_, fun hbeside => ?_⟩
    · rw [own?_of_slot hslot, read?_of_slot hslot]
    · have hboth := hbeside.1
      simp [hdictionary] at hboth

end Proper

/-- **The public attributes of an object** are the public names under which it keeps something, but
for the slots beside a dictionary and the names of covered slots. -/
theorem Built.mem_publicNames_iff (hx : x.Built) (hfamily : x.cls.family = none)
    (hcovered : ¬x.Covered n) :
    n ∈ x.publicNames ↔ isPublic n ∧ (x.own? n).isSome ∧ ¬x.BesideDictionary n := by
  constructor
  · intro h
    obtain ⟨hpublic, hown, hplace⟩ := hx.proper.own?_of_mem_publicNames h hcovered
    exact ⟨hpublic, hown ▸ hx.proper.isSome_read? h, hplace⟩
  · rintro ⟨hpublic, hown, hplace⟩
    exact hx.proper.mem_publicNames hfamily hpublic hown hplace

end Instance

end NamedSql
