import Mathlib.Data.List.Perm.Basic
import NamedSql.Value.Basic

/-!
# Entry lists and failures

What is needed of two kinds of data that are not about queries. A list of keys and values is read by
looking up the first value of a key, and changed by putting an entry into it, which replaces that
value in its place or goes to the end. A computation that may fail is taken apart at its steps.
-/

namespace NamedSql

/-! ## Lookup -/

section

variable {α β : Type} {key : Text} {v : α} {es : List (Text × α)}

theorem mem_of_lookup (h : es.lookup key = some v) : (key, v) ∈ es := by
  obtain ⟨before, after, rfl, -⟩ := List.lookup_eq_some_iff.mp h
  simp

theorem not_mem_keys (h : es.lookup key = none) : key ∉ es.map Prod.fst := by
  intro hmem
  obtain ⟨e, he, rfl⟩ := List.mem_map.mp hmem
  simpa using List.lookup_eq_none_iff.mp h e he

theorem lookup_of_not_mem_keys (h : key ∉ es.map Prod.fst) : es.lookup key = none := by
  refine List.lookup_eq_none_iff.2 fun e he => bne_iff_ne.2 ?_
  rintro rfl
  exact h (List.mem_map_of_mem he)

theorem isSome_lookup_iff : (es.lookup key).isSome ↔ key ∈ es.map Prod.fst := by
  constructor
  · intro hsome
    obtain ⟨v, hv⟩ := Option.isSome_iff_exists.mp hsome
    exact List.mem_map_of_mem (mem_of_lookup hv)
  · intro hmem
    by_contra hnone
    exact not_mem_keys (Option.not_isSome_iff_eq_none.mp hnone) hmem

/-- Under distinct keys an entry is found exactly if it is there. -/
theorem lookup_eq_some_iff_mem (h : (es.map Prod.fst).Nodup) :
    es.lookup key = some v ↔ (key, v) ∈ es := by
  constructor
  · exact mem_of_lookup
  · intro hmem
    obtain ⟨before, after, rfl⟩ := List.append_of_mem hmem
    rw [List.map_append, List.map_cons] at h
    have hnot := (List.nodup_cons.mp (List.perm_middle.nodup_iff.mp h)).1
    refine List.lookup_eq_some_iff.mpr ⟨before, after, rfl, fun e he => ?_⟩
    have hmem : e.1 ∈ before.map Prod.fst ++ after.map Prod.fst :=
      List.mem_append_left _ (List.mem_map_of_mem he)
    simpa using (ne_of_mem_of_not_mem hmem hnot).symm

theorem lookup_map (key : Text) (name : α → Text) (value : α → β) (as : List α) :
    (as.map fun a => (name a, value a)).lookup key = (as.find? (name · = key)).map value := by
  induction as with
  | nil => rfl
  | cons a as ih =>
    rw [List.map_cons, List.lookup_cons, List.find?_cons]
    by_cases h : name a = key
    · simp [h]
    · rw [beq_false_of_ne (Ne.symm h)]
      simpa [h] using ih

theorem lookup_filterMap (key : Text) (name? : α → Option Text) (value : α → β) (as : List α) :
    (as.filterMap fun a => (name? a).map (·, value a)).lookup key =
      (as.find? (name? · = some key)).map value := by
  induction as with
  | nil => rfl
  | cons a as ih =>
    rw [List.filterMap_cons, List.find?_cons]
    cases hname : name? a with
    | none => simpa using ih
    | some k =>
      by_cases h : k = key
      · simp [h]
      · rw [Option.map_some, List.lookup_cons, beq_false_of_ne (Ne.symm h)]
        simpa [h] using ih

end

/-! ## Putting entries -/

section

variable {κ α : Type} [DecidableEq κ] [BEq κ] [LawfulBEq κ]

@[simp] theorem lookup_putEntry (key name : κ) (v : α) (es : List (κ × α)) :
    (putEntry key v es).lookup name = if name = key then some v else es.lookup name := by
  induction es with
  | nil => grind [putEntry]
  | cons e es ih => grind [putEntry]

/-- What is found under a key can be put there again. -/
theorem putEntry_of_lookup {key : κ} {v : α} {es : List (κ × α)} (h : es.lookup key = some v) :
    putEntry key v es = es := by
  induction es with
  | nil => contradiction
  | cons e es ih => grind [putEntry]

/-- An entry that replaces another one and an entry of another key can change places. -/
theorem putEntry_comm {key key' : κ} (hne : key ≠ key') {es : List (κ × α)}
    (h : (es.lookup key).isSome) (v v' : α) :
    putEntry key v (putEntry key' v' es) = putEntry key' v' (putEntry key v es) := by
  induction es with
  | nil => contradiction
  | cons e es ih => grind [putEntry]

end

/-! ## Computations that may fail -/

/-- A computation succeeds only if its first step does. -/
theorem of_bind_eq_ok {ε α β : Type} {x : Except ε α} {k : α → Except ε β} {b : β}
    (h : x >>= k = .ok b) : ∃ a, x = .ok a ∧ k a = .ok b := by
  cases x with
  | error e => contradiction
  | ok a => exact ⟨a, rfl, h⟩

theorem of_map_eq_ok {ε α β : Type} {x : Except ε α} {g : α → β} {b : β} (h : x.map g = .ok b) :
    ∃ a, x = .ok a ∧ g a = b := by
  cases x with
  | error e => contradiction
  | ok a => exact ⟨a, rfl, Except.ok.inj h⟩

/-- What holds at the start of a loop and is kept by every round that succeeds holds at its end. -/
theorem foldlM_invariant {ε α β : Type} {I : β → Prop} {step : β → α → Except ε β}
    (hstep : ∀ b a b', I b → step b a = .ok b' → I b') {as : List α} {b b' : β} (hb : I b)
    (h : as.foldlM step b = .ok b') : I b' := by
  induction as generalizing b with
  | nil =>
    obtain rfl := Except.ok.inj h
    exact hb
  | cons a as ih =>
    rw [List.foldlM_cons] at h
    obtain ⟨b₁, hfirst, hrest⟩ := of_bind_eq_ok h
    exact ih (hstep b a b₁ hb hfirst) hrest

end NamedSql
