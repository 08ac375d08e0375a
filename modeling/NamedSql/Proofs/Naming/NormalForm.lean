import Mathlib.Data.Set.Operations
import NamedSql.Proofs.Naming.Boundaries
import NamedSql.Proofs.Text.LowerCase

/-!
# Names that are in snake case

Snake case is made in passes, and a later pass could bring back what an earlier one has removed.
Underscores are put in where separators stood and where words begin, then runs of them are squashed,
and at last every character is put in lower case, by which one may become several.

Nothing is brought back. Where words begin only underscores are put in (`mem_of_mem_markWords`), and
behind the pass that squashes them comes lower case alone, which brings in letters (`of_mem_lower`).
So five properties hold of every result, and they are all there is to it: in a name that has them no
pass finds anything to do (`IsSnakeCase.snakeCase_eq_self`).

**Theorem (`snakeCase_normalizes`).** Snake case is idempotent, and the names that it gives, which
are those that it leaves as they are, are the names without blanks, hyphens, dots, adjacent
underscores and characters that lower case changes.
-/

namespace NamedSql

open SnakeCase

/-- A name that is in snake case. -/
structure IsSnakeCase (n : Text) : Prop where
  no_blank : ∀ c ∈ n, isBlank c = false
  no_hyphen : '-' ∉ n
  no_dot : '.' ∉ n
  underscores_apart : ¬['_', '_'] <:+: n
  lowered : ∀ c ∈ n, lower [c] = [c]

namespace SnakeCase

variable {c : Char} {s : Text}

/-- Two neighbours are not both underscores. -/
def Apart (a b : Char) : Prop := ¬(a = '_' ∧ b = '_')

theorem isChain_apart_iff : s.IsChain Apart ↔ ¬['_', '_'] <:+: s := by
  rw [List.isChain_iff_forall_rel_of_append_cons_cons]
  constructor
  · rintro h ⟨before, after, rfl⟩
    exact h (List.append_assoc before _ after) ⟨rfl, rfl⟩
  · rintro h a b before after rfl ⟨rfl, rfl⟩
    exact h ⟨before, after, List.append_assoc before _ after⟩

theorem isSeparator_eq_false_iff :
    isSeparator c = false ↔ c ≠ '-' ∧ c ≠ '.' ∧ isBlank c = false := by
  simp [isSeparator, and_assoc]

/-! ## What the passes leave -/

theorem not_isSeparator_of_mem (h : c ∈ replaceSeparators s) : isSeparator c = false := by
  have hmark : isSeparator '_' = false := by decide
  fun_induction replaceSeparators s <;> grind

theorem mem_of_mem_markWords (h : c ∈ markWords s) : c = '_' ∨ c ∈ s := by
  by_cases hc : c = '_'
  · exact .inl hc
  · have hmem : c ∈ (markWords s).filter (· != '_') := List.mem_filter.mpr ⟨h, by simpa using hc⟩
    rw [filter_markWords] at hmem
    exact .inr (List.mem_of_mem_filter hmem)

theorem mem_of_mem_collapse (h : c ∈ collapse s) : c ∈ s := by
  fun_induction collapse s <;> grind

theorem head?_collapse (s : Text) : (collapse s).head? = s.head? := by
  fun_induction collapse s <;> grind

theorem isChain_collapse (s : Text) : (collapse s).IsChain Apart := by
  fun_induction collapse s with
  | case1 s ih => exact ih
  | case2 c s hnot ih =>
    refine .cons ih ?_
    rintro b hb ⟨rfl, rfl⟩
    rw [head?_collapse] at hb
    obtain ⟨s', rfl⟩ := List.head?_eq_some_iff.mp hb
    exact hnot s' rfl rfl
  | case3 => exact .nil

/-! ## What the passes let stand -/

theorem strip_eq_self (h : ∀ c ∈ s, isBlank c = false) : strip s = s := by
  have hdrop : ∀ s : Text, (∀ c ∈ s, isBlank c = false) → s.dropWhile isBlank = s := by
    intro s h
    cases s with
    | nil => rfl
    | cons c s => rw [List.dropWhile_cons_of_neg (by simp [h c List.mem_cons_self])]
  rw [strip, hdrop s h, hdrop s.reverse fun c hc => h c (List.mem_reverse.mp hc),
    List.reverse_reverse]

theorem replaceSeparators_eq_self (h : ∀ c ∈ s, isSeparator c = false) :
    replaceSeparators s = s := by
  fun_induction replaceSeparators s <;> grind

/-- A word begins with a capital. -/
theorem markWords_eq_self (h : ∀ c ∈ s, isCapital c = false) : markWords s = s := by
  rw [markWords_eq]
  induction s with
  | nil => rfl
  | cons a s ih =>
    have hnot : ¬(endsAcronym (a :: s) || meetsCapital (a :: s)) = true := by
      match s, h with
      | [], _ => simp [endsAcronym, meetsCapital]
      | [b], h => simp [endsAcronym, meetsCapital, h b]
      | b :: c :: s, h => simp [endsAcronym, meetsCapital, h b]
    rw [insertAfter, if_neg hnot, ih fun c hc => h c (List.mem_cons_of_mem a hc)]

theorem collapse_eq_self (h : s.IsChain Apart) : collapse s = s := by
  fun_induction collapse s with
  | case1 s ih => exact (h.rel ⟨rfl, rfl⟩).elim
  | case2 c s _ ih => rw [ih h.tail]
  | case3 => rfl

theorem not_isCapital_of_lowerChar (h : lowerChar c = [c]) : isCapital c = false := by
  have hcapital : ∀ n < 91, 65 ≤ n → lowerChar (Char.ofNat n) ≠ [Char.ofNat n] := by decide
  by_contra hc
  obtain ⟨hge, hle⟩ := toNat_of_isCapital (Bool.of_not_eq_false hc)
  refine hcapital c.toNat (by omega) hge ?_
  rwa [Char.ofNat_toNat]

end SnakeCase

/-! ## The normal form -/

theorem isSnakeCase_snakeCase (s : Text) : IsSnakeCase (snakeCase s) := by
  let u := collapse (markWords (replaceSeparators (strip s)))
  have hs : snakeCase s = lower u := by rw [snakeCase, breakWords_breakAcronyms]
  have hseparator : ∀ c ∈ lower u, c ≠ '-' ∧ c ≠ '.' ∧ isBlank c = false := by
    intro c hc
    obtain ⟨-, hge, hblank⟩ | ⟨hmem, -⟩ := of_mem_lower hc
    · refine ⟨?_, ?_, hblank⟩ <;>
        · rintro rfl
          contradiction
    · refine isSeparator_eq_false_iff.mp ?_
      obtain rfl | hmem := mem_of_mem_markWords (mem_of_mem_collapse hmem)
      · rfl
      · exact not_isSeparator_of_mem hmem
  have hapart : (lower u).IsChain Apart := by
    refine isChain_lower ?_ (isChain_collapse _)
    rintro a b hlowered ⟨rfl, rfl⟩
    obtain ⟨-, hge, -⟩ := hlowered.elim id id
    contradiction
  rw [hs]
  exact {
    no_blank := fun c hc => (hseparator c hc).2.2
    no_hyphen := fun hc => (hseparator _ hc).1 rfl
    no_dot := fun hc => (hseparator _ hc).2.1 rfl
    underscores_apart := isChain_apart_iff.mp hapart
    lowered := fun c hc => (lower_singleton c).trans (lowerChar_of_mem_lower hc) }

/-- No pass finds anything to do. -/
theorem IsSnakeCase.snakeCase_eq_self {n : Text} (h : IsSnakeCase n) : snakeCase n = n := by
  have hlowered : ∀ c ∈ n, lowerChar c = [c] := fun c hc => by
    rw [← lower_singleton, h.lowered c hc]
  have hseparator : ∀ c ∈ n, isSeparator c = false := fun c hc =>
    isSeparator_eq_false_iff.mpr
      ⟨ne_of_mem_of_not_mem hc h.no_hyphen, ne_of_mem_of_not_mem hc h.no_dot, h.no_blank c hc⟩
  calc snakeCase n
    _ = lower (collapse (markWords (replaceSeparators (strip n)))) := by
      rw [snakeCase, breakWords_breakAcronyms]
    _ = lower (collapse (markWords n)) := by
      rw [strip_eq_self h.no_blank, replaceSeparators_eq_self hseparator]
    _ = lower (collapse n) := by
      rw [markWords_eq_self fun c hc => not_isCapital_of_lowerChar (hlowered c hc)]
    _ = lower n := by rw [collapse_eq_self (isChain_apart_iff.mpr h.underscores_apart)]
    _ = n := lower_eq_self hlowered

/-- **Snake case is idempotent, and it gives exactly the names that have the five properties.** What
it gives has them, and a name that has them is given back as it is. -/
theorem snakeCase_normalizes :
    (∀ s, IsSnakeCase (snakeCase s) ∧ snakeCase (snakeCase s) = snakeCase s) ∧
      (∀ n, snakeCase n = n ↔ IsSnakeCase n) ∧ Set.range snakeCase = {n | IsSnakeCase n} := by
  refine ⟨fun s => ?_, fun n => ?_, Set.ext fun n => ?_⟩
  · exact ⟨isSnakeCase_snakeCase s, (isSnakeCase_snakeCase s).snakeCase_eq_self⟩
  · exact ⟨fun h => h ▸ isSnakeCase_snakeCase n, IsSnakeCase.snakeCase_eq_self⟩
  · constructor
    · rintro ⟨s, rfl⟩
      exact isSnakeCase_snakeCase s
    · intro h
      exact ⟨n, h.snakeCase_eq_self⟩

end NamedSql
