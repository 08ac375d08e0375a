import Mathlib.Data.List.Chain
import Mathlib.Data.List.Forall2
import NamedSql.Text.Blank
import NamedSql.Text.Case

/-!
# Lower case

Letters are put in lower case by a table of spans, each of which maps its letters to the letters at
a fixed distance. Nothing in the form of such a table keeps a letter from being mapped to one that
another span maps on, or to a sign that is no letter.

For this table both are excluded. Of any two spans, what the one maps to lies apart from what the
other one covers, or fills the gaps that a span of every second letter leaves
(`lowerSpans_avoid`), and what is mapped to is no blank and no sign of ASCII (`lowerSpans_land`).
Both compare the ends of spans, since to look every letter up would take many times as long.

So a text is put in lower case one character after the other, where a character stays or turns into
others that are in lower case themselves (`lower_eq_flatten`). What is said of whole texts follows
from this: lower case brings in no blank, no separator and no capital (`of_mem_lower`), and what is
in lower case letter by letter stays as it is (`lower_eq_self`).
-/

namespace NamedSql

/-! ## Where the letters of a span go -/

namespace CaseSpan

/-- The first letter that a span maps to. -/
def low (s : CaseSpan) : Nat := (s.first + s.distance).toNat

/-- The last letter that a span maps to. -/
def high (s : CaseSpan) : Nat := (s.last + s.distance).toNat

/-- No letter that `s` maps to is covered by `t`: they lie apart, or `t` covers every second letter
only and `s` maps to the others. -/
def avoids (s t : CaseSpan) : Bool :=
  Nat.blt s.high t.first || Nat.blt t.last s.low ||
    (t.stride == 2 && (s.stride == 2 || s.low == s.high) && s.low % 2 != t.first % 2)

/-- What a span maps to are characters, none of them a blank or a sign that is treated apart, and of
ASCII only small letters. -/
def Lands (s : CaseSpan) : Prop :=
  (97 ≤ s.low ∧ s.high ≤ 122 ∨ 128 ≤ s.low) ∧
    (s.high < 0xD800 ∨ 0xDFFF < s.low ∧ s.high < 0x110000) ∧
    ∀ r ∈ (0x130, 0x130) :: blankRanges, s.high < r.1 ∨ r.2 < s.low

instance (s : CaseSpan) : Decidable s.Lands := inferInstanceAs (Decidable (_ ∧ _ ∧ _))

section

variable {s t : CaseSpan} {n : Nat}

theorem covers_iff : s.covers n = true ↔
    s.first ≤ n ∧ n ≤ s.last ∧ (n - s.first) % s.stride = 0 := by
  simp [covers, and_assoc]

/-- A letter is mapped between the ends. -/
theorem mem_image (h : s.covers n = true) :
    s.low ≤ (n + s.distance).toNat ∧ (n + s.distance).toNat ≤ s.high := by
  obtain ⟨hfirst, hlast, -⟩ := covers_iff.mp h
  unfold low high
  omega

theorem not_covers_of_avoids (hlow : 0 < s.low) (h : s.avoids t = true) (hn : s.covers n = true) :
    t.covers (n + s.distance).toNat = false := by
  obtain ⟨hge, hle⟩ := mem_image hn
  rw [Bool.eq_false_iff, ne_eq, covers_iff]
  rintro ⟨hfirst, hlast, hstride⟩
  simp only [avoids, Bool.or_eq_true, Bool.and_eq_true, beq_iff_eq, bne_iff_ne, ne_eq,
    Nat.blt_eq] at h
  obtain (h | h) | ⟨⟨h2, hs⟩, hparity⟩ := h
  · omega
  · omega
  · -- Both spans go in steps of two, so parity tells what they reach.
    have hsame : (n + s.distance).toNat % 2 = s.low % 2 := by
      obtain hs | hs := hs
      · obtain ⟨hfirst', -, hstride'⟩ := covers_iff.mp hn
        rw [hs] at hstride'
        unfold low at hlow ⊢
        omega
      · rw [show (n + s.distance).toNat = s.low by omega]
    rw [h2] at hstride
    omega

end

end CaseSpan

/-- **No letter in lower case is mapped on.** -/
theorem lowerSpans_avoid : (lowerSpans.all fun s => lowerSpans.all s.avoids) = true := by
  decide +kernel

theorem lowerSpans_land : ∀ s ∈ lowerSpans, s.Lands := by
  decide +kernel

theorem mapCase_of_not_covered {spans : List CaseSpan} {n : Nat}
    (h : ∀ s ∈ spans, s.covers n = false) : mapCase spans n = n := by
  have hnone : spans.find? (·.covers n) = none :=
    List.find?_eq_none.mpr fun s hs => by simp [h s hs]
  rw [mapCase, hnone]

/-- A letter is either mapped by a span, to one that no span maps on, or it stays. -/
theorem mapCase_lowerSpans (n : Nat) : mapCase lowerSpans n = n ∨
    ∃ s ∈ lowerSpans, s.low ≤ mapCase lowerSpans n ∧ mapCase lowerSpans n ≤ s.high ∧
      mapCase lowerSpans (mapCase lowerSpans n) = mapCase lowerSpans n := by
  cases hfind : lowerSpans.find? (·.covers n) with
  | none =>
    left
    rw [mapCase, hfind]
  | some s =>
    have hmem : s ∈ lowerSpans := List.mem_of_find?_eq_some hfind
    have hcovers : s.covers n = true := List.find?_some (p := (CaseSpan.covers · n)) hfind
    have hmap : mapCase lowerSpans n = (n + s.distance).toNat := by rw [mapCase, hfind]
    have hlow : 0 < s.low := by
      have := (lowerSpans_land s hmem).1
      omega
    have havoids := List.all_eq_true.mp (List.all_eq_true.mp lowerSpans_avoid s hmem)
    obtain ⟨hge, hle⟩ := CaseSpan.mem_image hcovers
    rw [hmap]
    exact .inr ⟨s, hmem, hge, hle, mapCase_of_not_covered fun t ht =>
      CaseSpan.not_covers_of_avoids hlow (havoids t ht) hcovers⟩

/-! ## Characters -/

/-- A character that lower case may bring in: it is in lower case itself, it is no blank, and it
comes after the capitals and most of the signs of ASCII. -/
def IsLowered (c : Char) : Prop := lowerChar c = [c] ∧ 97 ≤ c.toNat ∧ isBlank c = false

instance (c : Char) : Decidable (IsLowered c) := inferInstanceAs (Decidable (_ ∧ _ ∧ _))

/-- What a character becomes in a text that is put in lower case. -/
inductive Lowers (c : Char) : Text → Prop
  | stays (h : lowerChar c = [c]) : Lowers c [c]
  | turns {form : Text} (h : lowerChar c ≠ [c]) (hne : form ≠ [])
      (hform : ∀ c' ∈ form, IsLowered c') : Lowers c form

/-- What a span maps to is in lower case. -/
theorem isLowered_image {s : CaseSpan} {n : Nat} (hs : s ∈ lowerSpans) (hlow : s.low ≤ n)
    (hhigh : n ≤ s.high) (hn : mapCase lowerSpans n = n) : IsLowered (Char.ofNat n) := by
  obtain ⟨hletter, hvalid, hapart⟩ := lowerSpans_land s hs
  have htoNat : (Char.ofNat n).toNat = n := by
    have hchar : n.isValidChar := by
      unfold Nat.isValidChar
      omega
    rw [Char.ofNat, dif_pos hchar]
    rfl
  refine ⟨?_, by omega, ?_⟩
  · obtain hsmall | hbig := hletter
    · have hascii : ∀ n < 123, 97 ≤ n → lowerChar (Char.ofNat n) = [Char.ofNat n] := by decide
      exact hascii n (by omega) (by omega)
    · have hdot : n ≠ 0x130 := by
        have := hapart (0x130, 0x130) List.mem_cons_self
        dsimp only at this
        omega
      rw [lowerChar, htoNat, if_neg (by omega), if_neg hdot, hn]
  · rw [isBlank, htoNat, RangeTable.contains, List.any_eq_false]
    intro r hr
    have := hapart r (List.mem_cons_of_mem _ hr)
    simp only [Bool.and_eq_true, decide_eq_true_eq]
    omega

theorem lowerChar_ne_nil (c : Char) : lowerChar c ≠ [] := by
  unfold lowerChar
  split_ifs <;> exact List.cons_ne_nil _ _

theorem lowerChar_eq_self_or (c : Char) : lowerChar c = [c] ∨ ∀ c' ∈ lowerChar c, IsLowered c' := by
  by_cases hascii : c.toNat < 128
  · have hall : ∀ n < 128, (Char.ofNat n).toLower = Char.ofNat n ∨
        IsLowered (Char.ofNat n).toLower := by
      decide +kernel
    rw [lowerChar, if_pos hascii, List.forall_mem_singleton, List.singleton_inj,
      ← Char.ofNat_toNat c]
    exact hall c.toNat hascii
  by_cases hdot : c.toNat = 0x130
  · have hforms : IsLowered 'i' ∧ IsLowered (Char.ofNat 0x307) := by decide +kernel
    rw [lowerChar, if_neg hascii, if_pos hdot]
    exact .inr (List.forall_mem_cons.mpr ⟨hforms.1, List.forall_mem_singleton.mpr hforms.2⟩)
  · have hc : lowerChar c = [Char.ofNat (mapCase lowerSpans c.toNat)] := by
      rw [lowerChar, if_neg hascii, if_neg hdot]
    obtain hsame | ⟨s, hs, hlow, hhigh, hfixed⟩ := mapCase_lowerSpans c.toNat
    · rw [hsame, Char.ofNat_toNat] at hc
      exact .inl hc
    · rw [hc]
      exact .inr (List.forall_mem_singleton.mpr (isLowered_image hs hlow hhigh hfixed))

theorem lowers_lowerChar (c : Char) : Lowers c (lowerChar c) := by
  by_cases h : lowerChar c = [c]
  · rw [h]
    exact .stays h
  · exact .turns h (lowerChar_ne_nil c) ((lowerChar_eq_self_or c).resolve_left h)

/-- The capital sigma has two forms, one inside and one at the end of a word. -/
theorem lowers_sigma {c : Char} (h : c.toNat = 0x3A3) :
    Lowers c [Char.ofNat 0x3C2] ∧ Lowers c [Char.ofNat 0x3C3] := by
  have hturns : lowerChar (Char.ofNat 0x3A3) ≠ [Char.ofNat 0x3A3] := by decide +kernel
  have hforms : IsLowered (Char.ofNat 0x3C2) ∧ IsLowered (Char.ofNat 0x3C3) := by decide +kernel
  rw [← Char.ofNat_toNat c, h]
  exact ⟨.turns hturns (List.cons_ne_nil _ _) (List.forall_mem_singleton.mpr hforms.1),
    .turns hturns (List.cons_ne_nil _ _) (List.forall_mem_singleton.mpr hforms.2)⟩

/-! ## Texts -/

/-- A text is put in lower case one character after the other. -/
theorem lowerAfter_eq_flatten (before s : Text) :
    ∃ forms, List.Forall₂ Lowers s forms ∧ lowerAfter before s = forms.flatten := by
  induction s generalizing before with
  | nil => exact ⟨[], .nil, rfl⟩
  | cons c s ih =>
    obtain ⟨forms, hforms, heq⟩ := ih (c :: before)
    rw [lowerAfter, heq]
    split_ifs with hsigma hfinal
    · exact ⟨_ :: forms, .cons (lowers_sigma hsigma).1 hforms, rfl⟩
    · exact ⟨_ :: forms, .cons (lowers_sigma hsigma).2 hforms, rfl⟩
    · exact ⟨_ :: forms, .cons (lowers_lowerChar c) hforms, rfl⟩

theorem lower_eq_flatten (s : Text) :
    ∃ forms, List.Forall₂ Lowers s forms ∧ lower s = forms.flatten :=
  lowerAfter_eq_flatten [] s

section

variable {c : Char} {s : Text}

/-- **Nothing but letters in lower case is brought in.** -/
theorem of_mem_lower (h : c ∈ lower s) : IsLowered c ∨ c ∈ s ∧ lowerChar c = [c] := by
  obtain ⟨forms, hforms, heq⟩ := lower_eq_flatten s
  rw [heq] at h
  clear heq
  induction hforms with
  | nil => contradiction
  | cons hc _ ih =>
    rw [List.flatten_cons, List.mem_append] at h
    obtain h | h := h
    · cases hc with
      | stays hstays =>
        obtain rfl := List.mem_singleton.mp h
        exact .inr ⟨List.mem_cons_self, hstays⟩
      | turns _ _ hform => exact .inl (hform c h)
    · exact (ih h).imp_right fun ⟨hmem, hstays⟩ => ⟨List.mem_cons_of_mem _ hmem, hstays⟩

theorem lower_eq_self (h : ∀ c ∈ s, lowerChar c = [c]) : lower s = s := by
  obtain ⟨forms, hforms, heq⟩ := lower_eq_flatten s
  rw [heq]
  clear heq
  induction hforms with
  | nil => rfl
  | cons hc _ ih =>
    obtain ⟨hfirst, hrest⟩ := List.forall_mem_cons.mp h
    cases hc with
    | stays _ => rw [List.flatten_cons, ih hrest, List.singleton_append]
    | turns hturns => contradiction

theorem lowerChar_of_mem_lower (h : c ∈ lower s) : lowerChar c = [c] :=
  (of_mem_lower h).elim And.left And.right

theorem lower_singleton (c : Char) : lower [c] = lowerChar c := by
  unfold lower lowerAfter
  split_ifs with hsigma hfinal
  · simp [meetsCased] at hfinal
  · rw [← Char.ofNat_toNat c, hsigma]
    decide +kernel
  · rw [lowerAfter, List.append_nil]

theorem isLowered_or_of_mem_head? {forms : List Text} (hforms : List.Forall₂ Lowers s forms)
    (h : c ∈ forms.flatten.head?) : IsLowered c ∨ c ∈ s.head? := by
  cases hforms with
  | nil => contradiction
  | cons hc _ =>
    cases hc with
    | stays _ => exact .inr h
    | turns _ hne hform =>
      rw [List.flatten_cons, List.head?_append_of_ne_nil _ hne] at h
      exact .inl (hform c (List.mem_of_mem_head? h))

/-- What holds of neighbours wherever lower case has brought one of them in, and held of all
neighbours before, holds of all neighbours after. -/
theorem isChain_lower {R : Char → Char → Prop} (hR : ∀ a b, IsLowered a ∨ IsLowered b → R a b)
    (h : s.IsChain R) : (lower s).IsChain R := by
  obtain ⟨forms, hforms, heq⟩ := lower_eq_flatten s
  rw [heq]
  clear heq
  induction hforms with
  | nil => exact .nil
  | cons hc hforms ih =>
    rw [List.flatten_cons]
    rw [List.isChain_cons] at h
    cases hc with
    | stays _ =>
      refine .append (.singleton _) (ih h.2) fun a ha b hb => ?_
      obtain rfl : _ = a := by simpa using ha
      exact (isLowered_or_of_mem_head? hforms hb).elim (fun hb => hR _ b (.inr hb)) (h.1 b)
    | turns _ _ hform =>
      have hany : ∀ a ∈ _, ∀ b, R a b := fun a ha b => hR a b (.inl (hform a ha))
      refine .append ?_ (ih h.2) fun a ha b _ => hany a (List.mem_of_mem_getLast? ha) b
      exact (List.pairwise_of_forall_mem_list fun a ha b _ => hany a ha b).isChain

end

end NamedSql
