import NamedSql.Number.Numeral

/-!
# Digits and numerals of ASCII

A numeral may be written in the digits of any script and with underscores between them. In ASCII a
digit is what one expects, and a text of such digits that is not too long is read as the number that
it is in the decimal system (`readNat_of_digits`).
-/

namespace NamedSql

section

variable {c : Char}

theorem lt_128_of_isDigit (h : c.isDigit = true) : c.toNat < 128 := by
  simp only [Char.isDigit, Bool.and_eq_true, decide_eq_true_eq, ge_iff_le] at h
  exact Nat.lt_of_le_of_lt (UInt32.le_iff_toNat_le.1 h.2) (by decide)

theorem decimalValue?_of_isDigit (h : c.isDigit = true) :
    decimalValue? c = some (c.toNat - 48) := by
  rw [decimalValue?, if_pos (lt_128_of_isDigit h), if_pos h]

theorem isDecimal_eq_isDigit (h : c.toNat < 128) : isDecimal c = c.isDigit := by
  unfold isDecimal decimalValue?
  cases c.isDigit <;> simp [h]

theorem isDecimal_of_isDigit (h : c.isDigit = true) : isDecimal c = true :=
  (isDecimal_eq_isDigit (lt_128_of_isDigit h)).trans h

end

section

variable {n : Text}

theorem groupedDigits?_of_digits (hne : n ≠ []) (h : ∀ c ∈ n, c.isDigit = true) :
    groupedDigits? n = some (n.map fun c => c.toNat - 48) := by
  fun_induction groupedDigits? n with
  | case1 => contradiction
  | case2 c => simp [decimalValue?_of_isDigit (h c List.mem_cons_self)]
  | case3 c rest ih =>
    have hmark := h '_' (by simp)
    contradiction
  | case4 c rest hsingle hgroup ih =>
    obtain ⟨hc, hrest⟩ := List.forall_mem_cons.mp h
    have hne : rest ≠ [] := fun hnil => hsingle (by rw [hnil])
    rw [decimalValue?_of_isDigit hc, ih hne hrest]
    rfl

theorem readNat_of_digits (hne : n ≠ []) (h : ∀ c ∈ n, c.isDigit = true)
    (hlength : n.length ≤ maxNumeralDigits) : readNat n = .ok (Nat.ofDigitChars 10 n 0) := by
  rw [readNat, groupedDigits?_of_digits hne h]
  dsimp only
  rw [if_neg (by rw [List.length_map]; omega), ofDigits, List.foldl_map]
  rfl

end

end NamedSql
