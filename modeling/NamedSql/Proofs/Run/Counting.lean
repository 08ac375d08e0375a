import NamedSql.Proofs.Text.Numerals
import NamedSql.Proofs.Text.Words
import NamedSql.Run.Status

/-!
# The number of affected rows

A status is read from left to right: letters, then digits that are passed over, then the digits of
the number. The reader takes all digits it meets for those to be passed over, and when nothing
follows it has to give them back, since they were the number.

That is no loss. A blank stands before every run of digits, so each run is read as a whole or not at
all, and the reader finds the number wherever the form allows one (`statusDigits?_eq_some_iff`).
Blanks count only for setting words apart, so the form can be said of the words of a status alone
(`statusDigits?_strip`).

**Theorem (`statusCount_of_ascii`).** If the words of a status are of ASCII and not too long to be
read, the number of rows is that of the last word when the words are letters, perhaps digits, and
digits; it is 0 in every other case, and there is no fault.
-/

namespace NamedSql

/-! ## Classes of characters -/

section

variable {c : Char}

/-- No blank is a letter of a status or a digit. -/
theorem class_of_isBlank (h : isBlank c = true) :
    isStatusLetter c = false ∧ isDecimal c = false := by
  have hall : ∀ r ∈ blankRanges, ∀ n ∈ List.range' r.1 (r.2 + 1 - r.1),
      isStatusLetter (Char.ofNat n) = false ∧ isDecimal (Char.ofNat n) = false := by
    decide
  obtain ⟨r, hr, hc⟩ := List.any_eq_true.mp h
  simp only [Bool.and_eq_true, decide_eq_true_eq] at hc
  rw [← Char.ofNat_toNat c]
  exact hall r hr c.toNat (List.mem_range'_1.mpr (by omega))

theorem not_isBlank_of_isDecimal (h : isDecimal c = true) : isBlank c = false := by
  by_contra hblank
  simp [(class_of_isBlank (Bool.of_not_eq_false hblank)).2] at h

theorem not_isBlank_of_isStatusLetter (h : isStatusLetter c = true) : isBlank c = false := by
  by_contra hblank
  simp [(class_of_isBlank (Bool.of_not_eq_false hblank)).1] at h

theorem isStatusLetter_eq_isAlpha (h : c.toNat < 128) : isStatusLetter c = c.isAlpha := by
  have hall : ∀ n < 128, isStatusLetter (Char.ofNat n) = (Char.ofNat n).isAlpha := by decide
  rw [← Char.ofNat_toNat c]
  exact hall c.toNat h

end

/-! ## The form of a status -/

/-- The form of a status with the digits `n` of its number. -/
inductive IsStatus (n : Text) : Text → Prop
  | count {w b : Text} (hw : IsRun isStatusLetter w) (hb : IsRun isBlank b)
      (hn : IsRun isDecimal n) : IsStatus n (w ++ (b ++ n))
  | countAfter {w b o b' : Text} (hw : IsRun isStatusLetter w) (hb : IsRun isBlank b)
      (ho : IsRun isDecimal o) (hb' : IsRun isBlank b') (hn : IsRun isDecimal n) :
      IsStatus n (w ++ (b ++ (o ++ (b' ++ n))))

section

variable {s n rest : Text}

theorem blanksThenDigits?_eq_some_iff : blanksThenDigits? s = some (n, rest) ↔
    (∃ b, s = b ++ n ++ rest ∧ IsRun isBlank b) ∧ IsRun isDecimal n ∧
      ∀ c ∈ rest.head?, isDecimal c = false := by
  constructor
  · intro h
    unfold blanksThenDigits? at h
    dsimp only at h
    split_ifs at h with hlength hnone
    obtain ⟨rfl, rfl⟩ := Prod.mk.inj (Option.some.inj h)
    refine ⟨⟨s.takeWhile isBlank, ?_, fun hnil => hlength ?_, fun c => List.mem_takeWhile_imp⟩,
      ⟨fun hnil => hnone (by rw [hnil]; rfl), fun c => List.mem_takeWhile_imp⟩,
      fun c => not_of_mem_head?_dropWhile⟩
    · rw [List.append_assoc, List.takeWhile_append_dropWhile, List.takeWhile_append_dropWhile]
    · have := congrArg List.length (List.takeWhile_append_dropWhile (p := isBlank) (l := s))
      rw [hnil, List.nil_append] at this
      exact this
  · rintro ⟨⟨b, rfl, hne, hb⟩, hn, hrest⟩
    have hblanks : (b ++ n ++ rest).dropWhile isBlank = n ++ rest := by
      rw [List.append_assoc]
      exact (span_append hb fun c hc => not_isBlank_of_isDecimal (hn.of_mem_head? hc)).2
    obtain ⟨htake, hdrop⟩ := span_append hn.2 hrest
    have hlength : ¬(n ++ rest).length = (b ++ n ++ rest).length := by
      have := List.length_pos_iff.mpr hne
      simp only [List.length_append]
      omega
    have hsome : ¬n.isEmpty = true := by simpa using hn.1
    unfold blanksThenDigits?
    rw [hblanks, if_neg hlength, htake, if_neg hsome, hdrop]

theorem span_letters {w b : Text} (hw : IsRun isStatusLetter w) (hb : IsRun isBlank b)
    (rest : Text) : (w ++ (b ++ rest)).takeWhile isStatusLetter = w ∧
      (w ++ (b ++ rest)).dropWhile isStatusLetter = b ++ rest :=
  span_append hw.2 fun _ hc => (class_of_isBlank (hb.of_mem_head? hc)).1

/-- **The number is found wherever the form allows one.** -/
theorem statusDigits?_eq_some_iff : statusDigits? s = some n ↔ IsStatus n s := by
  constructor
  · intro h
    have hs : s.takeWhile isStatusLetter ++ s.dropWhile isStatusLetter = s :=
      List.takeWhile_append_dropWhile
    unfold statusDigits? at h
    split_ifs at h with hword
    have hw : IsRun isStatusLetter (s.takeWhile isStatusLetter) :=
      ⟨fun hnil => hword (by rw [hnil]; rfl), fun c => List.mem_takeWhile_imp⟩
    rw [← hs]
    split at h
    · contradiction
    · next ds hfirst =>
      obtain rfl := Option.some.inj h
      obtain ⟨⟨b, hb, hblank⟩, hn, -⟩ := blanksThenDigits?_eq_some_iff.mp hfirst
      rw [hb, List.append_nil]
      exact .count hw hblank hn
    · next o rest _ hfirst =>
      obtain ⟨⟨b, hb, hblank⟩, ho, -⟩ := blanksThenDigits?_eq_some_iff.mp hfirst
      split at h
      · next ds hsecond =>
        obtain rfl := Option.some.inj h
        obtain ⟨⟨b', hb', hblank'⟩, hn, -⟩ := blanksThenDigits?_eq_some_iff.mp hsecond
        rw [hb, hb', List.append_nil, List.append_assoc]
        exact .countAfter hw hblank ho hblank' hn
      · contradiction
  · intro h
    cases h with
    | @count w b hw hb hn =>
      obtain ⟨htake, hdrop⟩ := span_letters hw hb n
      have hfirst : blanksThenDigits? (b ++ n) = some (n, []) :=
        blanksThenDigits?_eq_some_iff.mpr ⟨⟨b, (List.append_nil _).symm, hb⟩, hn, by simp⟩
      rw [statusDigits?, htake, if_neg (by simpa using hw.1), hdrop, hfirst]
    | @countAfter w b o b' hw hb ho hb' hn =>
      obtain ⟨htake, hdrop⟩ := span_letters hw hb (o ++ (b' ++ n))
      have hfirst : blanksThenDigits? (b ++ (o ++ (b' ++ n))) = some (o, b' ++ n) :=
        blanksThenDigits?_eq_some_iff.mpr ⟨⟨b, (List.append_assoc ..).symm, hb⟩, ho,
          fun c hc => (class_of_isBlank (hb'.of_mem_head? hc)).2⟩
      have hsecond : blanksThenDigits? (b' ++ n) = some (n, []) :=
        blanksThenDigits?_eq_some_iff.mpr ⟨⟨b', (List.append_nil _).symm, hb'⟩, hn, by simp⟩
      rw [statusDigits?, htake, if_neg (by simpa using hw.1), hdrop, hfirst]
      obtain ⟨c, b', rfl⟩ := List.exists_cons_of_ne_nil hb'.1
      simp only [List.cons_append] at hsecond ⊢
      rw [hsecond]

end

/-! ## The words of a status -/

/-- The word that tells a number: the last one, where the first consists of letters, the last of
digits, and of digits too what stands between them, if anything does. -/
def numberWord? (letter digit : Char → Bool) : List Text → Option Text
  | [w, n] => if w.all letter && n.all digit then some n else none
  | [w, o, n] => if w.all letter && o.all digit && n.all digit then some n else none
  | _ => none

section

variable {letter digit letter' digit' : Char → Bool} {n : Text} {ts : List Text}

theorem numberWord?_eq_some_iff : numberWord? letter digit ts = some n ↔
    ∃ w, (∀ c ∈ w, letter c = true) ∧ (∀ c ∈ n, digit c = true) ∧
      (ts = [w, n] ∨ ∃ o, (∀ c ∈ o, digit c = true) ∧ ts = [w, o, n]) := by
  unfold numberWord?
  split
  · simp; grind
  · simp; grind
  · simp; grind

theorem mem_of_numberWord? (h : numberWord? letter digit ts = some n) :
    n ∈ ts ∧ ∀ c ∈ n, digit c = true := by
  obtain ⟨w, -, hn, rfl | ⟨o, -, rfl⟩⟩ := numberWord?_eq_some_iff.mp h
  · exact ⟨by simp, hn⟩
  · exact ⟨by simp, hn⟩

theorem numberWord?_congr
    (h : ∀ t ∈ ts, ∀ c ∈ t, letter c = letter' c ∧ digit c = digit' c) :
    numberWord? letter digit ts = numberWord? letter' digit' ts := by
  have hall {p p' : Char → Bool} {t : Text} (hp : ∀ c ∈ t, p c = p' c) : t.all p = t.all p' := by
    rw [Bool.eq_iff_iff, List.all_eq_true, List.all_eq_true]
    exact forall₂_congr fun c hc => by rw [hp c hc]
  have hletter : ∀ t ∈ ts, t.all letter = t.all letter' := fun t ht =>
    hall fun c hc => (h t ht c hc).1
  have hdigit : ∀ t ∈ ts, t.all digit = t.all digit' := fun t ht =>
    hall fun c hc => (h t ht c hc).2
  unfold numberWord?
  split <;> simp_all

end

/-- **A status is read by its words.** -/
theorem statusDigits?_strip (s : Text) :
    statusDigits? (strip s) = numberWord? isStatusLetter isDecimal (words s) := by
  have hletters {t : Text} (h : IsRun isStatusLetter t) : IsRun (!isBlank ·) t :=
    h.mono fun c hc => by simp [not_isBlank_of_isStatusLetter hc]
  have hdigits {t : Text} (h : IsRun isDecimal t) : IsRun (!isBlank ·) t :=
    h.mono fun c hc => by simp [not_isBlank_of_isDecimal hc]
  refine Option.ext fun n => ?_
  rw [statusDigits?_eq_some_iff, numberWord?_eq_some_iff]
  constructor
  · rw [← words_strip s]
    generalize strip s = u
    intro h
    cases h with
    | @count w b hw hb hn =>
      refine ⟨w, hw.2, hn.2, .inl ?_⟩
      rw [words_run_blanks_append (hletters hw) hb, words_eq_singleton (hdigits hn)]
    | @countAfter w b o b' hw hb ho hb' hn =>
      refine ⟨w, hw.2, hn.2, .inr ⟨o, ho.2, ?_⟩⟩
      rw [words_run_blanks_append (hletters hw) hb, words_run_blanks_append (hdigits ho) hb',
        words_eq_singleton (hdigits hn)]
  · rintro ⟨w, hw, hn, hs | ⟨o, ho, hs⟩⟩
    · obtain ⟨b₀, s, rfl, hb₀, hrunw, hblank, hs⟩ := exists_of_words_eq_cons hs
      obtain ⟨b, s, rfl, hb, hrunn, -, hs⟩ := exists_gap_of_words_eq_cons hs hblank
      have hstrip := strip_append hb₀ (blank_of_words_eq_nil hs) hrunw hrunn b
      simp only [List.append_assoc] at hstrip ⊢
      rw [hstrip]
      exact .count ⟨hrunw.1, hw⟩ hb ⟨hrunn.1, hn⟩
    · obtain ⟨b₀, s, rfl, hb₀, hrunw, hblank, hs⟩ := exists_of_words_eq_cons hs
      obtain ⟨b, s, rfl, hb, hruno, hblank, hs⟩ := exists_gap_of_words_eq_cons hs hblank
      obtain ⟨b', s, rfl, hb', hrunn, -, hs⟩ := exists_gap_of_words_eq_cons hs hblank
      have hstrip := strip_append hb₀ (blank_of_words_eq_nil hs) hrunw hrunn (b ++ (o ++ b'))
      simp only [List.append_assoc] at hstrip ⊢
      rw [hstrip]
      exact .countAfter ⟨hrunw.1, hw⟩ hb ⟨hruno.1, ho⟩ hb' ⟨hrunn.1, hn⟩

/-! ## The number -/

/-- **The number of affected rows.** It is told by the last word of a status whose words are
letters, perhaps digits, and digits. A status of other words tells none, which counts as 0, and no
status is a fault, since a word of at most 4300 digits can be read. -/
theorem statusCount_of_ascii {s : Text}
    (h : ∀ t ∈ words s, (∀ c ∈ t, c.toNat < 128) ∧ t.length ≤ 4300) :
    statusCount s = .ok (match numberWord? Char.isAlpha Char.isDigit (words s) with
      | some n => Nat.ofDigitChars 10 n 0
      | none => 0) := by
  have hclass : numberWord? isStatusLetter isDecimal (words s) =
      numberWord? Char.isAlpha Char.isDigit (words s) :=
    numberWord?_congr fun t ht c hc =>
      ⟨isStatusLetter_eq_isAlpha ((h t ht).1 c hc), isDecimal_eq_isDigit ((h t ht).1 c hc)⟩
  rw [statusCount, statusDigits?_strip, hclass]
  cases hword : numberWord? Char.isAlpha Char.isDigit (words s) with
  | none => rfl
  | some n =>
    obtain ⟨hmem, hn⟩ := mem_of_numberWord? hword
    dsimp only
    rw [readNat_of_digits (ne_nil_of_mem_words hmem) hn (h n hmem).2]

theorem statusCount_of_ascii_insert :
    (∀ t ∈ words "\tINSERT 0\n 012 ".toList, (∀ c ∈ t, c.toNat < 128) ∧ t.length ≤ 4300) ∧
      statusCount "\tINSERT 0\n 012 ".toList = .ok 12 := by
  have hwords : words "\tINSERT 0\n 012 ".toList =
      ["INSERT".toList, "0".toList, "012".toList] := by
    decide
  have hascii : ∀ t ∈ words "\tINSERT 0\n 012 ".toList,
      (∀ c ∈ t, c.toNat < 128) ∧ t.length ≤ 4300 := by
    rw [hwords]
    simp
  exact ⟨hascii, (statusCount_of_ascii hascii).trans (congrArg Except.ok (by decide))⟩

end NamedSql
