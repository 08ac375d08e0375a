import Mathlib.Data.List.Basic
import Mathlib.Data.List.TakeWhile
import NamedSql.Text.Blank

/-!
# Runs and words

Readers of a text take the characters of a class from its front, as many as there are. That splits
the text where the run ends, and only there (`exists_run`, `span_append`).

The words of a text are what blanks set apart. Blanks around a text and the number of blanks between
two words are of no account (`words_blanks_append`, `words_run_append`), and a text with a first
word consists of blanks, this word and a rest with the other words (`exists_of_words_eq_cons`).
-/

namespace NamedSql

/-! ## Runs -/

/-- One or more characters of a class. -/
def IsRun (p : Char → Bool) (t : Text) : Prop := t ≠ [] ∧ ∀ c ∈ t, p c = true

section

variable {p q : Char → Bool} {run rest s t : Text}

theorem IsRun.mono (h : IsRun p t) (hpq : ∀ c, p c = true → q c = true) : IsRun q t :=
  ⟨h.1, fun c hc => hpq c (h.2 c hc)⟩

theorem IsRun.of_mem_head? (h : IsRun p t) {c : Char} (hc : c ∈ (t ++ s).head?) : p c = true := by
  rw [List.head?_append_of_ne_nil _ h.1] at hc
  exact h.2 c (List.mem_of_mem_head? hc)

theorem IsRun.of_mem_getLast? (h : IsRun p t) {c : Char} (hc : c ∈ (s ++ t).getLast?) :
    p c = true := by
  rw [List.getLast?_append_of_ne_nil _ h.1] at hc
  exact h.2 c (List.mem_of_mem_getLast? hc)

/-- A run ends where the first character of another class stands. -/
theorem span_append (hrun : ∀ c ∈ run, p c = true) (hrest : ∀ c ∈ rest.head?, p c = false) :
    (run ++ rest).takeWhile p = run ∧ (run ++ rest).dropWhile p = rest := by
  rw [List.takeWhile_append_of_pos hrun, List.dropWhile_append_of_pos hrun]
  cases rest with
  | nil => simp
  | cons c rest => simp [hrest c rfl]

theorem not_of_mem_head?_dropWhile {c : Char} (h : c ∈ (s.dropWhile p).head?) : p c = false := by
  simpa [Option.mem_def.mp h] using List.head?_dropWhile_not p s

theorem exists_run (p : Char → Bool) (s : Text) : ∃ run rest, s = run ++ rest ∧
    (∀ c ∈ run, p c = true) ∧ ∀ c ∈ rest.head?, p c = false :=
  ⟨s.takeWhile p, s.dropWhile p, List.takeWhile_append_dropWhile.symm,
    fun _ => List.mem_takeWhile_imp, fun _ => not_of_mem_head?_dropWhile⟩

end

/-! ## Blanks at the ends -/

/-- What begins and ends with runs that are not blank. -/
theorem strip_append {b b' t t' : Text} (hb : ∀ c ∈ b, isBlank c = true)
    (hb' : ∀ c ∈ b', isBlank c = true) (ht : IsRun (!isBlank ·) t) (ht' : IsRun (!isBlank ·) t')
    (s : Text) : strip (b ++ (t ++ (s ++ t')) ++ b') = t ++ (s ++ t') := by
  have hfront : (b ++ (t ++ (s ++ t') ++ b')).dropWhile isBlank = t ++ (s ++ t') ++ b' := by
    refine (span_append hb fun c hc => ?_).2
    rw [List.append_assoc] at hc
    simpa using ht.of_mem_head? hc
  have hback : (b'.reverse ++ (t ++ (s ++ t')).reverse).dropWhile isBlank =
      (t ++ (s ++ t')).reverse := by
    refine (span_append (fun c hc => hb' c (List.mem_reverse.mp hc)) fun c hc => ?_).2
    rw [List.head?_reverse, ← List.append_assoc] at hc
    simpa using ht'.of_mem_getLast? hc
  rw [strip, List.append_assoc, hfront, List.reverse_append, hback, List.reverse_reverse]

theorem exists_eq_blanks_strip (s : Text) : ∃ b b', s = b ++ strip s ++ b' ∧
    (∀ c ∈ b, isBlank c = true) ∧ ∀ c ∈ b', isBlank c = true := by
  have hend := List.takeWhile_append_dropWhile (p := isBlank) (l := (s.dropWhile isBlank).reverse)
  refine ⟨s.takeWhile isBlank, ((s.dropWhile isBlank).reverse.takeWhile isBlank).reverse, ?_,
    fun c => List.mem_takeWhile_imp, fun c hc => List.mem_takeWhile_imp (List.mem_reverse.mp hc)⟩
  rw [strip, List.append_assoc, ← List.reverse_append, hend, List.reverse_reverse,
    List.takeWhile_append_dropWhile]

/-! ## Words -/

/-- The maximal runs of characters that are not blank, in their order. -/
def words (s : Text) : List Text := (s.splitOnP isBlank).filter (· ≠ [])

section

variable {b s t : Text} {ts : List Text}

theorem ne_nil_of_mem_words (h : t ∈ words s) : t ≠ [] := by
  simpa using (List.mem_filter.mp h).2

@[simp] theorem words_nil : words [] = [] := rfl

theorem words_append_cons {c : Char} (hc : isBlank c = true) (s s' : Text) :
    words (s ++ c :: s') = words s ++ words s' := by
  unfold words
  rw [List.splitOnP_append_cons s s' hc, List.filter_append]

theorem words_blanks_append (hb : ∀ c ∈ b, isBlank c = true) (s : Text) :
    words (b ++ s) = words s := by
  induction b with
  | nil => rfl
  | cons c b ih =>
    obtain ⟨hc, hb⟩ := List.forall_mem_cons.mp hb
    exact (words_append_cons hc [] (b ++ s)).trans (ih hb)

theorem words_append_blanks (hb : ∀ c ∈ b, isBlank c = true) (s : Text) :
    words (s ++ b) = words s := by
  cases b with
  | nil => rw [List.append_nil]
  | cons c b =>
    obtain ⟨hc, hb⟩ := List.forall_mem_cons.mp hb
    have hnone : words b = [] := by simpa using words_blanks_append hb []
    rw [words_append_cons hc, hnone, List.append_nil]

theorem words_strip (s : Text) : words (strip s) = words s := by
  obtain ⟨b, b', hs, hb, hb'⟩ := exists_eq_blanks_strip s
  calc words (strip s) = words (b ++ strip s ++ b') := by
        rw [words_append_blanks hb', words_blanks_append hb]
    _ = words s := by rw [← hs]

theorem words_eq_singleton (ht : IsRun (!isBlank ·) t) : words t = [t] := by
  rw [words, List.splitOnP_eq_singleton fun c hc => by simpa using ht.2 c hc]
  simp [ht.1]

/-- A run without blanks is a word, where a blank follows or nothing. -/
theorem words_run_append (ht : IsRun (!isBlank ·) t) (hs : ∀ c ∈ s.head?, isBlank c = true) :
    words (t ++ s) = t :: words s := by
  cases s with
  | nil => simpa using words_eq_singleton ht
  | cons c s =>
    have hc : isBlank c = true := hs c rfl
    have hskip : words (c :: s) = words s := words_blanks_append (b := [c]) (by simpa using hc) s
    rw [words_append_cons hc, words_eq_singleton ht, List.singleton_append, hskip]

theorem words_run_blanks_append (ht : IsRun (!isBlank ·) t) (hb : IsRun isBlank b) (s : Text) :
    words (t ++ (b ++ s)) = t :: words s := by
  rw [words_run_append ht fun c => hb.of_mem_head?, words_blanks_append hb.2]

theorem exists_of_words_eq_cons (h : words s = t :: ts) : ∃ b rest, s = b ++ t ++ rest ∧
    (∀ c ∈ b, isBlank c = true) ∧ IsRun (!isBlank ·) t ∧ (∀ c ∈ rest.head?, isBlank c = true) ∧
    words rest = ts := by
  obtain ⟨b, s, rfl, hb, hs⟩ := exists_run isBlank s
  obtain ⟨t', rest, rfl, ht', hrest⟩ := exists_run (!isBlank ·) s
  have hblank : ∀ c ∈ rest.head?, isBlank c = true := fun c hc => by simpa using hrest c hc
  rw [words_blanks_append hb] at h
  have hne : t' ≠ [] := by
    rintro rfl
    cases rest with
    | nil => simp at h
    | cons c rest => simp [hs c rfl] at hrest
  rw [words_run_append ⟨hne, ht'⟩ hblank] at h
  obtain ⟨rfl, rfl⟩ := List.cons.inj h
  exact ⟨b, rest, (List.append_assoc b t' rest).symm, hb, ⟨hne, ht'⟩, hblank, rfl⟩

/-- Where a blank comes first, it sets the first word apart. -/
theorem exists_gap_of_words_eq_cons (h : words s = t :: ts)
    (hs : ∀ c ∈ s.head?, isBlank c = true) : ∃ b rest, s = b ++ t ++ rest ∧ IsRun isBlank b ∧
    IsRun (!isBlank ·) t ∧ (∀ c ∈ rest.head?, isBlank c = true) ∧ words rest = ts := by
  obtain ⟨b, rest, rfl, hb, ht, hrest⟩ := exists_of_words_eq_cons h
  refine ⟨b, rest, rfl, ⟨?_, hb⟩, ht, hrest⟩
  rintro rfl
  obtain ⟨c, t, rfl⟩ := List.exists_cons_of_ne_nil ht.1
  simpa [hs c rfl] using ht.2 c List.mem_cons_self

theorem blank_of_words_eq_nil (h : words s = []) : ∀ c ∈ s, isBlank c = true := by
  obtain ⟨b, s, rfl, hb, hs⟩ := exists_run isBlank s
  obtain ⟨t, rest, rfl, ht, hrest⟩ := exists_run (!isBlank ·) s
  cases t with
  | nil =>
    cases rest with
    | nil => simpa using hb
    | cons c rest => simp [hs c rfl] at hrest
  | cons c t =>
    rw [words_blanks_append hb, words_run_append ⟨List.cons_ne_nil c t, ht⟩
      fun c hc => by simpa using hrest c hc] at h
    contradiction

end

end NamedSql
