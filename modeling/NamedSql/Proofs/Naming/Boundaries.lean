import Mathlib.Data.List.SplitBy
import NamedSql.Naming.SnakeCase
import NamedSql.Proofs.Text.Numerals
import NamedSql.Proofs.Text.Words

/-!
# Where the words of a name begin

Snake case is made in passes, each over what the one before it left: one pass looks for acronyms
that run into a word, the next one for a capital after a small letter or digit. Each pass takes what
it has matched and goes on behind it, so it could overlook a boundary that begins inside a match.

It does not. An acronym is matched in one way only (`acronym?_eq_some_iff`), and what is matched
ends in a small letter, with which nothing begins. So the pass marks a place exactly if the three
characters around it say so (`breakAcronyms_eq`), and the next pass exactly if two do
(`breakWords_eq`). A mark is neither a letter nor a digit, so the marks of one pass are not in the
way of the other (`insertAfter_insertAfter`).

**Theorem (`snakeCase_eq_one_pass`).** Snake case marks every place where a word begins, which is
seen from the two characters around it and the next one, and does nothing else but to squash
separators and marks and to change letter case.
-/

namespace NamedSql.SnakeCase

/-! ## Squashing -/

/-- Every maximal run of characters of a class becomes one underscore. -/
def squash (p : Char → Bool) (s : Text) : Text :=
  (s.splitBy fun a b => p a && p b).flatMap fun run => if run.all p then ['_'] else run

section

variable {p : Char → Bool} {c c' : Char} {s : Text}

theorem squash_append {s₁ s₂ : Text}
    (h : ∀ a ∈ s₁.getLast?, ∀ b ∈ s₂.head?, (p a && p b) = false) :
    squash p (s₁ ++ s₂) = squash p s₁ ++ squash p s₂ := by
  unfold squash
  rw [List.splitBy_append h, List.flatMap_append]

theorem squash_run {run : Text} (hne : run ≠ []) (h : ∀ c ∈ run, p c = true) :
    squash p run = ['_'] := by
  have hchain : run.IsChain fun a b => p a && p b := by
    refine (List.pairwise_of_forall_mem_list fun a ha b hb => ?_).isChain
    rw [h a ha, h b hb, Bool.and_self]
  unfold squash
  rw [List.splitBy_of_isChain hne hchain, List.flatMap_singleton, if_pos (List.all_eq_true.mpr h)]

/-- A run that ends before `s`. -/
theorem squash_run_append {run : Text} (hne : run ≠ []) (h : ∀ c ∈ run, p c = true)
    (hs : ∀ c ∈ s.head?, p c = false) : squash p (run ++ s) = '_' :: squash p s := by
  rw [squash_append, squash_run hne h, List.singleton_append]
  intro a _ b hb
  rw [hs b hb, Bool.and_false]

theorem squash_cons_of_not (h : p c = false) (s : Text) : squash p (c :: s) = c :: squash p s := by
  have hsingle : squash p [c] = [c] := by simp [squash, List.splitBy, List.splitBy.loop, h]
  rw [← List.singleton_append, squash_append, hsingle, List.singleton_append]
  simp [h]

/-- Of a run the last character counts only. -/
theorem squash_cons_cons (h : p c = true) (h' : p c' = true) :
    squash p (c :: c' :: s) = squash p (c' :: s) := by
  have hrun : ∀ a ∈ (c' :: s).takeWhile p, p a = true := fun a => List.mem_takeWhile_imp
  have hne : (c' :: s).takeWhile p ≠ [] := by simp [h']
  have hend : ∀ b ∈ ((c' :: s).dropWhile p).head?, p b = false := fun _ =>
    not_of_mem_head?_dropWhile
  rw [← List.takeWhile_append_dropWhile (p := p) (l := c' :: s), squash_run_append hne hrun hend,
    ← List.cons_append, squash_run_append (List.cons_ne_nil _ _) _ hend]
  simpa [h] using hrun

end

/-- A pass that goes over a text from left to right and gives an underscore for the last character
of each run only. -/
theorem eq_squash {p : Char → Bool} {pass : Text → Text} (hnil : pass [] = [])
    (hrun : ∀ c c' s, p c = true → p c' = true → pass (c :: c' :: s) = pass (c' :: s))
    (hend : ∀ c s, p c = true → (∀ c' ∈ s.head?, p c' = false) → pass (c :: s) = '_' :: pass s)
    (hother : ∀ c s, p c = false → pass (c :: s) = c :: pass s) (s : Text) :
    pass s = squash p s := by
  induction s with
  | nil => exact hnil
  | cons c s ih =>
    cases hc : p c with
    | false => rw [hother c s hc, squash_cons_of_not hc, ih]
    | true =>
      by_cases hs : ∀ c' ∈ s.head?, p c' = false
      · have hsquash : squash p (c :: s) = '_' :: squash p s :=
          squash_run_append (List.cons_ne_nil c []) (by simpa using hc) hs
        rw [hend c s hc hs, hsquash, ih]
      · match s, ih, hs with
        | [], _, hs => simp at hs
        | c' :: s, ih, hs =>
          have hc' : p c' = true := by simpa using hs
          rw [hrun c c' s hc hc', squash_cons_cons hc hc', ih]

theorem replaceSeparators_eq_squash (s : Text) : replaceSeparators s = squash isSeparator s := by
  refine eq_squash rfl ?_ ?_ ?_ s
  · intro c c' s hc hc'
    rw [replaceSeparators, if_pos hc, if_pos hc']
  · intro c s hc hs
    cases s with
    | nil => simp [replaceSeparators, hc]
    | cons c' s => rw [replaceSeparators, if_pos hc, if_neg (by simpa using hs)]
  · intro c s hc
    cases s with
    | nil => simp [replaceSeparators, hc]
    | cons c' s => rw [replaceSeparators, if_neg (by simp [hc])]

theorem collapse_eq_squash (s : Text) : collapse s = squash (· = '_') s := by
  refine eq_squash rfl ?_ ?_ ?_ s
  · intro c c' s hc hc'
    obtain rfl := of_decide_eq_true hc
    obtain rfl := of_decide_eq_true hc'
    rw [collapse]
  · intro c s hc hs
    obtain rfl := of_decide_eq_true hc
    rw [collapse]
    rintro s' - rfl
    simp at hs
  · intro c s hc
    rw [collapse]
    rintro s' rfl
    simp at hc

/-! ## Marking -/

/-- Puts an underscore between two characters where the text from the first one on is as `starts`
says. -/
def insertAfter (starts : Text → Bool) : Text → Text
  | [] => []
  | c :: s =>
    if starts (c :: s) then c :: '_' :: insertAfter starts s else c :: insertAfter starts s

/-- An acronym runs into a word after its first character. -/
def endsAcronym : Text → Bool
  | a :: b :: c :: _ => isAcronymChar a && isCapital b && isSmall c
  | _ => false

/-- A capital comes after a small letter or digit. -/
def meetsCapital : Text → Bool
  | a :: b :: _ => (isSmall a || isDecimal a) && isCapital b
  | _ => false

section

variable {c : Char}

theorem toNat_of_isCapital (h : isCapital c = true) : 65 ≤ c.toNat ∧ c.toNat ≤ 90 := by
  simpa [isCapital, Char.le_def, UInt32.le_iff_toNat_le] using h

theorem toNat_of_isSmall (h : isSmall c = true) : 97 ≤ c.toNat ∧ c.toNat ≤ 122 := by
  simpa [isSmall, Char.le_def, UInt32.le_iff_toNat_le] using h

/-- Among the characters of ASCII the decimal digits come before the letters. -/
theorem not_isDecimal_of_le (h : 65 ≤ c.toNat) (h' : c.toNat < 128) : isDecimal c = false := by
  have hdigit : c.isDigit = false := by
    simp only [Char.isDigit, Bool.and_eq_false_imp, decide_eq_false_iff_not, UInt32.le_iff_toNat_le]
    intro _ hle
    change c.toNat ≤ 57 at hle
    omega
  rw [isDecimal_eq_isDigit h', hdigit]

theorem not_isSmall_of_isCapital (h : isCapital c = true) : isSmall c = false := by
  by_contra hsmall
  have := toNat_of_isCapital h
  have := toNat_of_isSmall (Bool.of_not_eq_false hsmall)
  omega

theorem not_isDecimal_of_isCapital (h : isCapital c = true) : isDecimal c = false := by
  have := toNat_of_isCapital h
  exact not_isDecimal_of_le (by omega) (by omega)

theorem not_isCapital_of_isSmall (h : isSmall c = true) : isCapital c = false := by
  by_contra hcapital
  simp [not_isSmall_of_isCapital (Bool.of_not_eq_false hcapital)] at h

theorem not_isAcronymChar_of_isSmall (h : isSmall c = true) : isAcronymChar c = false := by
  have := toNat_of_isSmall h
  simp [isAcronymChar, not_isCapital_of_isSmall h,
    not_isDecimal_of_le (c := c) (by omega) (by omega)]

theorem not_isSmall_of_isAcronymChar (h : isAcronymChar c = true) : isSmall c = false := by
  by_contra hsmall
  simp [not_isAcronymChar_of_isSmall (Bool.of_not_eq_false hsmall)] at h

theorem isAcronymChar_of_isCapital (h : isCapital c = true) : isAcronymChar c = true := by
  simp [isAcronymChar, h]

end

/-! ## Acronyms -/

/-- **An acronym is matched in one way only.** How much of a run is taken is no choice, since a
small letter ends the run and the capital before it is the last of the run. -/
theorem acronym?_eq_some_iff {s run rest : Text} {last small : Char} :
    acronym? s = some (run, last, small, rest) ↔ run ++ last :: small :: rest = s ∧ run ≠ [] ∧
      (∀ c ∈ run, isAcronymChar c = true) ∧ isCapital last = true ∧ isSmall small = true := by
  constructor
  · intro h
    refine ⟨acronym?_eq h, ?_⟩
    unfold acronym? at h
    dsimp only at h
    split at h
    · split at h
      · next hcond =>
        simp only [Option.some.injEq, Prod.mk.injEq] at h
        obtain ⟨rfl, rfl, rfl, rfl⟩ := h
        refine ⟨hcond.1, fun c hc => ?_, hcond.2⟩
        exact List.mem_takeWhile_imp (List.dropLast_subset _ hc)
      · contradiction
    · contradiction
  · rintro ⟨rfl, hne, hrun, hlast, hsmall⟩
    have hsplit : run ++ last :: small :: rest = (run ++ [last]) ++ small :: rest := by simp
    have hall : ∀ c ∈ run ++ [last], isAcronymChar c = true := by
      simpa [or_imp, forall_and, isAcronymChar_of_isCapital hlast] using hrun
    unfold acronym?
    rw [hsplit, List.takeWhile_append_of_pos hall, List.dropWhile_append_of_pos hall]
    simp [not_isAcronymChar_of_isSmall hsmall, hne, hlast, hsmall]

theorem endsAcronym_iff {s : Text} : endsAcronym s = true ↔ ∃ a b c rest, s = a :: b :: c :: rest ∧
    isAcronymChar a = true ∧ isCapital b = true ∧ isSmall c = true := by
  unfold endsAcronym
  split <;> simp_all [and_assoc]

/-- Inside of a run nothing is marked but the place before its last capital. -/
theorem insertAfter_acronym {run rest : Text} {last small : Char} (hne : run ≠ [])
    (hrun : ∀ c ∈ run, isAcronymChar c = true) (hlast : isCapital last = true)
    (hsmall : isSmall small = true) :
    insertAfter endsAcronym (run ++ last :: small :: rest) =
      run ++ '_' :: last :: small :: insertAfter endsAcronym rest := by
  have hword : insertAfter endsAcronym (last :: small :: rest) =
      last :: small :: insertAfter endsAcronym rest := by
    rw [insertAfter, if_neg, insertAfter, if_neg]
    · rw [endsAcronym_iff]
      rintro ⟨a, b, c, s, heq, ha, -, -⟩
      obtain ⟨rfl, -⟩ := List.cons.inj heq
      simp [not_isAcronymChar_of_isSmall hsmall] at ha
    · rw [endsAcronym_iff]
      rintro ⟨a, b, c, s, heq, -, hb, -⟩
      simp only [List.cons.injEq] at heq
      obtain ⟨-, rfl, -⟩ := heq
      simp [not_isCapital_of_isSmall hsmall] at hb
  induction run with
  | nil => contradiction
  | cons a run ih =>
    obtain ⟨ha, hrun⟩ := List.forall_mem_cons.mp hrun
    cases run with
    | nil =>
      have hends : endsAcronym (a :: last :: small :: rest) = true :=
        endsAcronym_iff.mpr ⟨a, last, small, rest, rfl, ha, hlast, hsmall⟩
      rw [List.singleton_append, insertAfter, if_pos hends, hword, List.singleton_append]
    | cons b run =>
      -- The third character is still one of the run, so it is not small.
      have hinside : ¬endsAcronym (a :: b :: (run ++ last :: small :: rest)) = true := by
        rw [endsAcronym_iff]
        rintro ⟨a', b', c, s, heq, -, -, hc⟩
        simp only [List.cons.injEq] at heq
        have hmem : c ∈ (run ++ [last]).head? := by
          obtain ⟨-, -, hc'⟩ := heq
          cases run <;> simpa using (List.cons.inj hc').1
        obtain hc' | hc' := List.mem_append.mp (List.mem_of_mem_head? hmem)
        · simp [not_isSmall_of_isAcronymChar (hrun c (List.mem_cons_of_mem b hc'))] at hc
        · simp [List.mem_singleton.mp hc', not_isSmall_of_isCapital hlast] at hc
      rw [List.cons_append, List.cons_append, insertAfter, if_neg hinside, ← List.cons_append,
        ih (List.cons_ne_nil b run) hrun]
      rfl

theorem breakAcronyms_eq (s : Text) : breakAcronyms s = insertAfter endsAcronym s := by
  fun_induction breakAcronyms s with
  | case1 => rfl
  | case2 c s run last small rest h ih =>
    obtain ⟨hs, hne, hrun, hlast, hsmall⟩ := acronym?_eq_some_iff.mp h
    rw [← hs, insertAfter_acronym hne hrun hlast hsmall, ih]
  | case3 c s h ih =>
    have hnot : ¬endsAcronym (c :: s) = true := by
      intro hends
      obtain ⟨a, b, d, rest, heq, ha, hb, hd⟩ := endsAcronym_iff.mp hends
      have hmatch : acronym? (c :: s) = some ([a], b, d, rest) :=
        acronym?_eq_some_iff.mpr ⟨heq.symm, List.cons_ne_nil a [], by simpa using ha, hb, hd⟩
      simp [hmatch] at h
    rw [insertAfter, if_neg hnot, ih]

/-! ## Words -/

/-- Behind a capital, the next word is looked for without it. -/
theorem insertAfter_cons_of_isCapital {b : Char} (h : isCapital b = true) (s : Text) :
    insertAfter meetsCapital (b :: s) = b :: insertAfter meetsCapital s := by
  have hnot : ¬meetsCapital (b :: s) = true := by
    cases s with
    | nil => exact Bool.false_ne_true
    | cons c s => simp [meetsCapital, not_isSmall_of_isCapital h, not_isDecimal_of_isCapital h]
  rw [insertAfter, if_neg hnot]

theorem breakWords_eq (s : Text) : breakWords s = insertAfter meetsCapital s := by
  fun_induction breakWords s with
  | case1 a b s h ih =>
    have hb : isCapital b = true := (Bool.and_eq_true_iff.mp h).2
    have hmeets : meetsCapital (a :: b :: s) = true := h
    rw [insertAfter, if_pos hmeets, insertAfter_cons_of_isCapital hb, ih]
  | case2 a b s h ih =>
    have hnot : ¬meetsCapital (a :: b :: s) = true := h
    rw [insertAfter, if_neg hnot, ih]
  | case3 s h =>
    match s, h with
    | [], _ => rfl
    | [a], _ => rfl
    | a :: b :: s, h => exact (h a b s rfl).elim

theorem head?_insertAfter (starts : Text → Bool) (s : Text) :
    (insertAfter starts s).head? = s.head? := by
  cases s with
  | nil => rfl
  | cons c s =>
    rw [insertAfter]
    split <;> rfl

theorem meetsCapital_congr {c : Char} {s s' : Text} (h : s.head? = s'.head?) :
    meetsCapital (c :: s) = meetsCapital (c :: s') := by
  cases s <;> cases s' <;> simp_all [meetsCapital]

/-- The marks that are there already neither give nor take a place to mark. -/
theorem insertAfter_insertAfter (starts : Text → Bool) (s : Text) :
    insertAfter meetsCapital (insertAfter starts s) =
      insertAfter (fun s => starts s || meetsCapital s) s := by
  have hbefore (c : Char) (s : Text) : ¬meetsCapital (c :: '_' :: s) = true := by
    simp [meetsCapital, show isCapital '_' = false from rfl]
  have hbehind (s : Text) : ¬meetsCapital ('_' :: s) = true := by
    cases s with
    | nil => exact Bool.false_ne_true
    | cons b s =>
      simp [meetsCapital, show isSmall '_' = false from rfl, show isDecimal '_' = false from rfl]
  induction s with
  | nil => rfl
  | cons c s ih =>
    rw [insertAfter, insertAfter]
    cases hstarts : starts (c :: s) with
    | true =>
      rw [if_pos rfl, Bool.true_or, if_pos rfl, insertAfter, if_neg (hbefore c _), insertAfter,
        if_neg (hbehind _), ih]
    | false =>
      rw [if_neg Bool.false_ne_true, Bool.false_or, insertAfter,
        meetsCapital_congr (head?_insertAfter starts s), ih]

/-! ## One pass -/

/-- A word begins between the characters at `i` and `i + 1`: a capital stands behind a small letter
or a digit, or behind another capital and in front of a small letter. -/
def wordBegins (t : Text) (i : Nat) : Bool :=
  t[i + 1]?.any isCapital &&
    (t[i]?.any (fun c => isSmall c || isDecimal c) || t[i]?.any isCapital && t[i + 2]?.any isSmall)

/-- A text with an underscore at every place where a word begins. -/
def markWords (t : Text) : Text :=
  (t.mapIdx fun i c => if wordBegins t i then [c, '_'] else [c]).flatten

theorem wordBegins_zero (t : Text) : wordBegins t 0 = (endsAcronym t || meetsCapital t) := by
  match t with
  | [] => rfl
  | [a] => rfl
  | [a, b] => simp [wordBegins, endsAcronym, meetsCapital, Bool.and_comm]
  | a :: b :: c :: t =>
    simp only [wordBegins, endsAcronym, meetsCapital, isAcronymChar, List.getElem?_cons_zero,
      List.getElem?_cons_succ, Nat.zero_add, Option.any_some]
    cases isCapital a <;> cases isCapital b <;> cases isSmall a <;> cases isDecimal a <;>
      cases isSmall c <;> rfl

theorem markWords_eq (t : Text) :
    markWords t = insertAfter (fun s => endsAcronym s || meetsCapital s) t := by
  induction t with
  | nil => rfl
  | cons c t ih =>
    have hrest : markWords (c :: t) =
        (if wordBegins (c :: t) 0 then [c, '_'] else [c]) ++ markWords t := by
      unfold markWords
      rw [List.mapIdx_cons, List.flatten_cons]
      rfl
    rw [hrest, wordBegins_zero, insertAfter, ← ih]
    split <;> rfl

/-- **The two passes mark the places where a word begins and no others.** -/
theorem breakWords_breakAcronyms (t : Text) : breakWords (breakAcronyms t) = markWords t := by
  rw [breakAcronyms_eq, breakWords_eq, insertAfter_insertAfter, markWords_eq]

theorem filter_markWords (t : Text) :
    (markWords t).filter (· != '_') = t.filter (· != '_') := by
  rw [markWords_eq]
  induction t with
  | nil => rfl
  | cons c t ih =>
    rw [insertAfter]
    split <;> simp [List.filter_cons, ih]

/-- **Snake case in one pass.** Let `t` be the name without the blanks at its ends and with an
underscore for each maximal run of separators. An underscore goes to every place of `t` where a word
begins, which three characters tell; then each run of underscores becomes one, and the text is put
in lower case. The passes for acronyms and for words together find these places and no others, and
no other character is lost, added or moved by them. -/
theorem snakeCase_eq_one_pass (s : Text) :
    let t := squash isSeparator (strip s)
    snakeCase s = lower (squash (· = '_') (markWords t)) ∧
      breakWords (breakAcronyms t) = markWords t ∧
      (markWords t).filter (· != '_') = t.filter (· != '_') := by
  intro t
  refine ⟨?_, breakWords_breakAcronyms t, filter_markWords t⟩
  unfold snakeCase
  rw [replaceSeparators_eq_squash, breakWords_breakAcronyms, collapse_eq_squash]

example : markWords "getHTTPResponse2Code".toList = "get_HTTP_Response2_Code".toList := by decide

end NamedSql.SnakeCase
