import NamedSql.Proofs.Query.Opacity
import NamedSql.Proofs.Session.Agreement
import NamedSql.Proofs.Session.Resolution

/-!
# Opaque text and the values that are bound

The text of a query has no part in which values a source gives for its names. It is there for the
message about a missing parameter alone (`resolve_agrees`).

**Theorem (`opaque_text_has_no_influence`).** Put an enclosure on lines of its own between a query
that scans and any other text, and let it hold one text and then another. Both queries scan or
neither does; their placeholders, the values that any source gives for them, and their errors are
the same, but for the positions of what comes after the enclosure.
-/

namespace NamedSql

/-! ## Answers without their message -/

section

variable {ε α β : Type}

theorem toOption_bind (x : Except ε α) (k : α → Except ε β) :
    (x >>= k).toOption = x.toOption >>= fun a => (k a).toOption := by
  cases x <;> rfl

theorem toOption_map (g : α → β) (x : Except ε α) : (x.map g).toOption = x.toOption.map g := by
  cases x <;> rfl

theorem toOption_mapM (f : α → Except ε β) (as : List α) :
    (as.mapM f).toOption = as.mapM fun a => (f a).toOption := by
  induction as with
  | nil => rfl
  | cons a as ih =>
    rw [List.mapM_cons, List.mapM_cons, toOption_bind, ← ih]
    congr 1
    funext b
    exact toOption_bind ..

end

namespace Source.Answering

variable (how : Answering)

/-- What counts as missing only decides how an answer fails. -/
theorem answer_toOption (missing missing' : Failure) (name : Text) :
    (how.answer missing name).toOption = (how.answer missing' name).toOption := by
  cases how with
  | nothing => rfl
  | lookup l =>
    simp only [answer]
    split
    · rfl
    · rfl
    · rfl
  | entries es =>
    simp only [answer]
    cases es.lookup name <;> rfl
  | attributes m read =>
    simp only [answer]
    cases m.get? name <;> rfl

theorem answerAll_toOption (missing missing' : Text → Failure) (names : List Text) :
    (how.answerAll missing names).toOption = (how.answerAll missing' names).toOption := by
  unfold answerAll
  rw [toOption_mapM, toOption_mapM]
  congr 1
  funext name
  exact how.answer_toOption _ _ name

end Source.Answering

namespace Session

variable {α β : Type}

/-! ## Computations that agree -/

/-- Two computations that leave the same state, and give the same or both fail. -/
def Agrees (m m' : Session α) : Prop :=
  ∀ s, (m.exec s).2 = (m'.exec s).2 ∧ (m.exec s).1.toOption = (m'.exec s).1.toOption

namespace Agrees

theorem refl (m : Session α) : Agrees m m := fun _ => ⟨rfl, rfl⟩

theorem bind {m m' : Session α} {k k' : α → Session β} (hm : Agrees m m')
    (hk : ∀ a, Agrees (k a) (k' a)) : Agrees (m >>= k) (m' >>= k') := by
  intro s
  obtain ⟨hstate, hvalue⟩ := hm s
  rw [exec_bind, exec_bind]
  generalize m.exec s = x, m'.exec s = x' at hstate hvalue
  obtain ⟨f | a, t⟩ := x <;> obtain ⟨f' | a', t'⟩ := x' <;> obtain rfl : t = t' := hstate
  · exact ⟨rfl, rfl⟩
  · simp [Except.toOption] at hvalue
  · simp [Except.toOption] at hvalue
  · obtain rfl : a = a' := Option.some.inj hvalue
    exact hk a t

theorem mapM {f f' : α → Session β} (h : ∀ a, Agrees (f a) (f' a)) (as : List α) :
    Agrees (as.mapM f) (as.mapM f') := by
  induction as with
  | nil => exact refl _
  | cons a as ih =>
    rw [List.mapM_cons, List.mapM_cons]
    exact bind (h a) fun b => bind ih fun bs => refl _

theorem orMissing (missing missing' : Failure) (m : Session α) :
    Agrees (Session.orMissing missing m) (Session.orMissing missing' m) := by
  intro s
  unfold Session.orMissing
  rw [exec_tryCatch, exec_tryCatch]
  rcases m.exec s with ⟨f | a, t⟩
  · cases f <;> exact ⟨rfl, rfl⟩
  · exact ⟨rfl, rfl⟩

end Agrees

/-! ## Resolving without the text of the query -/

section

variable (r : Resolver) (isolated : Bool) (names : List Text) (sql sql' : Option Text)

theorem answersBy_agrees (m : Option FieldMap) (x : Source) :
    Agrees (answersBy r m x names sql) (answersBy r m x names sql') := by
  intro s
  rw [exec_answersBy, exec_answersBy]
  exact ⟨rfl, Source.Answering.answerAll_toOption ..⟩

theorem answers_agrees (x : Source) :
    Agrees (answers r isolated x names sql) (answers r isolated x names sql') := by
  unfold answers
  split <;> exact .bind (.refl _) fun m => answersBy_agrees r names sql sql' m _

/-- **The text of a query only decides how resolving fails.** -/
theorem resolve_agrees (x : Source) :
    Agrees (resolve r isolated names sql x) (resolve r isolated names sql' x) := by
  cases x with
  | requester cache query examples =>
    unfold resolve
    refine .bind (.refl _) fun m => ?_
    cases m with
    | some m => exact answersBy_agrees r names sql sql' _ _
    | none => exact .mapM (fun name => .bind (.orMissing _ _ _) fun _ => .refl _) names
  | _ =>
    rw [resolve_eq_answers (by simp), resolve_eq_answers (by simp)]
    split
    · exact .refl _
    · exact answers_agrees r isolated names sql sql' _

end

/-- Queries with the same names are bound to the same values. -/
theorem bind_parameters_eq {q q' : Scanned} (h : q.names = q'.names) (c : Config)
    (isolated : Bool) (x : Source) (s : State) :
    ((bind ⟨q, c, isolated⟩ x).exec s).1.toOption.map Bound.parameters =
      ((bind ⟨q', c, isolated⟩ x).exec s).1.toOption.map Bound.parameters := by
  have hparameters (q : Scanned) :
      ((bind ⟨q, c, isolated⟩ x).exec s).1.toOption.map Bound.parameters =
        ((resolve c.resolver isolated q.names q.sql x).exec s).1.toOption := by
    rw [bind_fst, toOption_map, Option.map_map]
    exact Option.map_id' ..
  rw [hparameters, hparameters, h]
  exact (resolve_agrees _ _ _ _ _ x s).2

/-! ## Two runs -/

/-- **Opaque text never influences binding.** -/
theorem opaque_text_has_no_influence {d : Delimiter} {e : Enclosure} {a b s s' : Text}
    {qa : Scanned} (he : e.Valid d.char) (hs : e.Holds s) (hs' : e.Holds s')
    (ha : scan d a = .ok qa) :
    ((∃ q, scan d (e.within a b s) = .ok q) ↔ ∃ q, scan d (e.within a b s') = .ok q) ∧
    (∀ q q', scan d (e.within a b s) = .ok q → scan d (e.within a b s') = .ok q' →
      q.names = q'.names ∧
      List.Forall₂ (Enclosure.Corresponds e (a.length + 1) s s') q.placeholders q'.placeholders ∧
      (∀ c isolated x t, ((bind ⟨q, c, isolated⟩ x).exec t).1.toOption.map Bound.parameters =
        ((bind ⟨q', c, isolated⟩ x).exec t).1.toOption.map Bound.parameters) ∧
      ∀ x t, t.config.delimiter = d →
        ((bindText (e.within a b s) x).exec t).1.toOption.map Bound.parameters =
          ((bindText (e.within a b s') x).exec t).1.toOption.map Bound.parameters) ∧
    ∀ u u', scan d (e.within a b s) = .error u → scan d (e.within a b s') = .error u' →
      u'.cause = u.cause ∧ u'.position + s.length = u.position + s'.length := by
  refine ⟨?_, ?_, ?_⟩
  · rw [Enclosure.exists_scan_within_iff he hs ha, Enclosure.exists_scan_within_iff he hs' ha]
  · intro q q' hq hq'
    have hplaceholders := Enclosure.forall₂_corresponds he hs hs' ha hq hq'
    have hnames : q.names = q'.names := by
      rw [q.names_eq, q'.names_eq, Enclosure.filterMap_name?_eq hplaceholders]
    refine ⟨hnames, hplaceholders, bind_parameters_eq hnames, fun x t ht => ?_⟩
    subst ht
    rw [← Prepares.bind_eq ⟨q, hq, rfl⟩, ← Prepares.bind_eq ⟨q', hq', rfl⟩]
    exact bind_parameters_eq hnames ..
  · intro u u'
    exact Enclosure.error_within he hs hs' ha

/-- A literal with the delimiter, a doubled quote and an opener in it, and an empty one. -/
theorem opaque_text_has_no_influence_string :
    ∃ q q', scan .colon ":a\n':x''/*'\n:b".toList = .ok q ∧
      scan .colon ":a\n''\n:b".toList = .ok q' ∧ q.names = q'.names ∧
      List.Forall₂ (Enclosure.Corresponds .string 3 ":x''/*".toList []) q.placeholders
        q'.placeholders := by
  have hvalid : Enclosure.string.Valid Delimiter.colon.char := trivial
  have hbody : Enclosure.string.Holds ":x''/*".toList :=
    .other (by decide) (.other (by decide) (.pair (.other (by decide) (.other (by decide) .nil))))
  have hnil : Enclosure.string.Holds [] := .nil
  have ha : scan .colon ":a".toList = .ok ⟨":a".toList,
      [.placeholder ['a'] 0 1 ":a".toList]⟩ := by decide +kernel
  have hb : scan .colon ":b".toList = .ok ⟨":b".toList,
      [.placeholder ['b'] 0 1 ":b".toList]⟩ := by decide +kernel
  obtain ⟨hiff, hok, -⟩ := opaque_text_has_no_influence hvalid hbody hnil ha
  obtain ⟨q, hq⟩ := (Enclosure.exists_scan_within_iff hvalid hbody ha).2 ⟨_, hb⟩
  obtain ⟨q', hq'⟩ := hiff.1 ⟨q, hq⟩
  obtain ⟨hnames, hplaceholders, -⟩ := hok q q' hq hq'
  exact ⟨q, q', hq, hq', hnames, hplaceholders⟩

end Session

end NamedSql
