import SymbolRelay.Proofs.Store.CodeUniqueness

/-!
# Writes to a row that is gone

A change or a removal is staged only for a symbol that is there. Until the vote another transaction may
have removed the row. The vote looks at codes, not at rows: what was staged for a row that is gone is
refused exactly when a code is taken or the store refuses commits anyway. Else the transaction commits,
and a changed row is back.

## Results

* `lost_write_refused_iff` — when a transaction with a write to a row that is gone is refused, and what
  comes of it otherwise;
* `removed_row_comes_back` — two runs in which it is not refused.
-/

set_option autoImplicit false

namespace SymbolRelay

/-- Whether a write was staged for a symbol that was committed. -/
def Staged.expectsRow : Staged → Bool
  | .insert _ => false
  | .update _ | .delete => true

namespace Store

/-- A vote is refused by a store that refuses commits, or because of a code. -/
theorem not_prepared_iff (s : Store) (tx : Transaction) :
    (¬ ∃ after, s.prepare tx = .ok after) ↔
      s.refusing = true ∨
        ∃ id symbol, tx.written? id = some symbol ∧ s.codeTaken tx symbol.code id = true := by
  have hfree : s.conflict tx = none ↔
      ¬ ∃ id symbol, tx.written? id = some symbol ∧ s.codeTaken tx symbol.code id = true := by
    rw [conflict_eq_none_iff]
    simp
  have hok : (∃ after, s.prepare tx = .ok after) ↔ s.refusing = false ∧ s.conflict tx = none := by
    constructor
    · rintro ⟨after, h⟩
      obtain ⟨href, hc, _⟩ := (prepare_eq_ok_iff s tx after).mp h
      exact ⟨href, hc⟩
    · rintro ⟨href, hc⟩
      exact ⟨_, (prepare_eq_ok_iff s tx _).mpr ⟨href, hc, rfl⟩⟩
  rw [hok, hfree]
  by_cases href : s.refusing = true <;> simp [href]

/-- A transaction that was not voted for is committed exactly when it is voted for. -/
theorem committed_iff_prepared (s : Store) {tx : Transaction} (hp : tx.prepared = false) :
    (∃ after, s.commit tx = .ok after) ↔ ∃ after, s.prepare tx = .ok after := by
  simp only [commit, hp]
  cases s.prepare tx <;> simp [Except.map]

end Store

namespace Desk

variable {d : Desk} {name : String} {tx : Transaction}

/-- An open transaction, not voted for yet, has a write staged for a row that is gone. -/
structure Lost (d : Desk) (name : String) (tx : Transaction) (id : Int64) (write : Staged) : Prop where
  opened : d.opened.get? name = some tx
  unvoted : tx.prepared = false
  staged : tx.staged.get? id = some write
  expected : write.expectsRow = true
  gone : d.store.rows.get? id = none

theorem serve_prepare_done_iff (ho : d.opened.get? name = some tx) :
    (d.serve name .prepare).2 = some (.ok .done) ↔ ∃ after, d.store.prepare tx = .ok after := by
  rw [serve_of_ne_begin (by decide : Demand.prepare ≠ .begin), ho]
  simp only [serveIn]
  cases d.store.prepare tx <;> simp

theorem serve_commit_done_iff (ho : d.opened.get? name = some tx) :
    (d.serve name .commit).2 = some (.ok .done) ↔ ∃ after, d.store.commit tx = .ok after := by
  rw [serve_of_ne_begin (by decide : Demand.commit ≠ .begin), ho]
  simp only [serveIn]
  cases d.store.commit tx <;> simp

/-- Once a transaction is committed, what it staged for a row is what is there. -/
theorem row_of_committed (ho : d.opened.get? name = some tx)
    (hdone : (d.serve name .commit).2 = some (.ok .done)) (id : Int64) :
    (d.serve name .commit).1.store.rows.get? id = tx.view d.store.rows id := by
  obtain ⟨after, hc⟩ := (serve_commit_done_iff ho).mp hdone
  rw [serve_of_ne_begin (by decide : Demand.commit ≠ .begin), ho]
  simp only [serveIn, hc]
  obtain ⟨_, rfl⟩ | ⟨_, _, _, rfl⟩ := (Store.commit_eq_ok_iff _ _ _).mp hc
  · exact Store.get?_applyWrites _ _ _
  · exact Store.get?_applyWrites _ _ _

theorem view_of_staged_write {id : Int64} {write : Staged} (h : tx.staged.get? id = some write)
    (rows : Table Int64 Symbol) : tx.view rows id = write.symbol? := by
  simp [Transaction.view, h]

/-- Whether a desk does not let a transaction pass: it refuses commits, or one of the codes that the
transaction writes is taken. -/
def Blocks (d : Desk) (tx : Transaction) : Prop :=
  d.store.refusing = true ∨
    ∃ id symbol, tx.written? id = some symbol ∧ d.store.codeTaken tx symbol.code id = true

/-- **A write to a row that is gone is refused exactly when one of the codes of its transaction is
taken, or the store refuses commits.** Otherwise the transaction can be committed at once or after its
vote, and leaves in place of the missing row what it staged for it. -/
theorem lost_write_refused_iff {id : Int64} {write : Staged} (lost : d.Lost name tx id write) :
    ((d.serve name .prepare).2 ≠ some (.ok .done) ↔ d.Blocks tx) ∧
    ((d.serve name .commit).2 ≠ some (.ok .done) ↔ d.Blocks tx) ∧
    (¬ d.Blocks tx →
      (d.serve name .commit).1.store.rows.get? id = write.symbol? ∧
      ∀ more, (d.take (.serve name .prepare)).orderly more = true →
        (∀ turn ∈ more, turn.ends name = false) →
        let later := (d.take (.serve name .prepare)).play more
        (later.serve name .commit).2 = some (.ok .done) ∧
          (later.serve name .commit).1.store.rows.get? id = write.symbol?) := by
  have hprepare : (d.serve name .prepare).2 ≠ some (.ok .done) ↔ d.Blocks tx := by
    rw [ne_eq, serve_prepare_done_iff lost.opened]
    exact d.store.not_prepared_iff tx
  have hcommit : (d.serve name .commit).2 ≠ some (.ok .done) ↔ d.Blocks tx := by
    rw [ne_eq, serve_commit_done_iff lost.opened, d.store.committed_iff_prepared lost.unvoted]
    exact d.store.not_prepared_iff tx
  refine ⟨hprepare, hcommit, fun hfree => ⟨?_, ?_⟩⟩
  · have hdone : (d.serve name .commit).2 = some (.ok .done) :=
      Classical.byContradiction fun h => hfree (hcommit.mp h)
    rw [row_of_committed lost.opened hdone, view_of_staged_write lost.staged]
  · intro more ordered kept later
    have hdone : (d.serve name .prepare).2 = some (.ok .done) :=
      Classical.byContradiction fun h => hfree (hprepare.mp h)
    obtain ⟨after, hp⟩ := (serve_prepare_done_iff lost.opened).mp hdone
    obtain ⟨_, _, rfl⟩ := (Store.prepare_eq_ok_iff _ _ _).mp hp
    have hvoted : (d.take (.serve name .prepare)).opened.get? name =
        some { tx with prepared := true } := by
      simp only [take, serve_of_ne_begin (by decide : Demand.prepare ≠ .begin), lost.opened, serveIn,
        hp]
      exact Table.get?_insert_self _ _ _
    have ho : later.opened.get? name = some { tx with prepared := true } :=
      opened_play_of_voted more _ ordered kept hvoted rfl
    have hcommitted := serve_commit_of_voted ho rfl
    refine ⟨hcommitted, ?_⟩
    rw [row_of_committed ho hcommitted]
    exact view_of_staged_write lost.staged _

/-- A stored symbol that one client is about to change or remove, and another removes first. -/
def removedMeanwhile (demand : Demand) : List Turn :=
  [.serve "seed" .begin, .serve "seed" (.create ⟨0, "Bitcoin", "BTC", "", .epoch, .epoch⟩),
    .serve "seed" .commit,
    .serve "a" .begin, .serve "a" demand,
    .serve "b" .begin, .serve "b" (.delete 1), .serve "b" .commit]

/-- The change of a symbol that one client is about to make. -/
def lateChange : Demand := .update ⟨1, "Bitcoin", "XBT", "", .epoch, .epoch⟩

/-- The desk at which a demand is late. -/
def lateDesk (demand : Demand) : Desk := (fresh 1 default).play (removedMeanwhile demand)

/-- **A removed row comes back, and a removed row is removed again.** Nobody refuses the late change or
the late removal, though a change staged only then would have been. -/
theorem removed_row_comes_back :
    (fresh 1 default).orderly (removedMeanwhile lateChange) = true ∧
    (lateDesk lateChange).store.rows.get? 1 = none ∧
    (((lateDesk lateChange).take (.serve "c" .begin)).serve "c" lateChange).2 =
      some (.error .notFound) ∧
    ((lateDesk lateChange).serve "a" .commit).2 = some (.ok .done) ∧
    ((lateDesk lateChange).serve "a" .commit).1.store.rows.get? 1 ≠ none ∧
    (fresh 1 default).orderly (removedMeanwhile (.delete 1)) = true ∧
    (lateDesk (.delete 1)).store.rows.get? 1 = none ∧
    ((lateDesk (.delete 1)).serve "a" .commit).2 = some (.ok .done) := by
  refine ⟨by decide +kernel, by decide +kernel, ?_, ?_, by decide +kernel, by decide +kernel,
    by decide +kernel, ?_⟩ <;> cbv

end Desk

end SymbolRelay
