import SymbolRelay.Proofs.Store.IdSequence
import SymbolRelay.Proofs.Store.LostWrites
import SymbolRelay.Proofs.Store.Votes

/-!
# Commits after a refused vote

A transaction whose last vote was refused can still ask for its commit. If no vote for it was ever
granted, the commit votes once more and goes by that. If an earlier vote was granted, the mark of that
vote is still there, and the commit asks nobody: what was staged after that vote is carried out though
the last vote was refused.

```text
   prepare ─ granted ── stage ── prepare ─ refused ── commit ──► carried out, checked or not
                        stage ── prepare ─ refused ── commit ──► checked once more
```

## Results

* `codesDistinct_of_passed` — what passes the check leaves no two rows with one code;
* `commit_after_refusal` — in every run, what comes of a commit after a refused vote, and just when it
  stands by the check;
* `refusal_overridden` — a run in which it does not, and two rows come to share a code.
-/

set_option autoImplicit false

namespace SymbolRelay.Desk

variable {d : Desk} {name : String} {tx : Transaction}

/-- What is not blocked gets its vote. -/
theorem conflict_eq_none_of_not_blocks (h : ¬ d.Blocks tx) :
    d.store.refusing = false ∧ d.store.conflict tx = none := by
  obtain ⟨after, hok⟩ := Classical.not_not.mp (mt (d.store.not_prepared_iff tx).mp h)
  obtain ⟨granting, free, _⟩ := (Store.prepare_eq_ok_iff _ _ _).mp hok
  exact ⟨granting, free⟩

/-- A commit is granted to a transaction that is marked as prepared, and else if nothing blocks it. -/
theorem serve_commit_done_iff_passed (ho : d.opened.get? name = some tx) :
    (d.serve name .commit).2 = some (.ok .done) ↔ tx.prepared = true ∨ ¬ d.Blocks tx := by
  rw [serve_commit_done_iff ho]
  cases hp : tx.prepared with
  | true =>
    have hok : d.store.commit tx = .ok (d.store.apply tx) :=
      (Store.commit_eq_ok_iff _ _ _).mpr (.inl ⟨hp, rfl⟩)
    exact ⟨fun _ => .inl rfl, fun _ => ⟨_, hok⟩⟩
  | false =>
    rw [d.store.committed_iff_prepared hp, Blocks, ← d.store.not_prepared_iff tx, Classical.not_not]
    simp

/-- A commit that is granted carries out what was staged. -/
theorem rows_of_commit_done (ho : d.opened.get? name = some tx)
    (hdone : (d.serve name .commit).2 = some (.ok .done)) :
    (d.take (.serve name .commit)).store.rows = Store.applyWrites d.store.rows tx.staged := by
  refine Table.ext fun id => ?_
  rw [Store.get?_applyWrites]
  exact row_of_committed ho hdone id

/-- **What passes the check leaves no two rows with one code.** -/
theorem codesDistinct_of_passed (keyed : RowsKeyed d.store.rows) (distinct : CodesDistinct d.store.rows)
    (passed : ¬ d.Blocks tx) : CodesDistinct (Store.applyWrites d.store.rows tx.staged) := by
  obtain ⟨_, free⟩ := conflict_eq_none_of_not_blocks passed
  have backs := Store.backs_voted keyed free
  exact backs.codesDistinct_apply distinct

/-- What comes of the commit of a transaction, given the votes for it up to the one that was refused. -/
structure AfterRefusal (d : Desk) (name : String) (tx : Transaction) (earlier : List Vote) : Prop where
  /-- It is granted just if an earlier vote was, or nothing blocks the transaction any more. -/
  granted : (d.serve name .commit).2 = some (.ok .done) ↔
    (∃ vote ∈ earlier, vote.granted = true) ∨ ¬ d.Blocks tx
  /-- If it is granted, what was staged is laid over the rows. -/
  applied : (d.serve name .commit).2 = some (.ok .done) →
    ∀ id, (d.take (.serve name .commit)).store.rows.get? id = overlay d.store.rows.get? tx.staged id
  /-- Otherwise it is answered with an error, and nothing is changed but that the transaction is gone. -/
  kept : (d.serve name .commit).2 ≠ some (.ok .done) →
    (∃ e, (d.serve name .commit).2 = some (.error e)) ∧
      d.take (.serve name .commit) = d.drop name
  /-- It stands by the check just if no earlier vote was granted to what is blocked now. -/
  checked : ((d.serve name .commit).2 = some (.ok .done) → ¬ d.Blocks tx) ↔
    (d.Blocks tx → ∀ vote ∈ earlier, vote.granted = false)
  /-- If it stands by the check, no two rows come to share a code. -/
  distinct : (d.Blocks tx → ∀ vote ∈ earlier, vote.granted = false) → CodesDistinct d.store.rows →
    CodesDistinct (d.take (.serve name .commit)).store.rows

theorem commit_refused (ho : d.opened.get? name = some tx)
    (h : (d.serve name .commit).2 ≠ some (.ok .done)) :
    (∃ e, (d.serve name .commit).2 = some (.error e)) ∧ d.take (.serve name .commit) = d.drop name := by
  rw [take_of_open (by decide) ho]
  rw [serve_of_ne_begin (by decide : Demand.commit ≠ .begin), ho] at h ⊢
  simp only [serveIn] at h ⊢
  cases hc : d.store.commit tx with
  | error e => exact ⟨⟨e, rfl⟩, rfl⟩
  | ok store =>
    rw [hc] at h
    exact absurd rfl h

/-- What a commit comes to once the mark of the transaction is known to be that of an earlier vote. -/
theorem afterRefusal (keyed : RowsKeyed d.store.rows) (ho : d.opened.get? name = some tx)
    {earlier : List Vote} (mark : tx.prepared = true ↔ ∃ vote ∈ earlier, vote.granted = true) :
    d.AfterRefusal name tx earlier := by
  have granted : (d.serve name .commit).2 = some (.ok .done) ↔
      (∃ vote ∈ earlier, vote.granted = true) ∨ ¬ d.Blocks tx := by
    rw [serve_commit_done_iff_passed ho, mark]
  have checked : ((d.serve name .commit).2 = some (.ok .done) → ¬ d.Blocks tx) ↔
      (d.Blocks tx → ∀ vote ∈ earlier, vote.granted = false) := by
    rw [granted]
    constructor
    · intro law blocked vote hv
      refine Bool.eq_false_iff.mpr fun hg => ?_
      exact law (.inl ⟨vote, hv, hg⟩) blocked
    · rintro never (⟨vote, hv, hg⟩ | passed) blocked
      · rw [never blocked vote hv] at hg
        cases hg
      · exact passed blocked
  refine ⟨granted, ?_, commit_refused ho, checked, ?_⟩
  · intro hdone id
    rw [rows_of_commit_done ho hdone, Store.get?_applyWrites_eq_overlay]
  · intro never distinct
    by_cases hdone : (d.serve name .commit).2 = some (.ok .done)
    · rw [rows_of_commit_done ho hdone]
      exact codesDistinct_of_passed keyed distinct (checked.mpr never hdone)
    · rw [(commit_refused ho hdone).2]
      exact distinct

variable {nextId : Int64} {clock : Clock} {turns : List Turn} {earlier : List Vote} {last : Vote}

/-- **When a refused vote is overridden.** In every run, for every open transaction whose last vote was
refused: its commit is granted just if an earlier vote was granted or nothing blocks it any more. So the
commit stands by the check just if no earlier vote was granted to what is blocked now; then no two rows
come to share a code. A commit that is not granted leaves the rows as they were. -/
theorem commit_after_refusal (opened : ((fresh nextId clock).play turns).opened.get? name = some tx)
    (asked : (fresh nextId clock).votes turns name = earlier ++ [last])
    (refused : last.granted = false) :
    ((fresh nextId clock).play turns).AfterRefusal name tx earlier := by
  have keyed : RowsKeyed ((fresh nextId clock).play turns).store.rows := fun id row hrow =>
    ((numbered_play nextId clock turns).dated id row (.inl hrow)).1
  refine afterRefusal keyed opened ?_
  rw [prepared_iff_granted (fun _ => rfl) turns opened, asked]
  constructor
  · rintro ⟨vote, hv, hg⟩
    rcases List.mem_append.mp hv with hv | hv
    · exact ⟨vote, hv, hg⟩
    · rw [List.mem_singleton.mp hv, refused] at hg
      cases hg
  · rintro ⟨vote, hv, hg⟩
    exact ⟨vote, List.mem_append_left _ hv, hg⟩

/-- One client has written two codes and another one has committed the second of them before the first
client asks for its vote. It may have asked for one before it wrote the second code. -/
def takenMeanwhile (early : Bool) : List Turn :=
  let symbol := fun code => (⟨0, "Coin", code, "", .epoch, .epoch⟩ : Symbol)
  [.serve "a" .begin, .serve "a" (.create (symbol "AAA"))] ++
    (if early then [.serve "a" .prepare] else []) ++
    [.serve "a" (.create (symbol "BBB")), .serve "b" .begin, .serve "b" (.create (symbol "BBB")),
      .serve "b" .commit, .serve "a" .prepare]

/-- Without the early vote the refusal stands. -/
theorem takenMeanwhile_refused :
    let d := (fresh 1 default).play (takenMeanwhile false)
    ((fresh 1 default).votes (takenMeanwhile false) "a").map (·.granted) = [false] ∧
      (d.serve "a" .commit).2 = some (.error (.duplicate "BBB")) ∧
      d.take (.serve "a" .commit) = d.drop "a" ∧
      CodesDistinct (d.take (.serve "a" .commit)).store.rows := by
  have answers : ((fresh 1 default).votes (takenMeanwhile false) "a").map (·.granted) = [false] := by
    decide +kernel
  obtain ⟨last, rest, hvotes, hlast, hrest⟩ := List.map_eq_cons_iff.mp answers
  rw [List.map_eq_nil_iff] at hrest
  subst hrest
  obtain ⟨tx, opened⟩ : ∃ tx, ((fresh 1 default).play (takenMeanwhile false)).opened.get? "a" = some tx :=
    Option.isSome_iff_exists.mp (by decide +kernel)
  have after : ((fresh 1 default).play (takenMeanwhile false)).AfterRefusal "a" tx [] :=
    commit_after_refusal opened hvotes hlast
  have refused : (((fresh 1 default).play (takenMeanwhile false)).serve "a" .commit).2 =
      some (.error (.duplicate "BBB")) := by decide +kernel
  have distinct : CodesDistinct ((fresh 1 default).play (takenMeanwhile false)).store.rows := by
    have hrows : ∀ e ∈ ((fresh 1 default).play (takenMeanwhile false)).store.rows.entries, e.1 = 3 := by
      decide +kernel
    intro i j row other hi hj _
    have hi3 := hrows _ ((Table.mem_entries_iff _ _ _).mpr hi)
    have hj3 := hrows _ ((Table.mem_entries_iff _ _ _).mpr hj)
    exact hi3.trans hj3.symm
  refine ⟨answers, refused, (after.kept ?_).2, after.distinct (fun _ vote hv => by cases hv) distinct⟩
  rw [refused]
  simp

/-- **A refused vote is overridden.** The early vote was granted, the second one was refused because the
code is taken, as a third one would be, and the commit goes through: now two rows have the code. -/
theorem refusal_overridden :
    let d := (fresh 1 default).play (takenMeanwhile true)
    ((fresh 1 default).votes (takenMeanwhile true) "a").map (·.granted) = [true, false] ∧
    (d.serve "a" .prepare).2 = some (.error (.duplicate "BBB")) ∧
    (d.serve "a" .commit).2 = some (.ok .done) ∧
    ¬ CodesDistinct (d.take (.serve "a" .commit)).store.rows := by
  refine ⟨by decide +kernel, by decide +kernel, by decide +kernel, fun distinct => ?_⟩
  have second : ((((fresh 1 default).play (takenMeanwhile true)).take (.serve "a" .commit)).store.rows.get?
      2).map (·.code) = some "BBB" := by decide +kernel
  have third : ((((fresh 1 default).play (takenMeanwhile true)).take (.serve "a" .commit)).store.rows.get?
      3).map (·.code) = some "BBB" := by decide +kernel
  obtain ⟨row, hrow, hcode⟩ := Option.map_eq_some_iff.mp second
  obtain ⟨other, hother, hcode'⟩ := Option.map_eq_some_iff.mp third
  have same : (2 : Int64) = 3 := distinct 2 3 row other hrow hother (hcode.trans hcode'.symm)
  exact absurd same (by decide)

end SymbolRelay.Desk
