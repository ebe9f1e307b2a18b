import SymbolRelay.Proofs.Store.IdSequence
import SymbolRelay.Proofs.Store.Isolation
import SymbolRelay.Proofs.Store.LostWrites

/-!
# Staged writes and writes carried out at once

A transaction stages its writes beside the committed rows. To the client that makes them it is as if each
was carried out at once on a plain sheet with one row for each id: the answers are the same, and once
the transaction is committed the rows are what is on the sheet.

```text
      sheet ──── write ────► sheet ──── write ────► sheet
        :                      :                      :
  rows and tx ── stage ──► rows and tx ── stage ──► rows and tx ── commit ──► rows
```

What a transaction sees over the committed rows is what is on the sheet (`Shows`). A symbol that it
created is not among the rows, so forgetting the creation brings nothing to light; and no code that it
writes is on the sheet under another id, so its vote is granted.

## Results

* `Shows.codeTaken_iff` — a code is taken for the transaction just if another row of the sheet holds it;
* `Shows.step`, `Shows.run` — a write is answered as on the sheet and keeps what is seen in step with it;
* `Shows.commit` — the commit is granted and leaves the rows that are on the sheet;
* `staged_writes_as_direct` — this for every store that can be reached, without reservations.
-/

set_option autoImplicit false

namespace SymbolRelay

/-- What is asked of the store for a write. -/
def Write.demand : Write → Demand
  | .create symbol => .create symbol
  | .update symbol => .update symbol
  | .delete id => .delete id

/-! ## The sheet -/

/-- A plain sheet of symbols, one for each id, with the number that the next row gets and the clock that
dates it. -/
structure Sheet where
  rows : Table Int64 Symbol
  nextId : Int64
  clock : Clock

namespace Sheet

/-- Whether a row holds a code, other than the one under the id `keep` if an id is given. -/
def holds (s : Sheet) (code : String) (keep : Option Int64) : Bool :=
  s.rows.entries.any fun e => some e.1 != keep && e.2.code == code

/-- Enters a row that is dated with the present time. -/
def enter (s : Sheet) (nextId : Int64) (row : Symbol) : Sheet × Except DataError Reply :=
  ({ rows := s.rows.insert row.id row, nextId, clock := s.clock.read.2 }, .ok (.symbol row))

/-- Carries out a write at once, if no other row holds its code and what it changes or removes is there. -/
def perform (s : Sheet) : Write → Sheet × Except DataError Reply
  | .create symbol =>
    if s.holds symbol.code none then (s, .error (.duplicate symbol.code))
    else
      s.enter (s.nextId + 1)
        { symbol with id := s.nextId, createdAt := s.clock.now, updatedAt := s.clock.now }
  | .update symbol =>
    match s.rows.get? symbol.id with
    | none => (s, .error .notFound)
    | some old =>
      if s.holds symbol.code (some symbol.id) then (s, .error (.duplicate symbol.code))
      else s.enter s.nextId { symbol with createdAt := old.createdAt, updatedAt := s.clock.now }
  | .delete id =>
    match s.rows.get? id with
    | none => (s, .error .notFound)
    | some _ => ({ s with rows := s.rows.erase id }, .ok .done)

/-- Carries out writes one after the other. -/
def performAll (s : Sheet) : List Write → Sheet × List (Except DataError Reply)
  | [] => (s, [])
  | w :: ws =>
    let (s, answer) := s.perform w
    let (s, answers) := s.performAll ws
    (s, answer :: answers)

theorem holds_iff (s : Sheet) (code : String) (keep : Option Int64) :
    s.holds code keep = true ↔
      ∃ id row, s.rows.get? id = some row ∧ some id ≠ keep ∧ row.code = code := by
  simp only [holds, List.any_eq_true, Prod.exists, Table.mem_entries_iff, Bool.and_eq_true,
    bne_iff_ne, ne_eq, beq_iff_eq]

end Sheet

/-! ## What a transaction sees -/

namespace Store

theorem isStagedInsert_iff (tx : Transaction) (id : Int64) :
    isStagedInsert tx id = true ↔ ∃ symbol, tx.staged.get? id = some (.insert symbol) := by
  unfold isStagedInsert
  split
  · rename_i symbol hstaged
    simp [hstaged]
  · rename_i hno
    exact iff_of_false Bool.false_ne_true fun ⟨symbol, hstaged⟩ => hno symbol hstaged

theorem view_staging (tx : Transaction) (id : Int64) (write : Staged) (rows : Table Int64 Symbol)
    (j : Int64) : (staging tx id write).view rows j = if j = id then write.symbol? else tx.view rows j := by
  rw [Transaction.view, staging, Table.get?_insert_eq]
  by_cases hj : j = id
  · rw [if_pos hj, if_pos hj]
  · rw [if_neg hj, if_neg hj]
    rfl

/-- After a removal nothing is seen, as long as a creation that is forgotten hid no row. -/
theorem view_removing {tx : Transaction} {id : Int64} {rows : Table Int64 Symbol}
    (created : ∀ symbol, tx.staged.get? id = some (.insert symbol) → rows.get? id = none) (j : Int64) :
    (removing tx id).view rows j = if j = id then none else tx.view rows j := by
  cases hinsert : isStagedInsert tx id with
  | true =>
    obtain ⟨symbol, hstaged⟩ := (isStagedInsert_iff tx id).mp hinsert
    rw [Transaction.view, removing, hinsert, if_pos rfl, Table.get?_erase_eq]
    by_cases hj : j = id
    · rw [if_pos hj, if_pos hj, hj]
      exact created symbol hstaged
    · rw [if_neg hj, if_neg hj]
      rfl
  | false =>
    have hstaging : removing tx id = staging tx id .delete := by
      rw [removing, hinsert]
      rfl
    rw [hstaging, view_staging]
    rfl

end Store

namespace Desk

/-- The turns in which writes are asked for under a name. -/
def stagings (name : String) (ws : List Write) : List Turn := ws.map fun w => .serve name w.demand

/-- What is answered to writes that are asked for under a name, one after the other. -/
def answers (d : Desk) (name : String) : List Write → List (Option (Except DataError Reply))
  | [] => []
  | w :: ws => (d.serve name w.demand).2 :: (d.take (.serve name w.demand)).answers name ws

/-- What the transaction that is open under a name sees is what is on a sheet, in a store that grants
every vote without a conflict and where nothing is reserved. -/
structure Shows (d : Desk) (name : String) (tx : Transaction) (s : Sheet) : Prop where
  opened : d.opened.get? name = some tx
  unreserved : d.store.reserved = Table.empty
  granting : d.store.refusing = false
  nextId : s.nextId = d.store.nextId
  clock : s.clock = d.clock
  rows : ∀ id, s.rows.get? id = tx.view d.store.rows id
  keyed : RowsKeyed d.store.rows
  /-- No symbol has the id that stands for a new one. -/
  nonzero : s.rows.get? 0 = none
  /-- What the transaction created is not among the rows. -/
  created : ∀ id symbol, tx.staged.get? id = some (.insert symbol) → d.store.rows.get? id = none
  /-- A code that the transaction writes is on the sheet once. -/
  single : ∀ id symbol j row, tx.written? id = some symbol → s.rows.get? j = some row →
    row.code = symbol.code → j = id

namespace Shows

variable {d : Desk} {name : String} {tx : Transaction} {s : Sheet} {id : Int64} {symbol new : Symbol}

theorem row_of_written (h : d.Shows name tx s) (hw : tx.written? id = some symbol) :
    s.rows.get? id = some symbol := by
  rw [h.rows, Transaction.view_of_staged (Transaction.staged_of_written hw)]
  exact hw

/-- **A code is taken just if another row of the sheet holds it.** -/
theorem codeTaken_iff (h : d.Shows name tx s) (code : String) (keep : Int64) :
    d.store.codeTaken tx code keep = true ↔
      ∃ id row, s.rows.get? id = some row ∧ id ≠ keep ∧ row.code = code := by
  rw [Store.codeTaken_iff]
  constructor
  · rintro (⟨id, row, hrow, hne, hunstaged, hcode⟩ | ⟨holder, hreserved, _⟩ | ⟨id, symbol, hw, hne, hcode⟩)
    · rw [h.keyed id row hrow] at hne hunstaged
      refine ⟨id, row, ?_, hne, hcode⟩
      rw [h.rows, Transaction.view_of_not_staged hunstaged]
      exact hrow
    · rw [h.unreserved] at hreserved
      cases hreserved
    · exact ⟨id, symbol, h.row_of_written hw, hne, hcode⟩
  · rintro ⟨id, row, hrow, hne, hcode⟩
    rw [h.rows] at hrow
    cases hstaged : tx.staged.contains id with
    | true =>
      rw [Transaction.view_of_staged hstaged] at hrow
      exact .inr (.inr ⟨id, row, hrow, hne, hcode⟩)
    | false =>
      rw [Transaction.view_of_not_staged hstaged] at hrow
      have hid : row.id = id := h.keyed id row hrow
      exact .inl ⟨id, row, hrow, by rwa [hid], by rwa [hid], hcode⟩

/-- For a symbol that is there, the store asks just what the sheet does. -/
theorem codeTaken_eq (h : d.Shows name tx s) (code : String) (id : Int64) :
    d.store.codeTaken tx code id = s.holds code (some id) := by
  rw [Bool.eq_iff_iff, h.codeTaken_iff, s.holds_iff]
  simp

/-- For a new symbol, too: nothing is under the id that the store writes for it. -/
theorem codeTaken_zero (h : d.Shows name tx s) (code : String) :
    d.store.codeTaken tx code 0 = s.holds code none := by
  rw [Bool.eq_iff_iff, h.codeTaken_iff, s.holds_iff]
  constructor
  · rintro ⟨id, row, hrow, _, hcode⟩
    exact ⟨id, row, hrow, Option.some_ne_none id, hcode⟩
  · rintro ⟨id, row, hrow, _, hcode⟩
    refine ⟨id, row, hrow, ?_, hcode⟩
    rintro rfl
    rw [h.nonzero] at hrow
    cases hrow

/-! ## Staging a write -/

/-- A symbol is staged under a code that no other row of the sheet holds, and entered on the sheet. -/
theorem stage (h : d.Shows name tx s) (new : Symbol) {write : Staged} (hw : write.symbol? = some new)
    (hid : new.id ≠ 0) (hfree : d.store.codeTaken tx new.code new.id = false)
    (hcreated : ∀ symbol, write = .insert symbol → d.store.rows.get? new.id = none)
    (nextId : Int64) :
    Shows ({ d with store := { d.store with nextId }, clock := d.clock.read.2 }.put name
      (Store.staging tx new.id write)) name (Store.staging tx new.id write) (s.enter nextId new).1 := by
  have others : ∀ j row, s.rows.get? j = some row → row.code = new.code → j = new.id := by
    intro j row hrow hcode
    refine Classical.byContradiction fun hne => ?_
    rw [(h.codeTaken_iff new.code new.id).mpr ⟨j, row, hrow, hne, hcode⟩] at hfree
    cases hfree
  refine ⟨opened_put_self _ name _, h.unreserved, h.granting, rfl, ?_, ?_, h.keyed, ?_, ?_, ?_⟩
  · show s.clock.read.2 = d.clock.read.2
    rw [h.clock]
  · intro j
    show (s.rows.insert new.id new).get? j = (Store.staging tx new.id write).view d.store.rows j
    rw [Store.view_staging, Table.get?_insert_eq, h.rows, hw]
  · show (s.rows.insert new.id new).get? 0 = none
    rw [Table.get?_insert_of_ne _ _ hid.symm]
    exact h.nonzero
  · intro j symbol hstaged
    rw [Store.staging, Table.get?_insert_eq] at hstaged
    split at hstaged
    · rename_i hj
      rw [hj]
      exact hcreated symbol (Option.some.inj hstaged)
    · exact h.created j symbol hstaged
  · intro j symbol k row hwritten hrow hcode
    change (s.rows.insert new.id new).get? k = some row at hrow
    rw [Store.written?_staging, hw] at hwritten
    rw [Table.get?_insert_eq] at hrow
    split at hwritten <;> split at hrow
    · rename_i hj hk
      rw [hj, hk]
    · rename_i hj _
      cases hwritten
      rw [hj]
      exact others k row hrow hcode
    · rename_i hj hk
      cases hrow
      rw [hk]
      exact (others j symbol (h.row_of_written hwritten) hcode.symm).symm
    · exact h.single j symbol k row hwritten hrow hcode

/-- A removal is staged, and the row taken from the sheet. -/
theorem remove (h : d.Shows name tx s) (id : Int64) :
    Shows (d.put name (Store.removing tx id)) name (Store.removing tx id)
      { s with rows := s.rows.erase id } := by
  refine ⟨opened_put_self _ name _, h.unreserved, h.granting, h.nextId, h.clock, ?_, h.keyed, ?_, ?_, ?_⟩
  · intro j
    show (s.rows.erase id).get? j = (Store.removing tx id).view d.store.rows j
    rw [Store.view_removing (h.created id), Table.get?_erase_eq, h.rows]
  · show (s.rows.erase id).get? 0 = none
    rw [Table.get?_erase_eq, h.nonzero, ite_self]
  · intro j symbol hstaged
    simp only [Store.removing] at hstaged
    split at hstaged
    · rw [Table.get?_erase_eq] at hstaged
      split at hstaged
      · cases hstaged
      · exact h.created j symbol hstaged
    · rw [Table.get?_insert_eq] at hstaged
      split at hstaged
      · cases hstaged
      · exact h.created j symbol hstaged
  · intro j symbol k row hwritten hrow hcode
    change (s.rows.erase id).get? k = some row at hrow
    rw [Store.written?_removing] at hwritten
    rw [Table.get?_erase_eq] at hrow
    split at hwritten
    · cases hwritten
    · split at hrow
      · cases hrow
      · exact h.single j symbol k row hwritten hrow hcode

/-- What an id must be like that is given to a new symbol: nobody's, and not the one that stands for a new
symbol. -/
def Unused (d : Desk) (id : Int64) : Prop := id ≠ 0 ∧ d.store.rows.get? id = none

theorem create (h : d.Shows name tx s) (symbol : Symbol)
    (fresh : s.holds symbol.code none = false → Unused d d.store.nextId) :
    (d.serve name (.create symbol)).2 = some (s.perform (.create symbol)).2 ∧
      ∃ ux, Shows (d.take (.serve name (.create symbol))) name ux (s.perform (.create symbol)).1 := by
  have htaken := h.codeTaken_zero symbol.code
  simp only [take, serve_of_ne_begin (by simp : Demand.create symbol ≠ .begin), h.opened, serveIn,
    Sheet.perform]
  cases hholds : s.holds symbol.code none with
  | true =>
    rw [hholds] at htaken
    have hstore := (Store.create_error_iff d.store tx symbol d.clock.now _).mpr ⟨htaken, rfl⟩
    simp only [hstore, if_true]
    exact ⟨trivial, tx, h⟩
  | false =>
    obtain ⟨hzero, hunused⟩ := fresh hholds
    rw [hholds] at htaken
    have hstore := (Store.create_eq_ok_iff d.store tx symbol d.clock.now _).mpr ⟨htaken, rfl⟩
    simp only [hstore, Bool.false_eq_true, if_false, h.nextId, h.clock]
    refine ⟨rfl, _, h.stage (d.store.createdOf symbol d.clock.now) rfl hzero ?_ (fun _ _ => hunused)
      (d.store.nextId + 1)⟩
    refine Bool.eq_false_iff.mpr fun hother => ?_
    obtain ⟨j, row, hrow, _, hcode⟩ := (h.codeTaken_iff _ _).mp hother
    have hother := (s.holds_iff symbol.code none).mpr ⟨j, row, hrow, Option.some_ne_none j, hcode⟩
    cases hholds.symm.trans hother

theorem update (h : d.Shows name tx s) (symbol : Symbol) :
    (d.serve name (.update symbol)).2 = some (s.perform (.update symbol)).2 ∧
      ∃ ux, Shows (d.take (.serve name (.update symbol))) name ux (s.perform (.update symbol)).1 := by
  have hview := h.rows symbol.id
  simp only [take, serve_of_ne_begin (by simp : Demand.update symbol ≠ .begin), h.opened, serveIn,
    Sheet.perform]
  cases hrow : s.rows.get? symbol.id with
  | none =>
    rw [hrow] at hview
    have hstore := (Store.update_error_notFound_iff d.store tx symbol d.clock.now).mpr hview.symm
    simp only [hstore]
    exact ⟨trivial, tx, h⟩
  | some old =>
    rw [hrow] at hview
    have htaken := h.codeTaken_eq symbol.code symbol.id
    cases hholds : s.holds symbol.code (some symbol.id) with
    | true =>
      rw [hholds] at htaken
      have hstore := (Store.update_error_duplicate_iff d.store tx symbol d.clock.now _).mpr
        ⟨⟨old, hview.symm⟩, rfl, htaken⟩
      simp only [hstore, if_true]
      exact ⟨trivial, tx, h⟩
    | false =>
      rw [hholds] at htaken
      have hstore := (Store.update_eq_ok_iff d.store tx symbol d.clock.now _).mpr
        ⟨old, hview.symm, htaken, rfl⟩
      simp only [hstore, Bool.false_eq_true, if_false, h.clock, h.nextId]
      refine ⟨rfl, _, h.stage (Store.updatedOf old symbol d.clock.now)
        (Store.symbol?_writeOf tx _) ?_ htaken ?_ d.store.nextId⟩
      · intro hid
        change symbol.id = 0 at hid
        rw [hid, h.nonzero] at hrow
        cases hrow
      · intro staged hwrite
        -- It stays a creation only if it was one.
        rw [Store.writeOf] at hwrite
        split at hwrite
        · rename_i hinsert
          obtain ⟨created, hstaged⟩ := (Store.isStagedInsert_iff tx _).mp hinsert
          exact h.created _ created hstaged
        · cases hwrite

theorem delete (h : d.Shows name tx s) (id : Int64) :
    (d.serve name (.delete id)).2 = some (s.perform (.delete id)).2 ∧
      ∃ ux, Shows (d.take (.serve name (.delete id))) name ux (s.perform (.delete id)).1 := by
  have hview := h.rows id
  simp only [take, serve_of_ne_begin (by simp : Demand.delete id ≠ .begin), h.opened, serveIn,
    Sheet.perform]
  cases hrow : s.rows.get? id with
  | none =>
    rw [hrow] at hview
    simp only [Store.delete, hview.symm]
    exact ⟨trivial, tx, h⟩
  | some old =>
    rw [hrow] at hview
    have hstore := (Store.delete_eq_ok_iff d.store tx id _).mpr ⟨⟨old, hview.symm⟩, rfl⟩
    simp only [hstore]
    exact ⟨trivial, _, h.remove id⟩

/-- The next id is unused for every creation that is granted. -/
theorem unused_of_created (h : d.Shows name tx s) {symbol : Symbol}
    (fresh : ∀ created ∈ d.created? (.serve name (.create symbol)), Unused d created.id)
    (hholds : s.holds symbol.code none = false) : Unused d d.store.nextId := by
  refine fresh (d.store.createdOf symbol d.clock.now) ?_
  have hstore := (Store.create_eq_ok_iff d.store tx symbol d.clock.now _).mpr
    ⟨(h.codeTaken_zero symbol.code).trans hholds, rfl⟩
  rw [created?_create h.opened, hstore]
  rfl

/-- **A write is answered as on the sheet, and what is seen stays in step with it.** -/
theorem step (h : d.Shows name tx s) (w : Write)
    (fresh : ∀ created ∈ d.created? (.serve name w.demand), Unused d created.id) :
    (d.serve name w.demand).2 = some (s.perform w).2 ∧
      ∃ ux, Shows (d.take (.serve name w.demand)) name ux (s.perform w).1 := by
  cases w with
  | create symbol => exact h.create symbol (h.unused_of_created fresh)
  | update symbol => exact h.update symbol
  | delete id => exact h.delete id

/-- **So it is with writes one after the other**, by induction along them. -/
theorem run (ws : List Write) (h : d.Shows name tx s)
    (fresh : ∀ before w after, ws = before ++ w :: after →
      ∀ created ∈ (d.play (stagings name before)).created? (.serve name w.demand),
        Unused (d.play (stagings name before)) created.id) :
    d.answers name ws = (s.performAll ws).2.map some ∧
      ∃ ux, Shows (d.play (stagings name ws)) name ux (s.performAll ws).1 := by
  induction ws generalizing d tx s with
  | nil => exact ⟨rfl, tx, h⟩
  | cons w ws ih =>
    obtain ⟨hanswer, ux, hnext⟩ := h.step w (fresh [] w ws rfl)
    obtain ⟨hanswers, vx, hlast⟩ := ih hnext fun before v after hws => by
      rw [hws] at fresh
      exact fresh (w :: before) v after rfl
    refine ⟨?_, vx, hlast⟩
    rw [answers, hanswer, hanswers]
    rfl

/-! ## The commit -/

theorem conflict_eq_none (h : d.Shows name tx s) : d.store.conflict tx = none := by
  rw [Store.conflict_eq_none_iff]
  intro id symbol hw
  refine Bool.eq_false_iff.mpr fun htaken => ?_
  obtain ⟨j, row, hrow, hne, hcode⟩ := (h.codeTaken_iff symbol.code id).mp htaken
  exact hne (h.single id symbol j row hw hrow hcode)

/-- Once the transaction may be committed, its commit leaves the rows that are on the sheet. -/
theorem committed (h : d.Shows name tx s) {e : Desk} {ux : Transaction} {store : Store}
    (opened : e.opened.get? name = some ux) (commit : e.store.commit ux = .ok store)
    (rows : e.store.rows = d.store.rows) (staged : ux.staged = tx.staged) :
    (e.serve name .commit).2 = some (.ok .done) ∧ (e.serve name .commit).1.store.rows = s.rows := by
  have hdone := (serve_commit_done_iff opened).mpr ⟨store, commit⟩
  refine ⟨hdone, Table.ext fun id => ?_⟩
  rw [row_of_committed opened hdone, h.rows, Transaction.view, staged, rows]
  rfl

/-- The vote is granted, and the commit leaves the rows that are on the sheet, with or without it. -/
theorem commit (h : d.Shows name tx s) :
    (d.serve name .prepare).2 = some (.ok .done) ∧
    ∀ e ∈ [d, d.take (.serve name .prepare)],
      (e.serve name .commit).2 = some (.ok .done) ∧ (e.serve name .commit).1.store.rows = s.rows := by
  have hvote := (Store.prepare_eq_ok_iff d.store tx _).mpr ⟨h.granting, h.conflict_eq_none, rfl⟩
  refine ⟨(serve_prepare_done_iff h.opened).mpr ⟨_, hvote⟩, fun e he => ?_⟩
  simp only [List.mem_cons, List.not_mem_nil, or_false] at he
  rcases he with rfl | rfl
  · cases hp : tx.prepared with
    | true =>
      exact h.committed h.opened ((Store.commit_eq_ok_iff _ _ _).mpr (.inl ⟨hp, rfl⟩)) rfl rfl
    | false =>
      have hcommit := (Store.commit_eq_ok_iff e.store tx _).mpr
        (.inr ⟨hp, h.granting, h.conflict_eq_none, rfl⟩)
      exact h.committed h.opened hcommit rfl rfl
  · have hopened : (d.take (.serve name .prepare)).opened.get? name = some { tx with prepared := true } := by
      simp only [take, serve_of_ne_begin (by decide : Demand.prepare ≠ .begin), h.opened, serveIn, hvote]
      exact opened_put_self _ _ _
    exact h.committed hopened ((Store.commit_eq_ok_iff _ _ _).mpr (.inl ⟨rfl, rfl⟩))
      (rows_serve_of_ne_commit (by decide)) rfl

/-- A transaction that has staged nothing sees the committed rows. -/
theorem of_blank (opened : d.opened.get? name = some tx) (blank : tx.staged = Table.empty)
    (unreserved : d.store.reserved = Table.empty) (granting : d.store.refusing = false)
    (keyed : RowsKeyed d.store.rows) (nonzero : d.store.rows.get? 0 = none) :
    d.Shows name tx ⟨d.store.rows, d.store.nextId, d.clock⟩ where
  opened := opened
  unreserved := unreserved
  granting := granting
  nextId := rfl
  clock := rfl
  rows := fun id => by
    rw [Transaction.view, blank]
    rfl
  keyed := keyed
  nonzero := nonzero
  created := fun id symbol hstaged => by
    rw [blank] at hstaged
    cases hstaged
  single := fun id symbol j row hw => by
    rw [Transaction.written?, blank] at hw
    cases hw

end Shows

/-! ## Stores that can be reached -/

variable {nextId : Int64} {clock : Clock} {turns : List Turn} {name : String} {tx : Transaction}

/-- **Staged writes are answered as if they were carried out at once, and committed as such.** In every
store that can be reached, as long as nothing is reserved, commits are not refused and the sequence of
ids does not pass its greatest number, any writes of a transaction that has staged nothing yet get the
answers of a plain sheet with the committed rows; its vote is granted, and its commit, with or without
a vote before it, leaves just the rows that are then on the sheet. -/
theorem staged_writes_as_direct (ws : List Write)
    (opened : ((fresh nextId clock).play turns).opened.get? name = some tx)
    (blank : tx.staged = Table.empty)
    (unreserved : ((fresh nextId clock).play turns).store.reserved = Table.empty)
    (granting : ((fresh nextId clock).play turns).store.refusing = false)
    (few : (fresh nextId clock).store.nextId.toInt +
      ((fresh nextId clock).creations (turns ++ stagings name ws)).length ≤ 2 ^ 63) :
    let d := (fresh nextId clock).play turns
    let sheet : Sheet := ⟨d.store.rows, d.store.nextId, d.clock⟩
    let last := d.play (stagings name ws)
    d.answers name ws = (sheet.performAll ws).2.map some ∧
    (last.serve name .prepare).2 = some (.ok .done) ∧
    ∀ e ∈ [last, last.take (.serve name .prepare)],
      (e.serve name .commit).2 = some (.ok .done) ∧
        (e.serve name .commit).1.store.rows = (sheet.performAll ws).1.rows := by
  intro d sheet last
  have few' : (fresh nextId clock).store.nextId.toInt + ((fresh nextId clock).creations turns).length ≤
      2 ^ 63 := by
    rw [creations_append, List.length_append] at few
    omega
  have keyed : RowsKeyed d.store.rows := fun id row hrow =>
    ((numbered_play nextId clock turns).dated id row (.inl hrow)).1
  have nonzero : d.store.rows.get? 0 = none := by
    cases hrow : d.store.rows.get? 0 with
    | none => rfl
    | some row => exact absurd (stored_pos few' hrow) Int64.lt_irrefl
  have shows : d.Shows name tx sheet := .of_blank opened blank unreserved granting keyed nonzero
  obtain ⟨hanswers, ux, hlast⟩ := shows.run ws fun before w after hws created hcreated => by
    have hsplit : turns ++ stagings name ws =
        (turns ++ stagings name before) ++ .serve name w.demand :: stagings name after := by
      rw [hws, stagings, List.map_append, List.append_assoc]
      rfl
    have hplay : d.play (stagings name before) =
        (fresh nextId clock).play (turns ++ stagings name before) :=
      (List.foldl_append ..).symm
    rw [hplay] at hcreated ⊢
    have hgrows := (idsGrow_iff nextId clock _).mpr few _ _ _ hsplit created hcreated
    refine ⟨(Int64.ne_of_lt hgrows.positive).symm, ?_⟩
    rw [← Table.contains_eq_false_iff, ← Bool.not_eq_true]
    exact fun hrow => hgrows.unused (.inl hrow)
  exact ⟨hanswers, hlast.commit⟩

/-- Two symbols are stored, and a client that has changed one of them holds its transaction open. -/
def twoStored : List Turn :=
  let symbol := fun id name code => (⟨id, name, code, "", .epoch, .epoch⟩ : Symbol)
  [.serve "seed" .begin, .serve "seed" (.create (symbol 0 "Bitcoin" "BTC")),
    .serve "seed" (.create (symbol 0 "Ether" "ETH")), .serve "seed" .commit,
    .serve "other" .begin, .serve "other" (.update (symbol 1 "Bit" "BIT")), .serve "a" .begin]

/-- The symbols exchange their codes by way of a third one. In between a symbol is created, changed and
forgotten again, under a code that then goes to another; two writes are refused. -/
def exchange : List Write :=
  let symbol := fun id name code => (⟨id, name, code, "", .epoch, .epoch⟩ : Symbol)
  [.update (symbol 1 "Bitcoin" "ETH"), .update (symbol 1 "Bitcoin" "TMP"),
    .update (symbol 2 "Ether" "BTC"), .update (symbol 1 "Bitcoin" "ETH"),
    .create (symbol 0 "Doge" "TMP"), .update (symbol 3 "Doge" "DOGE"), .delete 3, .delete 3,
    .create (symbol 0 "Dogecoin" "DOGE")]

theorem exchange_answered :
    let d := (fresh 1 default).play twoStored
    let sheet : Sheet := ⟨d.store.rows, d.store.nextId, d.clock⟩
    let last := d.play (stagings "a" exchange)
    d.answers "a" exchange = (sheet.performAll exchange).2.map some ∧
      (sheet.performAll exchange).2.map (fun answer => answer.toOption.isSome) =
        [false, true, true, true, true, true, true, false, true] ∧
      (last.serve "a" .commit).2 = some (.ok .done) ∧
      (last.serve "a" .commit).1.store.rows.values.map (·.code) = ["ETH", "BTC", "DOGE"] := by
  intro d sheet last
  have opened : d.opened.get? "a" = some { id := 3 } := by decide +kernel
  have few : (fresh 1 default).store.nextId.toInt +
      ((fresh 1 default).creations (twoStored ++ stagings "a" exchange)).length ≤ 2 ^ 63 := by
    decide +kernel
  obtain ⟨hanswers, _, hcommits⟩ :=
    staged_writes_as_direct exchange opened rfl (by decide +kernel) (by decide +kernel) few
  obtain ⟨hdone, hrows⟩ := hcommits last List.mem_cons_self
  refine ⟨hanswers, by decide +kernel, hdone, ?_⟩
  rw [hrows]
  decide +kernel

end Desk

end SymbolRelay
