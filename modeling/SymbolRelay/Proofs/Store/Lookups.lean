import SymbolRelay.Store.Basic

/-!
# The store by its look-ups

What each operation of the store does, said through look-ups in its tables instead of through lists of
entries. All further facts about the store start from these.

## Results

* `get?_applyWrites` — after a commit a row is what was staged for it, else what it was before;
* `reserve_get?` — which codes a vote reserves;
* `codeTaken_iff` — the three ways in which a code is taken;
* `prepare_eq_ok_iff`, `commit_eq_ok_iff` — when a transaction is voted for and when it is committed;
* `prepare_error_duplicate_iff`, `update_error_duplicate_iff` — when it is refused for a code;
* `create_eq_ok_iff`, `update_eq_ok_iff`, `delete_eq_ok_iff` — when a write is staged, and what of it.
-/

set_option autoImplicit false

namespace SymbolRelay

namespace Table

variable {κ β : Type} [Ord κ]

theorem contains_iff (t : Table κ β) (k : κ) : t.contains k = true ↔ ∃ v, t.get? k = some v :=
  Option.isSome_iff_exists

theorem contains_eq_false_iff (t : Table κ β) (k : κ) :
    t.contains k = false ↔ t.get? k = none := by
  simp [contains]

variable [Std.TransOrd κ] [Std.LawfulEqOrd κ]

theorem get?_insert_eq [DecidableEq κ] (t : Table κ β) (k j : κ) (v : β) :
    (t.insert k v).get? j = if j = k then some v else t.get? j := by
  by_cases h : j = k
  · subst h; simp
  · rw [get?_insert_of_ne t v h, if_neg h]

theorem get?_erase_eq [DecidableEq κ] (t : Table κ β) (k j : κ) :
    (t.erase k).get? j = if j = k then none else t.get? j := by
  by_cases h : j = k
  · subst h; simp
  · rw [get?_erase_of_ne t h, if_neg h]

theorem get?_foldl_insert [DecidableEq κ] (ks : List κ) (v : β) (t : Table κ β) (k : κ) :
    (ks.foldl (fun t j => t.insert j v) t).get? k = if k ∈ ks then some v else t.get? k := by
  induction ks generalizing t with
  | nil => simp
  | cons j ks ih =>
    rw [List.foldl_cons, ih, get?_insert_eq]
    by_cases hk : k ∈ ks <;> by_cases hj : k = j <;> simp [hk, hj]

end Table

/-! ## What a transaction writes -/

namespace Transaction

/-- The symbol that a transaction writes under an id, if it writes one there. -/
def written? (tx : Transaction) (id : Int64) : Option Symbol :=
  (tx.staged.get? id).bind Staged.symbol?

theorem written?_eq_some_iff {tx : Transaction} {id : Int64} {symbol : Symbol} :
    tx.written? id = some symbol ↔
      ∃ write, tx.staged.get? id = some write ∧ write.symbol? = some symbol := by
  simp [written?, Option.bind_eq_some_iff]

/-- Whether a transaction writes a code to some symbol. -/
def Writes (tx : Transaction) (code : String) : Prop :=
  ∃ id symbol, tx.written? id = some symbol ∧ symbol.code = code

theorem mem_codes_iff {tx : Transaction} {id : Int64} {code : String} :
    (id, code) ∈ tx.codes ↔ ∃ symbol, tx.written? id = some symbol ∧ symbol.code = code := by
  simp only [codes, List.mem_filterMap, Option.map_eq_some_iff, Prod.mk.injEq, Prod.exists,
    Table.mem_entries_iff, written?_eq_some_iff]
  constructor
  · rintro ⟨k, write, hw, symbol, hs, rfl, rfl⟩
    exact ⟨symbol, ⟨write, hw, hs⟩, rfl⟩
  · rintro ⟨symbol, ⟨write, hw, hs⟩, rfl⟩
    exact ⟨id, write, hw, symbol, hs, rfl, rfl⟩

theorem view_of_staged {tx : Transaction} {id : Int64} (h : tx.staged.contains id = true)
    (rows : Table Int64 Symbol) : tx.view rows id = tx.written? id := by
  obtain ⟨write, hw⟩ := (Table.contains_iff _ _).mp h
  simp [view, written?, hw]

theorem view_of_not_staged {tx : Transaction} {id : Int64} (h : tx.staged.contains id = false)
    (rows : Table Int64 Symbol) : tx.view rows id = rows.get? id := by
  simp [view, (Table.contains_eq_false_iff _ _).mp h]

theorem staged_of_written {tx : Transaction} {id : Int64} {symbol : Symbol}
    (h : tx.written? id = some symbol) : tx.staged.contains id = true := by
  obtain ⟨write, hw, _⟩ := written?_eq_some_iff.mp h
  exact (Table.contains_iff _ _).mpr ⟨write, hw⟩

end Transaction

namespace Store

/-! ## Committing -/

theorem get?_applyWrite (rows : Table Int64 Symbol) (id : Int64) (write : Staged) (j : Int64) :
    (applyWrite rows id write).get? j = if j = id then write.symbol? else rows.get? j := by
  cases write with
  | insert symbol => exact Table.get?_insert_eq rows id j symbol
  | update symbol => exact Table.get?_insert_eq rows id j symbol
  | delete => exact Table.get?_erase_eq rows id j

theorem get?_foldl_applyWrite (es : List (Int64 × Staged))
    (ascending : es.Pairwise fun a b => compare a.1 b.1 = .lt) (rows : Table Int64 Symbol)
    (id : Int64) :
    (es.foldl (fun rows e => applyWrite rows e.1 e.2) rows).get? id =
      match Table.lookupIn id es with
      | some write => write.symbol?
      | none => rows.get? id := by
  induction es generalizing rows with
  | nil => rfl
  | cons e es ih =>
    obtain ⟨k, write⟩ := e
    obtain ⟨hfirst, hrest⟩ := List.pairwise_cons.mp ascending
    rw [List.foldl_cons, ih hrest]
    by_cases hk : compare id k = .eq
    · have hid : id = k := Std.LawfulEqCmp.eq_of_compare hk
      subst hid
      simp [Table.lookupIn, Table.lookupIn_eq_none_of_lt hfirst, get?_applyWrite]
    · have hid : id ≠ k := fun h => hk (h ▸ Table.compare_self k)
      simp only [Table.lookupIn, if_neg hk, get?_applyWrite, if_neg hid]

/-- After a commit a row is what was staged for it, else what it was before. -/
theorem get?_applyWrites (rows : Table Int64 Symbol) (tx : Transaction) (id : Int64) :
    (applyWrites rows tx.staged).get? id = tx.view rows id := by
  rw [applyWrites, get?_foldl_applyWrite _ tx.staged.ascending]
  rfl

/-! ## Reservations -/

theorem reserve_get? (s : Store) (tx : Nat) (codes : List String) (code : String) :
    (s.reserve tx codes).reserved.get? code =
      if code ∈ codes then some tx else s.reserved.get? code :=
  Table.get?_foldl_insert codes tx s.reserved code

theorem release_get?_eq_some_iff (s : Store) (tx : Nat) (code : String) (holder : Nat) :
    (s.release tx).reserved.get? code = some holder ↔
      s.reserved.get? code = some holder ∧ holder ≠ tx := by
  rw [release_get?, Option.filter_eq_some_iff]
  simp

/-! ## Codes that are taken -/

theorem committedHolds_iff (s : Store) (tx : Transaction) (code : String) (keep : Int64) :
    s.committedHolds tx code keep = true ↔
      ∃ id row, s.rows.get? id = some row ∧ row.id ≠ keep ∧
        tx.staged.contains row.id = false ∧ row.code = code := by
  simp only [committedHolds, List.any_eq_true, Prod.exists, Table.mem_entries_iff, Bool.and_eq_true,
    bne_iff_ne, ne_eq, Bool.not_eq_true', beq_iff_eq, and_assoc]

theorem reservedByOther_iff (s : Store) (tx : Transaction) (code : String) :
    s.reservedByOther tx code = true ↔ ∃ holder, s.reserved.get? code = some holder ∧
      holder ≠ tx.id := by
  unfold reservedByOther
  split <;> simp_all

theorem stagedHolds_iff (tx : Transaction) (code : String) (keep : Int64) :
    stagedHolds tx code keep = true ↔
      ∃ id symbol, tx.written? id = some symbol ∧ id ≠ keep ∧ symbol.code = code := by
  simp only [stagedHolds, List.any_eq_true, Prod.exists, Transaction.mem_codes_iff, Bool.and_eq_true,
    bne_iff_ne, ne_eq, beq_iff_eq]
  constructor
  · rintro ⟨id, c, ⟨symbol, hs, rfl⟩, hid, rfl⟩
    exact ⟨id, symbol, hs, hid, rfl⟩
  · rintro ⟨id, symbol, hs, hid, rfl⟩
    exact ⟨id, symbol.code, ⟨symbol, hs, rfl⟩, hid, rfl⟩

/-- A code is taken by a committed row that the transaction does not write, by another transaction's
reservation, or by another symbol that the transaction writes. -/
theorem codeTaken_iff (s : Store) (tx : Transaction) (code : String) (keep : Int64) :
    s.codeTaken tx code keep = true ↔
      (∃ id row, s.rows.get? id = some row ∧ row.id ≠ keep ∧ tx.staged.contains row.id = false ∧
        row.code = code) ∨
      (∃ holder, s.reserved.get? code = some holder ∧ holder ≠ tx.id) ∨
      (∃ id symbol, tx.written? id = some symbol ∧ id ≠ keep ∧ symbol.code = code) := by
  rw [codeTaken, Bool.or_eq_true, Bool.or_eq_true, committedHolds_iff, reservedByOther_iff,
    stagedHolds_iff, or_assoc]

/-! ## Votes -/

theorem conflict_eq_none_iff (s : Store) (tx : Transaction) :
    s.conflict tx = none ↔
      ∀ id symbol, tx.written? id = some symbol → s.codeTaken tx symbol.code id = false := by
  simp only [conflict, Option.map_eq_none_iff, List.find?_eq_none, Bool.not_eq_true, Prod.forall,
    Transaction.mem_codes_iff]
  constructor
  · intro h id symbol hs
    exact h id symbol.code ⟨symbol, hs, rfl⟩
  · rintro h id _ ⟨symbol, hs, rfl⟩
    exact h id symbol hs

/-- A conflict is a code that the transaction writes and may not. -/
theorem exists_written_of_conflict {s : Store} {tx : Transaction} {code : String}
    (h : s.conflict tx = some code) :
    ∃ id symbol, tx.written? id = some symbol ∧ symbol.code = code ∧ s.codeTaken tx code id = true := by
  obtain ⟨e, hfind, rfl⟩ := Option.map_eq_some_iff.mp h
  obtain ⟨symbol, hw, hcode⟩ := Transaction.mem_codes_iff.mp (List.mem_of_find?_eq_some hfind)
  exact ⟨e.1, symbol, hw, hcode, by simpa using List.find?_some hfind⟩

/-- The store once it has voted for a transaction. -/
def voted (s : Store) (tx : Transaction) : Store :=
  (s.release tx.id).reserve tx.id (tx.codes.map (·.2))

theorem prepare_eq_ok_iff (s : Store) (tx : Transaction) (after : Transaction × Store) :
    s.prepare tx = .ok after ↔
      s.refusing = false ∧ s.conflict tx = none ∧
        after = ({ tx with prepared := true }, s.voted tx) := by
  unfold prepare
  split
  · rename_i h
    simp [h]
  · rename_i h
    rw [Bool.not_eq_true] at h
    split
    · rename_i code hc
      simp [hc]
    · rename_i hc
      simp only [Except.ok.injEq, h, hc, true_and]
      exact eq_comm

theorem prepare_error_duplicate_iff (s : Store) (tx : Transaction) (code : String) :
    s.prepare tx = .error (.duplicate code) ↔ s.refusing = false ∧ s.conflict tx = some code := by
  unfold prepare
  split
  · rename_i h
    simp [h]
  · rename_i h
    rw [Bool.not_eq_true] at h
    split <;> simp_all

theorem voted_get?_eq_some_iff (s : Store) (tx : Transaction) (code : String) (holder : Nat) :
    (s.voted tx).reserved.get? code = some holder ↔
      (tx.Writes code ∧ holder = tx.id) ∨
      (¬ tx.Writes code ∧ s.reserved.get? code = some holder ∧ holder ≠ tx.id) := by
  have hmem : code ∈ tx.codes.map (·.2) ↔ tx.Writes code := by
    simp [Transaction.mem_codes_iff, Transaction.Writes]
  rw [voted, reserve_get?]
  split
  · rename_i h
    simp [hmem.mp h, eq_comm]
  · rename_i h
    simp [mt hmem.mpr h, release_get?_eq_some_iff]

theorem commit_eq_ok_iff (s : Store) (tx : Transaction) (after : Store) :
    s.commit tx = .ok after ↔
      (tx.prepared = true ∧ after = s.apply tx) ∨
      (tx.prepared = false ∧ s.refusing = false ∧ s.conflict tx = none ∧
        after = (s.voted tx).apply { tx with prepared := true }) := by
  unfold commit
  split
  · rename_i hp
    simp only [Except.ok.injEq, hp, true_and, Bool.true_eq_false, false_and, or_false]
    exact eq_comm
  · rename_i hp
    rw [Bool.not_eq_true] at hp
    cases hr : s.prepare tx with
    | error e =>
      have hno : ¬ (s.refusing = false ∧ s.conflict tx = none) := by
        rintro ⟨href, hc⟩
        rw [(prepare_eq_ok_iff s tx _).mpr ⟨href, hc, rfl⟩] at hr
        cases hr
      simp only [Except.map, reduceCtorEq, hp, false_and, true_and, false_or, false_iff]
      rintro ⟨href, hc, -⟩
      exact hno ⟨href, hc⟩
    | ok r =>
      obtain ⟨href, hc, rfl⟩ := (prepare_eq_ok_iff s tx r).mp hr
      simp only [Except.map, Except.ok.injEq, hp, href, hc, true_and, Bool.false_eq_true, false_and,
        false_or]
      exact eq_comm

/-! ## Staging -/

/-- The symbol that a creation stages. -/
def createdOf (s : Store) (symbol : Symbol) (now : Time) : Symbol :=
  { symbol with id := s.nextId, createdAt := now, updatedAt := now }

/-- The symbol that a change stages over the one that was there. -/
def updatedOf (existing symbol : Symbol) (now : Time) : Symbol :=
  { symbol with createdAt := existing.createdAt, updatedAt := now }

/-- The write that a change of a symbol stages. -/
def writeOf (tx : Transaction) (updated : Symbol) : Staged :=
  if isStagedInsert tx updated.id then .insert updated else .update updated

theorem symbol?_writeOf (tx : Transaction) (updated : Symbol) :
    (writeOf tx updated).symbol? = some updated := by
  unfold writeOf
  split <;> rfl

/-- The transaction with one more staged write. -/
def staging (tx : Transaction) (id : Int64) (write : Staged) : Transaction :=
  { tx with staged := tx.staged.insert id write }

theorem written?_staging (tx : Transaction) (id : Int64) (write : Staged) (j : Int64) :
    (staging tx id write).written? j = if j = id then write.symbol? else tx.written? j := by
  simp only [Transaction.written?, staging, Table.get?_insert_eq]
  split <;> rfl

/-- The transaction once it has staged a removal. -/
def removing (tx : Transaction) (id : Int64) : Transaction :=
  { tx with
    staged := if isStagedInsert tx id then tx.staged.erase id else tx.staged.insert id .delete }

theorem written?_removing (tx : Transaction) (id j : Int64) :
    (removing tx id).written? j = if j = id then none else tx.written? j := by
  simp only [Transaction.written?, removing]
  split
  · rw [Table.get?_erase_eq]
    split <;> rfl
  · rw [Table.get?_insert_eq]
    split <;> rfl

theorem create_eq_ok_iff (s : Store) (tx : Transaction) (symbol : Symbol) (now : Time)
    (after : Symbol × Transaction × Store) :
    s.create tx symbol now = .ok after ↔
      s.codeTaken tx symbol.code 0 = false ∧
        after = (s.createdOf symbol now,
          staging tx s.nextId (.insert (s.createdOf symbol now)),
          { s with nextId := s.nextId + 1 }) := by
  unfold create
  split
  · rename_i h
    simp [h]
  · rename_i h
    rw [Bool.not_eq_true] at h
    simp only [Except.ok.injEq, h, true_and]
    exact eq_comm

theorem update_eq_ok_iff (s : Store) (tx : Transaction) (symbol : Symbol) (now : Time)
    (after : Symbol × Transaction) :
    s.update tx symbol now = .ok after ↔
      ∃ existing, tx.view s.rows symbol.id = some existing ∧
        s.codeTaken tx symbol.code symbol.id = false ∧
        after = (updatedOf existing symbol now,
          staging tx symbol.id (writeOf tx (updatedOf existing symbol now))) := by
  unfold update
  split
  · rename_i h
    simp [h]
  · rename_i existing h
    split
    · rename_i ht
      simp [h, ht]
    · rename_i ht
      rw [Bool.not_eq_true] at ht
      simp only [Except.ok.injEq, h, ht, Option.some.injEq, true_and, exists_eq_left']
      exact eq_comm

theorem update_error_duplicate_iff (s : Store) (tx : Transaction) (symbol : Symbol) (now : Time)
    (code : String) :
    s.update tx symbol now = .error (.duplicate code) ↔
      (∃ existing, tx.view s.rows symbol.id = some existing) ∧ code = symbol.code ∧
        s.codeTaken tx code symbol.id = true := by
  unfold update
  split
  · rename_i h
    simp [h]
  · rename_i existing h
    simp only [h, Option.some.injEq, exists_eq', true_and]
    split
    · rename_i ht
      simp only [Except.error.injEq, DataError.duplicate.injEq]
      exact ⟨fun heq => ⟨heq.symm, heq ▸ ht⟩, fun heq => heq.1.symm⟩
    · rename_i ht
      simp only [reduceCtorEq, false_iff]
      rintro ⟨rfl, ht'⟩
      exact ht ht'

theorem delete_eq_ok_iff (s : Store) (tx : Transaction) (id : Int64) (after : Transaction) :
    s.delete tx id = .ok after ↔
      (∃ existing, tx.view s.rows id = some existing) ∧ after = removing tx id := by
  unfold delete
  split
  · rename_i h
    simp [h]
  · rename_i existing h
    simp only [Except.ok.injEq, h, Option.some.injEq, exists_eq', true_and]
    exact eq_comm

end Store

end SymbolRelay
