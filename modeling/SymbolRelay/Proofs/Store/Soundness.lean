import SymbolRelay.Proofs.Store.Lookups

/-!
# What holds of a store and its open transactions

The open transactions of a store are a family: each is known under a key of whoever holds it. The
invariant ties the committed rows, the reservations and what every voted transaction writes together:
a code that is reserved sits, among the committed rows, only on rows that its holder writes itself.
That is why a vote may skip those rows, and why no commit of another transaction can undo it.

## Results

* `backs_voted` — a vote gives a transaction all that it needs to commit;
* `Backs.voted_other`, `Backs.apply_other`, `Backs.release_other` — no other transaction takes it away;
* `Sound.begin`, `Sound.stage`, `Sound.prepare`, `Sound.apply`, `Sound.commit`, `Sound.rollback`,
  `Sound.forget` — each step of a transaction keeps the invariant.
-/

set_option autoImplicit false

namespace SymbolRelay

/-- No two rows have the same code. -/
def CodesDistinct (rows : Table Int64 Symbol) : Prop :=
  ∀ i j row other, rows.get? i = some row → rows.get? j = some other → row.code = other.code → i = j

/-- Every row is stored under its own id. -/
def RowsKeyed (rows : Table Int64 Symbol) : Prop := ∀ id row, rows.get? id = some row → row.id = id

/-! ## Families of transactions -/

variable {ι : Type}

/-- One family of transactions is another but for what is under one key. -/
structure Replaces (before after : ι → Option Transaction) (i : ι) (now : Option Transaction) :
    Prop where
  here : after i = now
  elsewhere : ∀ j, j ≠ i → after j = before j

namespace Replaces

variable {before after later : ι → Option Transaction} {i : ι} {now then_ : Option Transaction}

theorem exists_replaces (before : ι → Option Transaction) (i : ι) (now : Option Transaction) :
    ∃ after, Replaces before after i now := by
  classical
  exact ⟨fun j => if j = i then now else before j, if_pos rfl, fun j hj => if_neg hj⟩

theorem again (h : Replaces before after i now) (h' : Replaces before later i then_) :
    Replaces after later i then_ :=
  ⟨h'.here, fun j hj => (h'.elsewhere j hj).trans (h.elsewhere j hj).symm⟩

/-- Nothing changed if what is under the key was there before. -/
theorem eq_of_same (h : Replaces before after i now) (hi : before i = now) : after = before := by
  funext j
  by_cases hj : j = i
  · subst hj
    exact h.here.trans hi.symm
  · exact h.elsewhere j hj

/-- What is in the changed family is new or was there before under another key. -/
theorem cases (h : Replaces before after i now) {j : ι} {tx : Transaction} (ht : after j = some tx) :
    (j = i ∧ now = some tx) ∨ (j ≠ i ∧ before j = some tx) := by
  by_cases hj : j = i
  · subst hj
    exact .inl ⟨rfl, h.here ▸ ht⟩
  · exact .inr ⟨hj, h.elsewhere j hj ▸ ht⟩

end Replaces

namespace Store

/-! ## What a vote gives -/

/-- What a store holds ready for a transaction that it has voted for. -/
structure Backs (s : Store) (tx : Transaction) : Prop where
  /-- Every code that the transaction writes is reserved for it. -/
  reserves : ∀ code, tx.Writes code → s.reserved.get? code = some tx.id
  /-- It writes no code to two symbols. -/
  injective : ∀ i j symbol other, tx.written? i = some symbol → tx.written? j = some other →
    symbol.code = other.code → i = j
  /-- A committed row that has one of its codes is among the rows that it writes. -/
  covers : ∀ id row, s.rows.get? id = some row → tx.Writes row.code → tx.staged.contains id = true

variable {s : Store} {tx ux : Transaction}

theorem not_taken_of_conflict_eq_none (hc : s.conflict tx = none) {id : Int64} {symbol : Symbol}
    (h : tx.written? id = some symbol) :
    (∀ j row, s.rows.get? j = some row → row.id ≠ id → row.code = symbol.code →
      tx.staged.contains row.id = true) ∧
    (∀ holder, s.reserved.get? symbol.code = some holder → holder = tx.id) ∧
    (∀ j other, tx.written? j = some other → other.code = symbol.code → j = id) := by
  have hfree := (conflict_eq_none_iff s tx).mp hc id symbol h
  have hno := mt (codeTaken_iff s tx symbol.code id).mpr (by rw [hfree]; simp)
  rw [not_or, not_or] at hno
  obtain ⟨h₁, h₂, h₃⟩ := hno
  refine ⟨?_, ?_, ?_⟩
  · intro j row hrow hid hcode
    refine Classical.byContradiction fun hst => ?_
    exact h₁ ⟨j, row, hrow, hid, by simpa using hst, hcode⟩
  · intro holder hr
    exact Classical.byContradiction fun hne => h₂ ⟨holder, hr, hne⟩
  · intro j other hw hcode
    exact Classical.byContradiction fun hne => h₃ ⟨j, other, hw, hne, hcode⟩

/-- A vote gives a transaction all that it needs to commit. -/
theorem backs_voted (keyed : RowsKeyed s.rows) (hc : s.conflict tx = none) :
    (s.voted tx).Backs { tx with prepared := true } where
  reserves code hw := (voted_get?_eq_some_iff s tx code tx.id).mpr (.inl ⟨hw, rfl⟩)
  injective i j symbol other hi hj hcode :=
    (not_taken_of_conflict_eq_none hc hj).2.2 i symbol hi hcode
  covers id row hrow hw := by
    obtain ⟨k, symbol, hk, hcode⟩ := hw
    have hid : row.id = id := keyed id row hrow
    by_cases hkid : row.id = k
    · rw [← hid, hkid]
      exact Transaction.staged_of_written hk
    · rw [← hid]
      exact (not_taken_of_conflict_eq_none hc hk).1 id row hrow hkid hcode.symm

/-- A vote for another transaction leaves what was held ready. -/
theorem Backs.voted_other (h : s.Backs ux) (hc : s.conflict tx = none) (hne : ux.id ≠ tx.id) :
    (s.voted tx).Backs ux where
  reserves code hw := by
    have hr := h.reserves code hw
    refine (voted_get?_eq_some_iff s tx code ux.id).mpr (.inr ⟨?_, hr, hne⟩)
    rintro ⟨id, symbol, hs, rfl⟩
    exact hne ((not_taken_of_conflict_eq_none hc hs).2.1 ux.id hr)
  injective := h.injective
  covers := h.covers

/-- Giving back the codes of another transaction leaves what was held ready. -/
theorem Backs.release_other (h : s.Backs ux) (hne : ux.id ≠ tx.id) : (s.release tx.id).Backs ux where
  reserves code hw := (release_get?_eq_some_iff s tx.id code ux.id).mpr ⟨h.reserves code hw, hne⟩
  injective := h.injective
  covers := h.covers

/-- A code has one holder, so two voted transactions write no code in common. -/
theorem Backs.not_writes_both (ht : s.Backs tx) (hu : s.Backs ux) (hne : tx.id ≠ ux.id)
    {code : String} (hw : tx.Writes code) : ¬ ux.Writes code := by
  intro hu'
  have := (ht.reserves code hw).symm.trans (hu.reserves code hu')
  exact hne (Option.some.inj this)

/-- The commit of another voted transaction leaves what was held ready: the codes that it brings in are
its own. -/
theorem Backs.apply_other (h : s.Backs ux) (ht : s.Backs tx) (hne : ux.id ≠ tx.id) :
    (s.apply tx).Backs ux where
  reserves code hw := (release_get?_eq_some_iff s tx.id code ux.id).mpr ⟨h.reserves code hw, hne⟩
  injective := h.injective
  covers id row hrow hw := by
    have hview : tx.view s.rows id = some row := (get?_applyWrites s.rows tx id).symm.trans hrow
    cases hst : tx.staged.contains id with
    | true =>
      rw [Transaction.view_of_staged hst] at hview
      exact absurd hw (ht.not_writes_both h hne.symm ⟨id, row, hview, rfl⟩)
    | false =>
      rw [Transaction.view_of_not_staged hst] at hview
      exact h.covers id row hview hw

/-- After its commit the rows of a voted transaction still have distinct codes. -/
theorem Backs.codesDistinct_apply (h : s.Backs tx) (distinct : CodesDistinct s.rows) :
    CodesDistinct (s.apply tx).rows := by
  intro i j row other hi hj hcode
  have hi : tx.view s.rows i = some row := (get?_applyWrites s.rows tx i).symm.trans hi
  have hj : tx.view s.rows j = some other := (get?_applyWrites s.rows tx j).symm.trans hj
  -- A kept row whose code the transaction writes would be among the rows that it writes.
  have clash : ∀ k l kept new, tx.staged.contains k = false → s.rows.get? k = some kept →
      tx.written? l = some new → kept.code ≠ new.code := by
    intro k l kept new hk hkept hnew hcode
    have hst := h.covers k kept hkept ⟨l, new, hnew, hcode.symm⟩
    rw [hk] at hst
    cases hst
  cases hsi : tx.staged.contains i with
  | true =>
    rw [Transaction.view_of_staged hsi] at hi
    cases hsj : tx.staged.contains j with
    | true =>
      rw [Transaction.view_of_staged hsj] at hj
      exact h.injective i j row other hi hj hcode
    | false =>
      rw [Transaction.view_of_not_staged hsj] at hj
      exact absurd hcode.symm (clash j i other row hsj hj hi)
  | false =>
    rw [Transaction.view_of_not_staged hsi] at hi
    cases hsj : tx.staged.contains j with
    | true =>
      rw [Transaction.view_of_staged hsj] at hj
      exact absurd hcode (clash i j row other hsi hi hj)
    | false =>
      rw [Transaction.view_of_not_staged hsj] at hj
      exact distinct i j row other hi hj hcode

/-! ## The invariant -/

/-- What holds of a store and the transactions that are open over it, as long as none of them stages a
write after the vote for it. -/
structure Sound (s : Store) (opened : ι → Option Transaction) : Prop where
  keyed : RowsKeyed s.rows
  distinct : CodesDistinct s.rows
  stagedKeyed : ∀ i tx, opened i = some tx →
    ∀ id symbol, tx.written? id = some symbol → symbol.id = id
  issued : ∀ i tx, opened i = some tx → tx.id < s.nextTransaction
  unique : ∀ i j tx ux, opened i = some tx → opened j = some ux → tx.id = ux.id → i = j
  backed : ∀ i tx, opened i = some tx → tx.prepared = true → s.Backs tx

namespace Sound

variable {opened after : ι → Option Transaction} {i : ι}

theorem codesDistinct_empty : CodesDistinct Table.empty := by
  intro i j row other hi
  simp at hi

/-- A store without rows and without open transactions. -/
theorem of_empty (hrows : s.rows = Table.empty) (hnone : ∀ i, opened i = none) : s.Sound opened where
  keyed id row h := by simp [hrows] at h
  distinct := hrows ▸ codesDistinct_empty
  stagedKeyed i tx h := by simp [hnone] at h
  issued i tx h := by simp [hnone] at h
  unique i j tx ux h := by simp [hnone] at h
  backed i tx h := by simp [hnone] at h

/-- Only rows, reservations and the supply of transaction ids matter. -/
theorem congr (h : s.Sound opened) {t : Store} (hrows : t.rows = s.rows)
    (hreserved : t.reserved = s.reserved) (hnext : t.nextTransaction = s.nextTransaction) :
    t.Sound opened where
  keyed := hrows ▸ h.keyed
  distinct := hrows ▸ h.distinct
  stagedKeyed := h.stagedKeyed
  issued j ux hu := hnext ▸ h.issued j ux hu
  unique := h.unique
  backed j ux hu hp :=
    ⟨hreserved ▸ (h.backed j ux hu hp).reserves, (h.backed j ux hu hp).injective,
      hrows ▸ (h.backed j ux hu hp).covers⟩

/-- One transaction is gone, and the store changed in a way that leaves the others what is held ready
for them. -/
theorem others (h : s.Sound opened) (hr : Replaces opened after i none) {t : Store}
    (keyed : RowsKeyed t.rows) (distinct : CodesDistinct t.rows)
    (hnext : t.nextTransaction = s.nextTransaction)
    (hbacks : ∀ j ux, j ≠ i → opened j = some ux → s.Backs ux → t.Backs ux) : t.Sound after := by
  have old : ∀ {j ux}, after j = some ux → j ≠ i ∧ opened j = some ux := by
    intro j ux hu
    obtain ⟨_, hn⟩ | hj := hr.cases hu
    · cases hn
    · exact hj
  refine ⟨keyed, distinct, ?_, ?_, ?_, ?_⟩
  · intro j ux hu
    exact h.stagedKeyed j ux (old hu).2
  · intro j ux hu
    rw [hnext]
    exact h.issued j ux (old hu).2
  · intro j k ux vx hu hv hid
    exact h.unique j k ux vx (old hu).2 (old hv).2 hid
  · intro j ux hu hp
    exact hbacks j ux (old hu).1 (old hu).2 (h.backed j ux (old hu).2 hp)

/-- A transaction is put under a key, in place of the one that may have been there. -/
theorem put (h : s.Sound opened) (hr : Replaces opened after i (some tx))
    (hkeyed : ∀ id symbol, tx.written? id = some symbol → symbol.id = id)
    (hissued : tx.id < s.nextTransaction)
    (hnew : ∀ j ux, j ≠ i → opened j = some ux → ux.id ≠ tx.id)
    (hbacked : tx.prepared = true → s.Backs tx) : s.Sound after := by
  refine ⟨h.keyed, h.distinct, ?_, ?_, ?_, ?_⟩
  · intro j ux hu
    obtain ⟨_, hn⟩ | ⟨_, hj⟩ := hr.cases hu
    · cases hn
      exact hkeyed
    · exact h.stagedKeyed j ux hj
  · intro j ux hu
    obtain ⟨_, hn⟩ | ⟨_, hj⟩ := hr.cases hu
    · cases hn
      exact hissued
    · exact h.issued j ux hj
  · intro j k ux vx hu hv hid
    obtain ⟨hj, hn⟩ | ⟨hj, hju⟩ := hr.cases hu <;> obtain ⟨hk, hm⟩ | ⟨hk, hkv⟩ := hr.cases hv
    · rw [hj, hk]
    · cases hn
      exact absurd hid.symm (hnew k vx hk hkv)
    · cases hm
      exact absurd hid (hnew j ux hj hju)
    · exact h.unique j k ux vx hju hkv hid
  · intro j ux hu hp
    obtain ⟨_, hn⟩ | ⟨_, hj⟩ := hr.cases hu
    · cases hn
      exact hbacked hp
    · exact h.backed j ux hj hp

theorem id_ne (h : s.Sound opened) (hi : opened i = some tx) {j : ι} (hj : j ≠ i)
    (hu : opened j = some ux) : ux.id ≠ tx.id :=
  fun hid => hj (h.unique j i ux tx hu hi hid)

/-! ## The steps of a transaction -/

/-- A transaction is just forgotten. -/
theorem forget (h : s.Sound opened) (hr : Replaces opened after i none) : s.Sound after :=
  h.others hr h.keyed h.distinct rfl fun _ _ _ _ hb => hb

theorem begin (h : s.Sound opened) (hr : Replaces opened after i (some s.begin.1)) :
    s.begin.2.Sound after := by
  have hnext : s.begin.2.Sound opened := by
    refine ⟨h.keyed, h.distinct, h.stagedKeyed, ?_, h.unique, ?_⟩
    · intro j ux hu
      exact Nat.lt_succ_of_lt (h.issued j ux hu)
    · intro j ux hu hp
      have hb := h.backed j ux hu hp
      exact ⟨hb.reserves, hb.injective, hb.covers⟩
  refine hnext.put hr ?_ (Nat.lt_succ_self _) ?_ ?_
  · intro id symbol hw
    simp [Store.begin, Transaction.written?] at hw
  · intro j ux _ hu
    exact Nat.ne_of_lt (h.issued j ux hu)
  · intro hp
    cases hp

/-- A transaction that was not voted for changes what it stages. -/
theorem stage (h : s.Sound opened) (hi : opened i = some tx) (hr : Replaces opened after i (some ux))
    (hid : ux.id = tx.id) (hp : ux.prepared = false)
    (hkeyed : ∀ id symbol, ux.written? id = some symbol → symbol.id = id) : s.Sound after := by
  refine h.put hr hkeyed (hid ▸ h.issued i tx hi) ?_ ?_
  · intro j vx hj hv
    rw [hid]
    exact h.id_ne hi hj hv
  · intro hp'
    rw [hp] at hp'
    cases hp'

/-- A vote is taken, for the first time or once more. -/
theorem prepare (h : s.Sound opened) (hi : opened i = some tx) (hc : s.conflict tx = none)
    (hr : Replaces opened after i (some { tx with prepared := true })) : (s.voted tx).Sound after := by
  obtain ⟨rest, hrest⟩ := Replaces.exists_replaces opened i none
  have hothers : (s.voted tx).Sound rest :=
    h.others hrest h.keyed h.distinct rfl fun j ux hj hu hb => hb.voted_other hc (h.id_ne hi hj hu)
  refine hothers.put (hrest.again hr) (h.stagedKeyed i tx hi) (h.issued i tx hi) ?_ ?_
  · intro j ux hj hu
    show ux.id ≠ tx.id
    exact h.id_ne hi hj ((hrest.elsewhere j hj).symm.trans hu)
  · exact fun _ => backs_voted h.keyed hc

/-- A voted transaction commits. -/
theorem apply (h : s.Sound opened) (hi : opened i = some tx) (hp : tx.prepared = true)
    (hr : Replaces opened after i none) : (s.apply tx).Sound after := by
  have ht := h.backed i tx hi hp
  refine h.others hr ?_ (ht.codesDistinct_apply h.distinct) rfl
    fun j ux hj hu hb => hb.apply_other ht (h.id_ne hi hj hu)
  intro id row hrow
  have hview : tx.view s.rows id = some row := (get?_applyWrites s.rows tx id).symm.trans hrow
  cases hst : tx.staged.contains id with
  | true =>
    rw [Transaction.view_of_staged hst] at hview
    exact h.stagedKeyed i tx hi id row hview
  | false =>
    rw [Transaction.view_of_not_staged hst] at hview
    exact h.keyed id row hview

/-- A transaction commits, after its vote or with it. -/
theorem commit (h : s.Sound opened) (hi : opened i = some tx) {t : Store} (hc : s.commit tx = .ok t)
    (hr : Replaces opened after i none) : t.Sound after := by
  obtain ⟨hp, rfl⟩ | ⟨_, _, hconf, rfl⟩ := (commit_eq_ok_iff s tx t).mp hc
  · exact h.apply hi hp hr
  · obtain ⟨voted, hvoted⟩ := Replaces.exists_replaces opened i (some { tx with prepared := true })
    exact (h.prepare hi hconf hvoted).apply hvoted.here rfl (hvoted.again hr)

theorem rollback (h : s.Sound opened) (hi : opened i = some tx) (hr : Replaces opened after i none) :
    (s.rollback tx).Sound after := by
  refine h.others hr ?_ ?_ ?_ ?_
  · unfold Store.rollback
    split <;> exact h.keyed
  · unfold Store.rollback
    split <;> exact h.distinct
  · unfold Store.rollback
    split <;> rfl
  · intro j ux hj hu hb
    unfold Store.rollback
    split
    · have hb' := hb.release_other (h.id_ne hi hj hu)
      exact ⟨hb'.reserves, hb'.injective, hb'.covers⟩
    · exact ⟨hb.reserves, hb.injective, hb.covers⟩

end Sound

end Store

end SymbolRelay
