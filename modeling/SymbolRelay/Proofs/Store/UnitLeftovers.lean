import SymbolRelay.Proofs.Store.Turns
import SymbolRelay.Proofs.Store.UnitSteps

/-!
# What a unit of work leaves behind

A unit over the store that comes to an end, well or with an error, leaves nothing of itself: no code is
reserved for it, and it was either committed or rolled back. A panic of its body passes it by: the
transaction is neither committed nor rolled back, and what the vote on it reserved stays reserved for
good.

## Results

* `Reached.unheld` — nothing is reserved for a transaction that is still to be opened;
* `perform_kept` — what the store holds for a unit while its body runs;
* `leaves_nothing_iff_no_panic` — exactly a unit that panics leaves something behind, and what that is;
* `crash_blocks_code` — a code that nobody can write any more.
-/

set_option autoImplicit false

namespace SymbolRelay

/-! ## Whose reservations there can be -/

/-- A store as it can be: some turns of a desk made it from an empty one. -/
def Store.Reached (s : Store) : Prop :=
  ∃ nextId clock turns, s = ((Desk.fresh nextId clock).play turns).store

namespace Desk

/-- Transactions that hold codes, and those that are open, have numbers below the next one. -/
structure Issued (d : Desk) : Prop where
  held : ∀ code holder, d.store.reserved.get? code = some holder → holder < d.store.nextTransaction
  opened : ∀ name tx, d.opened.get? name = some tx → tx.id < d.store.nextTransaction

namespace Issued

variable {d : Desk} {name : String} {tx : Transaction}

theorem fresh (nextId : Int64) (clock : Clock) : (fresh nextId clock).Issued where
  held := fun code holder h => by simp [Desk.fresh, Store.withNextId] at h
  opened := fun name tx h => by simp [Desk.fresh] at h

theorem put (h : d.Issued) (tx : Transaction) (hid : tx.id < d.store.nextTransaction) (name : String) :
    (d.put name tx).Issued where
  held := h.held
  opened := fun other ux hu => by
    rw [Desk.put, Table.get?_insert_eq] at hu
    split at hu
    · cases hu
      exact hid
    · exact h.opened other ux hu

theorem drop (h : d.Issued) (name : String) : (d.drop name).Issued where
  held := h.held
  opened := fun other ux hu => by
    rw [Desk.drop, Table.get?_erase_eq] at hu
    split at hu
    · cases hu
    · exact h.opened other ux hu

/-- Another store may take the place of this one whose reservations are of transactions that were
opened, and that goes on with the numbers. -/
theorem withStore (h : d.Issued) (store : Store) (clock : Clock)
    (hheld : ∀ code holder, store.reserved.get? code = some holder →
      d.store.reserved.get? code = some holder ∨ holder < d.store.nextTransaction)
    (hnext : d.store.nextTransaction ≤ store.nextTransaction) : { d with store, clock }.Issued where
  held := fun code holder hr => by
    have hlt : holder < d.store.nextTransaction := by
      rcases hheld code holder hr with hold | hlt
      · exact h.held code holder hold
      · exact hlt
    show holder < store.nextTransaction
    omega
  opened := fun other ux hu => by
    have hlt := h.opened other ux hu
    show ux.id < store.nextTransaction
    omega

theorem openUnder (h : d.Issued) (name : String) : (d.openUnder name).1.Issued := by
  have hstore : { d with store := d.store.begin.2 }.Issued :=
    h.withStore _ d.clock (fun _ _ hr => .inl hr) (Nat.le_succ _)
  exact hstore.put _ (Nat.lt_succ_self _) name

theorem voted (h : d.Issued) (hid : tx.id < d.store.nextTransaction) :
    { d with store := d.store.voted tx }.Issued := by
  refine h.withStore _ d.clock ?_ (Nat.le_refl _)
  intro code holder hr
  rcases (Store.voted_get?_eq_some_iff d.store tx code holder).mp hr with ⟨_, rfl⟩ | ⟨_, hold, _⟩
  · exact .inr hid
  · exact .inl hold

theorem released (h : d.Issued) (store : Store) (tx : Transaction)
    (hr : store.reserved = (d.store.release tx.id).reserved)
    (hnext : store.nextTransaction = d.store.nextTransaction) : { d with store }.Issued := by
  refine h.withStore _ d.clock ?_ (Nat.le_of_eq hnext.symm)
  intro code holder hh
  rw [hr, Store.release_get?_eq_some_iff] at hh
  exact .inl hh.1

theorem served (h : d.Issued) (ho : d.opened.get? name = some tx) {demand : Demand} {e : Desk}
    (hserved : Served d name tx demand e) : e.Issued := by
  have hid := h.opened name tx ho
  cases hserved with
  | refused => exact h
  | staged nextId clock _ id _ _ =>
    have hstepped := h.withStore { d.store with nextId } clock (fun _ _ hr => .inl hr) (Nat.le_refl _)
    exact hstepped.put _ (by exact id ▸ hid) name
  | voted _ => exact (h.voted hid).put _ (by exact hid) name
  | committed commit =>
    rcases (Store.commit_eq_ok_iff _ _ _).mp commit with ⟨_, rfl⟩ | ⟨_, _, _, rfl⟩
    · exact (h.released _ tx (by rfl) (by rfl)).drop name
    · exact ((h.voted hid).released _ tx (by rfl) (by rfl)).drop name
  | lost _ => exact h.drop name
  | rolledBack =>
    unfold Store.rollback
    split
    · exact (h.released _ tx (by rfl) (by rfl)).drop name
    · have hstore : { d with store := { d.store with rolledBack := d.store.rolledBack + 1 } }.Issued :=
        h.withStore _ d.clock (fun _ _ hr => .inl hr) (Nat.le_refl _)
      exact hstore.drop name

theorem take (h : d.Issued) (turn : Turn) : (d.take turn).Issued := by
  cases turn with
  | refuse refusing => exact h.withStore _ d.clock (fun _ _ hr => .inl hr) (Nat.le_refl _)
  | serve name demand =>
    by_cases hd : demand = .begin
    · subst hd
      exact h.openUnder name
    · simp only [Desk.take, serve_of_ne_begin hd]
      split
      · rename_i tx ho
        exact h.served ho (Desk.served hd)
      · exact h

theorem play (h : d.Issued) (turns : List Turn) : (d.play turns).Issued := by
  induction turns generalizing d with
  | nil => exact h
  | cons turn turns ih => exact ih (h.take turn)

end Issued

end Desk

/-- Nothing is reserved for a transaction that is still to be opened. -/
theorem Store.Reached.unheld {s : Store} (h : s.Reached) (code : String) :
    s.reserved.get? code ≠ some s.nextTransaction := by
  obtain ⟨nextId, clock, turns, rfl⟩ := h
  intro hr
  have hlt := ((Desk.Issued.fresh nextId clock).play turns).held code _ hr
  omega

/-! ## What a unit may do -/

variable {ξ ε α β ρ : Type}

/-- A change that touches nothing of the store but what belongs to the transaction: it may stage writes,
and give out ids for them. The store may begin to refuse commits, or cease to. -/
def UnitChange.Within (change : UnitChange ξ Transaction) : Prop :=
  ∀ s, (∃ nextId refusing, (change s).1.store = { s.1.store with nextId, refusing }) ∧
    (change s).2.id = s.2.tx.id ∧ (change s).2.prepared = s.2.tx.prepared

/-- Creating, changing and removing symbols stays within the unit. -/
theorem UnitChange.within_ofWrite (symbol : Symbol) (id : Int64) :
    (UnitChange.ofWrite (ξ := ξ) fun tx => Storage.ofStore.create tx symbol).Within ∧
      (UnitChange.ofWrite (ξ := ξ) fun tx => Storage.ofStore.update tx symbol).Within ∧
      (UnitChange.ofWrite (ξ := ξ) fun tx => do
        let tx ← Storage.ofStore.delete tx id
        return ((), tx)).Within := by
  refine ⟨?_, ?_, ?_⟩
  · rintro ⟨w, u⟩
    simp only [ofWrite, Storage.ofStore, World.onStoreNow]
    cases hc : w.store.create u.tx symbol w.clock.now with
    | error e => exact ⟨⟨_, _, rfl⟩, rfl, rfl⟩
    | ok r =>
      obtain ⟨_, rfl⟩ := (Store.create_eq_ok_iff _ _ _ _ _).mp hc
      exact ⟨⟨_, _, rfl⟩, rfl, rfl⟩
  · rintro ⟨w, u⟩
    simp only [ofWrite, Storage.ofStore, World.onStoreNow]
    cases hc : w.store.update u.tx symbol w.clock.now with
    | error e => exact ⟨⟨_, _, rfl⟩, rfl, rfl⟩
    | ok r =>
      obtain ⟨_, _, _, rfl⟩ := (Store.update_eq_ok_iff _ _ _ _ _).mp hc
      exact ⟨⟨_, _, rfl⟩, rfl, rfl⟩
  · rintro ⟨w, u⟩
    simp only [ofWrite, Storage.ofStore, World.onStore, bind, Action.bind]
    cases hc : w.store.delete u.tx id with
    | error e => exact ⟨⟨_, _, rfl⟩, rfl, rfl⟩
    | ok r =>
      obtain ⟨_, rfl⟩ := (Store.delete_eq_ok_iff _ _ _ _).mp hc
      exact ⟨⟨_, _, rfl⟩, rfl, rfl⟩

/-- The transaction as it was when the vote on it was granted, if it was: before the body runs, and
once it has run. -/
def UnitBody.votedFor (t : Transactor ξ Transaction) {allowed : UnitChange ξ Transaction → Prop} :
    UnitBody allowed ρ → Option Transaction → World ξ × UnitOfWork Transaction → Option Transaction
  | .act change _ next, earlier, s => (next s).votedFor t earlier (change.apply s)
  | .vote next, earlier, s =>
    match UnitOfWork.vote t s with
    | (.ok (), s') => (next (.ok ())).votedFor t (earlier <|> some s.2.tx) s'
    | (.error e, s') => (next (.error e)).votedFor t earlier s'
    | (.panic _, _) => earlier
  | .done _, earlier, _ => earlier

namespace UnitOfWork

/-! ## While the body runs -/

/-- What the store holds for a unit of work that was opened over the store `s`. -/
structure Kept (s : Store) (w : World ξ) (u : UnitOfWork Transaction)
    (votedFor : Option Transaction) : Prop where
  id : u.tx.id = s.nextTransaction
  prepared : u.tx.prepared = u.prepared
  voted : votedFor.isSome = u.prepared
  rows : w.store.rows = s.rows
  begun : w.store.begun = s.begun + 1
  committed : w.store.committed = s.committed
  rolledBack : w.store.rolledBack = s.rolledBack
  reserved : ∀ code holder, w.store.reserved.get? code = some holder ↔
    s.reserved.get? code = some holder ∨
      (holder = s.nextTransaction ∧ ∃ tx, votedFor = some tx ∧ tx.Writes code)

namespace Kept

variable {s : Store} {w w' : World ξ} {u u' : UnitOfWork Transaction} {votedFor : Option Transaction}

theorem act (h : Kept s w u votedFor) {change : UnitChange ξ Transaction} (hc : change.Within) :
    Kept s (change.apply (w, u)).1 (change.apply (w, u)).2 votedFor := by
  obtain ⟨⟨nextId, refusing, hstore⟩, hid, hprepared⟩ := hc (w, u)
  have hstore' : (change.apply (w, u)).1.store = { w.store with nextId, refusing } := hstore
  constructor
  · exact hid.trans h.id
  · exact hprepared.trans h.prepared
  · exact h.voted
  · rw [hstore']
    exact h.rows
  · rw [hstore']
    exact h.begun
  · rw [hstore']
    exact h.committed
  · rw [hstore']
    exact h.rolledBack
  · rw [hstore']
    exact h.reserved

/-- A vote that was granted, now or before. -/
theorem granted (h : Kept s w u votedFor) (hs : s.Reached)
    (hp : Poll Storage.ofStore.toTransactor u w (.ok u') w') :
    Kept s w' u' (votedFor <|> some u.tx) ∧ u'.prepared = true := by
  cases hp with
  | kept hprepared =>
    have hsome := h.voted
    rw [hprepared] at hsome
    obtain ⟨tx, rfl⟩ := Option.isSome_iff_exists.mp hsome
    exact ⟨h, hprepared⟩
  | granted hprepared hc hv =>
    obtain ⟨store, hprepare, rfl⟩ := Storage.ofStore_prepare_eq_ok_iff.mp hv
    obtain ⟨_, hconflict, heq⟩ := (Store.prepare_eq_ok_iff _ _ _).mp hprepare
    cases heq
    have hnone : votedFor = none := by
      rw [← Option.not_isSome_iff_eq_none, h.voted, hprepared]
      decide
    subst hnone
    refine ⟨⟨h.id, rfl, rfl, h.rows, h.begun, h.committed, h.rolledBack, ?_⟩, rfl⟩
    intro code holder
    have hbefore : w.store.reserved.get? code = some holder ↔ s.reserved.get? code = some holder := by
      rw [h.reserved]
      simp
    rw [Store.voted_get?_eq_some_iff, hbefore, h.id]
    constructor
    · rintro (⟨hw, rfl⟩ | ⟨_, hold, _⟩)
      · exact .inr ⟨rfl, u.tx, rfl, hw⟩
      · exact .inl hold
    · rintro (hold | ⟨rfl, tx, htx, hw⟩)
      · have hne : holder ≠ s.nextTransaction := by
          rintro rfl
          exact hs.unheld code hold
        refine .inr ⟨?_, hold, hne⟩
        rintro ⟨id, symbol, hwritten, rfl⟩
        have hfree := (Store.conflict_eq_none_iff _ _).mp hconflict id symbol hwritten
        have htaken : w.store.codeTaken u.tx symbol.code id = true :=
          (Store.codeTaken_iff _ _ _ _).mpr (.inr (.inl ⟨holder, hbefore.mpr hold, h.id ▸ hne⟩))
        rw [hfree] at htaken
        cases htaken
      · cases htx
        exact .inl ⟨hw, rfl⟩

/-- A vote that was refused changes nothing. -/
theorem refused (h : Kept s w u votedFor) {e : DataError}
    (hp : Poll Storage.ofStore.toTransactor u w (.error e) w') :
    Kept s w' u votedFor ∧ u.prepared = false := by
  cases hp with
  | cancelled hprepared hc => exact ⟨h, hprepared⟩
  | refused hprepared hc hv =>
    obtain ⟨_, rfl⟩ := Storage.ofStore_prepare_eq_error_iff.mp hv
    exact ⟨h, hprepared⟩

end Kept

variable {s : Store} {w : World ξ} {u : UnitOfWork Transaction} {votedFor : Option Transaction}

/-- **What the store holds for a unit once its body has run**, however the body ended. -/
theorem perform_kept (hs : s.Reached) (body : UnitBody (UnitChange.Within (ξ := ξ)) (Outcome ε α))
    (h : Kept s w u votedFor) :
    ∃ outcome w' u', body.perform Storage.ofStore.toTransactor Action.ofOutcome (w, u) =
        (outcome, w', u') ∧
      Kept s w' u' (body.votedFor Storage.ofStore.toTransactor votedFor (w, u)) := by
  induction body generalizing w u votedFor with
  | act change hc next ih =>
    simp only [UnitBody.perform, UnitBody.votedFor]
    exact ih (w, u) (h.act hc)
  | vote next ih =>
    have hpoll := poll Storage.ofStore_returns u w
    simp only [UnitBody.perform, UnitBody.votedFor, vote_apply]
    cases hv : prepared? Storage.ofStore.toTransactor u w with
    | mk o w' =>
      rw [hv] at hpoll
      cases o with
      | ok u' => exact ih (.ok ()) (h.granted hs hpoll).1
      | error e => exact ih (.error e) (h.refused hpoll).1
      | panic p => cases hpoll
  | done outcome => exact ⟨outcome, w, u, rfl, h⟩

/-! ## Once the unit is over -/

/-- A unit over a store came to an outcome and left nothing of itself behind. -/
structure LeavesNothing (s : Store) (outcome : Outcome ε α) (s' : Store) : Prop where
  /-- No code is reserved for the transaction of the unit. -/
  unheld : ∀ code, s'.reserved.get? code ≠ some s.nextTransaction
  /-- What others reserved stays as it was. -/
  reserved : s'.reserved = s.reserved
  /-- Rows change only if the unit ended well. -/
  rows : outcome.isOk = false → s'.rows = s.rows
  /-- Each transaction that was opened was committed or rolled back. -/
  balanced : s'.begun + (s.committed + s.rolledBack) = s.begun + (s'.committed + s'.rolledBack)
  /-- Unless the unit ended well, symbols can be created as if it had not been. -/
  creates : outcome.isOk = false → ∀ tx symbol now,
    (∃ e, s'.create tx symbol now = .error e) ↔ ∃ e, s.create tx symbol now = .error e

/-- A unit over a store that is neither committed nor rolled back, and of which the store still holds
what was reserved for it when it was voted for. -/
structure LeavesOpen (s : Store) (votedFor : Option Transaction) (s' : Store) : Prop where
  rows : s'.rows = s.rows
  begun : s'.begun = s.begun + 1
  committed : s'.committed = s.committed
  rolledBack : s'.rolledBack = s.rolledBack
  held : ∀ code, s'.reserved.get? code = some s.nextTransaction ↔
    ∃ tx, votedFor = some tx ∧ tx.Writes code
  /-- No other transaction can create a symbol with such a code. -/
  refuses : ∀ tx code, votedFor = some tx → tx.Writes code → ∀ other symbol now,
    other.id ≠ s.nextTransaction → symbol.code = code →
      s'.create other symbol now = .error (.duplicate code)

theorem codeTaken_congr {s s' : Store} (hrows : s'.rows = s.rows) (hreserved : s'.reserved = s.reserved)
    (tx : Transaction) (code : String) (keep : Int64) :
    s'.codeTaken tx code keep = s.codeTaken tx code keep := by
  simp only [Store.codeTaken, Store.committedHolds, Store.reservedByOther, hrows, hreserved]

/-- Enough for nothing to be left. -/
theorem LeavesNothing.of_reserved (hs : s.Reached) {s' : Store} {outcome : Outcome ε α}
    (hreserved : s'.reserved = s.reserved) (hrows : outcome.isOk = false → s'.rows = s.rows)
    (hbalanced : s'.begun + (s.committed + s.rolledBack) = s.begun + (s'.committed + s'.rolledBack)) :
    LeavesNothing s outcome s' where
  unheld := fun code => by
    rw [hreserved]
    exact hs.unheld code
  reserved := hreserved
  rows := hrows
  balanced := hbalanced
  creates := fun hok tx symbol now => by
    simp only [Store.create_error_iff, codeTaken_congr (hrows hok) hreserved]

/-- Without what is reserved for the unit, the reservations are those from before it. -/
theorem Kept.reserved_release (hs : s.Reached) (h : Kept s w u votedFor) :
    (w.store.release u.tx.id).reserved = s.reserved := by
  refine Table.ext fun code => Option.ext fun holder => ?_
  rw [Store.release_get?_eq_some_iff, h.reserved, h.id]
  constructor
  · rintro ⟨hold | ⟨rfl, _⟩, hne⟩
    · exact hold
    · exact absurd rfl hne
  · intro hold
    refine ⟨.inl hold, ?_⟩
    rintro rfl
    exact hs.unheld code hold

/-- A transaction that is rolled back leaves nothing. -/
theorem Kept.rollback (hs : s.Reached) (h : Kept s w u votedFor) {outcome : Outcome ε α} :
    LeavesNothing s outcome (w.store.rollback u.tx) := by
  have hrows := h.rows
  have hbegun := h.begun
  have hcommitted := h.committed
  have hrolled := h.rolledBack
  cases hp : u.tx.prepared with
  | true =>
    have hstore : w.store.rollback u.tx =
        { w.store.release u.tx.id with rolledBack := w.store.rolledBack + 1 } := by
      simp [Store.rollback, hp, Store.release]
    rw [hstore]
    refine .of_reserved hs (h.reserved_release hs) (fun _ => hrows) ?_
    simp only [Store.release]
    omega
  | false =>
    have hstore : w.store.rollback u.tx = { w.store with rolledBack := w.store.rolledBack + 1 } := by
      simp [Store.rollback, hp]
    have hreserved : w.store.reserved = s.reserved := by
      have hnone : votedFor = none := by
        rw [← Option.not_isSome_iff_eq_none, h.voted, ← h.prepared, hp]
        decide
      refine Table.ext fun code => Option.ext fun holder => ?_
      rw [h.reserved, hnone]
      simp
    rw [hstore]
    refine .of_reserved hs hreserved (fun _ => hrows) ?_
    simp only
    omega

/-- A transaction that is committed leaves nothing but its rows. -/
theorem Kept.commit (hs : s.Reached) (h : Kept s w u votedFor) {v : α} :
    LeavesNothing s (.ok v : Outcome ε α) (w.store.apply u.tx) := by
  have hbegun := h.begun
  have hcommitted := h.committed
  have hrolled := h.rolledBack
  refine .of_reserved hs (h.reserved_release hs) (fun hok => by cases hok) ?_
  simp only [Store.apply, Store.release]
  omega

/-- A transaction that is forgotten stays open. -/
theorem Kept.leavesOpen (hs : s.Reached) (h : Kept s w u votedFor) :
    LeavesOpen s votedFor w.store where
  rows := h.rows
  begun := h.begun
  committed := h.committed
  rolledBack := h.rolledBack
  held := fun code => by
    rw [h.reserved]
    constructor
    · rintro (hold | ⟨_, hw⟩)
      · exact absurd hold (hs.unheld code)
      · exact hw
    · intro hw
      exact .inr ⟨rfl, hw⟩
  refuses := by
    rintro tx code hv hw other symbol now hother rfl
    have hheld : w.store.reserved.get? symbol.code = some s.nextTransaction :=
      (h.reserved _ _).mpr (.inr ⟨rfl, tx, hv, hw⟩)
    have htaken : w.store.codeTaken other symbol.code 0 = true :=
      (Store.codeTaken_iff _ _ _ _).mpr (.inr (.inl ⟨_, hheld, hother.symm⟩))
    exact (Store.create_error_iff _ _ _ _ _).mpr ⟨htaken, rfl⟩

/-- What is left of a unit whose body has run. -/
theorem Exit.leaves (hs : s.Reached) (h : Kept s w u votedFor) {lift : DataError → ε}
    {ended o : Outcome ε α} {w' : World ξ}
    (hexit : Exit Storage.ofStore.toTransactor lift u w ended o w') :
    ((∀ p, o ≠ .panic p) → LeavesNothing s o w'.store) ∧
      (∀ p, o = .panic p → LeavesOpen s votedFor w'.store) := by
  cases hexit with
  | failed =>
    rw [Storage.ofStore_rollback]
    exact ⟨fun _ => h.rollback hs, fun p hp => by cases hp⟩
  | panicked => exact ⟨fun hp => absurd rfl (hp _), fun p _ => h.leavesOpen hs⟩
  | unvoted hp =>
    obtain ⟨hkept, _⟩ := h.refused hp
    rw [Storage.ofStore_rollback]
    exact ⟨fun _ => hkept.rollback hs, fun p hp => by cases hp⟩
  | committed hp hc =>
    obtain ⟨hkept, hvoted⟩ := h.granted hs hp
    rw [Storage.ofStore_commit_of_prepared (hkept.prepared.trans hvoted)] at hc
    cases hc
    exact ⟨fun _ => hkept.commit hs, fun p hp => by cases hp⟩
  | uncommitted hp hc =>
    -- the store commits every transaction that it voted for
    obtain ⟨hkept, hvoted⟩ := h.granted hs hp
    rw [Storage.ofStore_commit_of_prepared (hkept.prepared.trans hvoted)] at hc
    cases hc

/-- A unit that was just opened. -/
theorem Kept.opened (s : Store) {w : World ξ} (hw : w.store = s.begin.2) (ctx : Context) :
    Kept s w { ctx, tx := s.begin.1 } none := by
  constructor
  · rfl
  · rfl
  · rfl
  · rw [hw]
    rfl
  · rw [hw]
    rfl
  · rw [hw]
    rfl
  · rw [hw]
    rfl
  · intro code holder
    rw [hw]
    simp [Store.begin]

/-- A unit over the store is not opened, which changes nothing, or it is. -/
theorem enter_ofStore (ctx : Context) (w : World ξ) :
    (∃ e, enter Storage.ofStore.toTransactor ctx w = (.error e, w)) ∨
      ∃ u w₀, enter Storage.ofStore.toTransactor ctx w = (.ok u, w₀) ∧ Kept w.store w₀ u none := by
  have hentry := entry Storage.ofStore_returns ctx w
  cases henter : enter Storage.ofStore.toTransactor ctx w with
  | mk o w₀ =>
    rw [henter] at hentry
    cases hentry with
    | bound _ => exact .inl ⟨_, rfl⟩
    | cancelled _ _ => exact .inl ⟨_, rfl⟩
    | unopened _ _ hb =>
      rw [Storage.ofStore_begin] at hb
      cases hb
    | opened _ _ hb =>
      rw [Storage.ofStore_begin] at hb
      cases hb
      exact .inr ⟨_, _, rfl, Kept.opened w.store rfl _⟩

/-- A run of a unit of work over the store. -/
def runOverStore (lift : DataError → ε) (ctx : Context)
    (body : UnitBody (UnitChange.Within (ξ := ξ)) (Outcome ε α)) (w : World ξ) :
    Outcome ε α × World ξ :=
  run Storage.ofStore.toTransactor lift ctx
    (body.perform Storage.ofStore.toTransactor Action.ofOutcome) w

/-- What is left of a unit that was opened. -/
theorem runOverStore_leaves {w w₀ : World ξ} (reached : w.store.Reached) (lift : DataError → ε)
    {ctx : Context} (body : UnitBody (UnitChange.Within (ξ := ξ)) (Outcome ε α))
    {u : UnitOfWork Transaction} (henter : enter Storage.ofStore.toTransactor ctx w = (.ok u, w₀))
    (hkept : Kept w.store w₀ u none) :
    ((∀ p, (runOverStore lift ctx body w).1 ≠ .panic p) →
        LeavesNothing w.store (runOverStore lift ctx body w).1
          (runOverStore lift ctx body w).2.store) ∧
      ∀ p, (runOverStore lift ctx body w).1 = .panic p →
        LeavesOpen w.store (body.votedFor Storage.ofStore.toTransactor none (w₀, u))
          (runOverStore lift ctx body w).2.store := by
  obtain ⟨ended, w₁, u₁, hbody, hended⟩ := perform_kept reached body hkept
  have hran : runOverStore lift ctx body w =
      leave Storage.ofStore.toTransactor lift u₁ ended w₁ := by
    rw [runOverStore, run_of_opened henter, hbody]
  rw [hran]
  exact (exit Storage.ofStore_returns lift u₁ ended w₁).leaves reached hended

/-- **Exactly a unit that panics leaves something behind**: the store never learns that it is over, and
whatever the vote on it reserved stays reserved. -/
theorem leaves_nothing_iff_no_panic {w : World ξ} (reached : w.store.Reached) (lift : DataError → ε)
    (ctx : Context) (body : UnitBody (UnitChange.Within (ξ := ξ)) (Outcome ε α)) :
    (LeavesNothing w.store (runOverStore lift ctx body w).1 (runOverStore lift ctx body w).2.store ↔
        ∀ p, (runOverStore lift ctx body w).1 ≠ .panic p) ∧
      ∀ p, (runOverStore lift ctx body w).1 = .panic p →
        ∃ u w₀, enter Storage.ofStore.toTransactor ctx w = (.ok u, w₀) ∧
          LeavesOpen w.store (body.votedFor Storage.ofStore.toTransactor none (w₀, u))
            (runOverStore lift ctx body w).2.store := by
  rcases enter_ofStore ctx w with ⟨e, henter⟩ | ⟨u, w₀, henter, hkept⟩
  · have hran : runOverStore lift ctx body w = (.error (lift e), w) := by
      rw [runOverStore, run_of_refused henter]
    have hnothing : LeavesNothing w.store (.error (lift e) : Outcome ε α) w.store :=
      .of_reserved reached rfl (fun _ => rfl) rfl
    rw [hran]
    constructor
    · constructor
      · intro _ p hp
        cases hp
      · intro _
        exact hnothing
    · intro p hp
      cases hp
  · obtain ⟨hreturned, hpanicked⟩ := runOverStore_leaves reached lift body henter hkept
    refine ⟨⟨?_, hreturned⟩, fun p hp => ⟨u, w₀, henter, hpanicked p hp⟩⟩
    intro hnothing p hp
    have hopen := hpanicked p hp
    have hbalanced := hnothing.balanced
    rw [hopen.begun, hopen.committed, hopen.rolledBack] at hbalanced
    omega

/-- A body that creates a symbol, has the vote taken, and panics. -/
def panicsAfterVote (symbol : Symbol) :
    UnitBody (UnitChange.Within (ξ := Unit)) (Outcome DataError Unit) :=
  .act (.ofWrite fun tx => Storage.ofStore.create tx symbol) (UnitChange.within_ofWrite symbol 0).1
    fun _ => .vote fun _ => .done (.panic (.because "publisher panicked"))

/-- A world with an empty store. -/
def emptyWorld : World Unit := { extra := () }

/-- A symbol that is still to be created. -/
def bitcoin : Symbol := ⟨0, "Bitcoin", "BTC", "", .epoch, .epoch⟩

/-- How such a unit ends over an empty store, and in which world. -/
def crash : Outcome DataError Unit × World Unit :=
  runOverStore id { scope := 9 } (panicsAfterVote bitcoin) emptyWorld

theorem crash_leaves_open :
    emptyWorld.store.Reached ∧ crash.1 = .panic (.because "publisher panicked") ∧
      ∃ votedFor, LeavesOpen emptyWorld.store votedFor crash.2.store := by
  have reached : emptyWorld.store.Reached := ⟨1, default, [], rfl⟩
  have hpanic : crash.1 = .panic (.because "publisher panicked") := by decide +kernel
  obtain ⟨u, w₀, _, hopen⟩ :=
    (leaves_nothing_iff_no_panic reached id { scope := 9 } (panicsAfterVote bitcoin)).2 _ hpanic
  exact ⟨reached, hpanic, _, hopen⟩

/-- **A panic after the vote blocks the code for good**: it stays reserved for the unit, of which nothing
was committed or rolled back, and no later transaction can create the symbol. -/
theorem crash_blocks_code :
    crash.1 = .panic (.because "publisher panicked") ∧
      crash.2.store.reserved.get? "BTC" = some emptyWorld.store.nextTransaction ∧
      crash.2.store.begun = 1 ∧ crash.2.store.committed + crash.2.store.rolledBack = 0 ∧
      crash.2.store.begin.2.create crash.2.store.begin.1 bitcoin .epoch =
        .error (.duplicate "BTC") := by
  refine ⟨by decide +kernel, by decide +kernel, by decide +kernel, by decide +kernel, ?_⟩
  exact (Store.create_error_iff _ _ _ _ _).mpr ⟨by decide +kernel, rfl⟩

end UnitOfWork

end SymbolRelay
