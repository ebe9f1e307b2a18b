import SymbolRelay.Proofs.Store.Soundness

/-!
# Who holds a reservation

Nothing is reserved but by a transaction that is open, was voted for and writes the code. Whatever ends
a transaction gives back what it held, so once no transaction is open nothing is reserved.

## Results

* `Accounted.begin`, `Accounted.stage`, `Accounted.prepare`, `Accounted.apply`, `Accounted.commit`,
  `Accounted.rollback` — each step of a transaction keeps every reservation accounted for.
-/

set_option autoImplicit false

namespace SymbolRelay.Store

variable {ι : Type} {s : Store} {opened after : ι → Option Transaction} {i : ι} {tx ux : Transaction}

/-- Every reservation is held by an open transaction that was voted for and writes the code. -/
def Accounted (s : Store) (opened : ι → Option Transaction) : Prop :=
  ∀ code holder, s.reserved.get? code = some holder →
    ∃ j ux, opened j = some ux ∧ ux.id = holder ∧ ux.prepared = true ∧ ux.Writes code

namespace Accounted

theorem of_empty (h : s.reserved = Table.empty) : s.Accounted opened := by
  intro code holder hr
  rw [h] at hr
  cases hr

/-- A holder other than the transaction that changed is still there. -/
theorem elsewhere {now : Option Transaction} (hr : Replaces opened after i now) {code : String}
    {holder : Nat} (h : ∃ j ux, opened j = some ux ∧ ux.id = holder ∧ ux.prepared = true ∧ ux.Writes code)
    (hi : ∀ ux, opened i = some ux → ux.id = holder → ux.prepared = true → ¬ ux.Writes code) :
    ∃ j ux, after j = some ux ∧ ux.id = holder ∧ ux.prepared = true ∧ ux.Writes code := by
  obtain ⟨j, ux, hu, hid, hp, hw⟩ := h
  by_cases hj : j = i
  · subst hj
    exact absurd hw (hi ux hu hid hp)
  · exact ⟨j, ux, (hr.elsewhere j hj).trans hu, hid, hp, hw⟩

theorem begin (h : s.Accounted opened) (hi : opened i = none) {now : Option Transaction}
    (hr : Replaces opened after i now) : s.begin.2.Accounted after := by
  intro code holder hreserved
  refine elsewhere hr (h code holder hreserved) fun ux hu => ?_
  rw [hi] at hu
  cases hu

/-- A transaction that was not voted for holds nothing, so it may change what it stages. -/
theorem stage (h : s.Accounted opened) (hi : opened i = some tx) (hp : tx.prepared = false)
    {now : Option Transaction} (hr : Replaces opened after i now) {t : Store}
    (hreserved : t.reserved = s.reserved) : t.Accounted after := by
  intro code holder hres
  rw [hreserved] at hres
  refine elsewhere hr (h code holder hres) fun ux hu _ hpu => ?_
  rw [hi] at hu
  cases hu
  rw [hp] at hpu
  cases hpu

theorem prepare (h : s.Accounted opened) (hi : opened i = some tx)
    (hr : Replaces opened after i (some { tx with prepared := true })) : (s.voted tx).Accounted after := by
  intro code holder hreserved
  obtain ⟨hw, rfl⟩ | ⟨_, hold, hne⟩ := (voted_get?_eq_some_iff s tx code holder).mp hreserved
  · exact ⟨i, { tx with prepared := true }, hr.here, rfl, rfl, hw⟩
  · refine elsewhere hr (h code holder hold) fun ux hu hid => ?_
    rw [hi] at hu
    cases hu
    exact absurd hid.symm hne

/-- The reservations of a transaction go with it. -/
theorem release (h : s.Accounted opened) (hi : opened i = some tx) {now : Option Transaction}
    (hr : Replaces opened after i now) {t : Store} (hreserved : t.reserved = (s.release tx.id).reserved) :
    t.Accounted after := by
  intro code holder hres
  rw [hreserved, release_get?_eq_some_iff] at hres
  refine elsewhere hr (h code holder hres.1) fun ux hu hid => ?_
  rw [hi] at hu
  cases hu
  exact absurd hid.symm hres.2

theorem apply (h : s.Accounted opened) (hi : opened i = some tx) (hr : Replaces opened after i none) :
    (s.apply tx).Accounted after :=
  h.release hi hr rfl

theorem commit (h : s.Accounted opened) (hi : opened i = some tx) {t : Store} (hc : s.commit tx = .ok t)
    (hr : Replaces opened after i none) : t.Accounted after := by
  obtain ⟨_, rfl⟩ | ⟨_, _, _, rfl⟩ := (commit_eq_ok_iff s tx t).mp hc
  · exact h.apply hi hr
  · obtain ⟨voted, hvoted⟩ := Replaces.exists_replaces opened i (some { tx with prepared := true })
    exact (h.prepare hi hvoted).apply hvoted.here (hvoted.again hr)

theorem rollback (h : s.Accounted opened) (hi : opened i = some tx) (hr : Replaces opened after i none) :
    (s.rollback tx).Accounted after := by
  unfold Store.rollback
  cases hp : tx.prepared with
  | true => exact h.release hi hr rfl
  | false => exact h.stage hi hp hr rfl

/-- Nothing is reserved once no transaction is open. -/
theorem reserved_eq_empty (h : s.Accounted opened) (hnone : ∀ j, opened j = none) :
    s.reserved = Table.empty := by
  refine Table.ext fun code => ?_
  rw [Table.get?_empty]
  cases hr : s.reserved.get? code with
  | none => rfl
  | some holder =>
    obtain ⟨j, ux, hu, _⟩ := h code holder hr
    rw [hnone j] at hu
    cases hu

end Accounted

end SymbolRelay.Store
