import SymbolRelay.Proofs.Service.Numbering

/-!
# Creations that contend for a code

Calls that create symbols with one code exclude each other by what the store holds for them: a
reservation from the vote to the commit, a row from then on. Whoever fails over the code does so because
somebody else has it, unless something came in between from outside.

## Results

* `Contended.eq_of_promised` — at most one call was voted for with a code;
* `Contended.step` — every step keeps what holds while symbols are only created.
-/

set_option autoImplicit false

namespace SymbolRelay

variable {ξ : Type}

/-- The symbol that a call was voted for with, and has not failed with since. -/
def Call.promised? : Call Transaction → Option Symbol
  | .publish _ written _ => some written
  | .leave (.ok written) _ => some written
  | .ended (.ok written) => some written
  | _ => none

/-- What a call fails with, as soon as it is clear. -/
def Call.failure? : Call Transaction → Option DomainError
  | .leave (.error e) _ => some e.toDomain
  | .ended (.error e) => some e
  | _ => none

namespace Traffic

/-- Whether nobody but those who create symbols has called. -/
def OnlyCreates (t : Traffic ξ) : Prop := ∀ c ∈ t.callers, ∃ symbol, c.what = .create symbol

theorem onlyCreates_of_step {t : Traffic ξ} {k : Nat} {c : Caller} (hc : t.callers[k]? = some c)
    {call : Call Transaction} {world : World ξ} {deeds : List (Deed ξ)}
    (h : OnlyCreates ⟨world, t.callers.set k { c with call }, deeds⟩) : t.OnlyCreates := by
  intro c' hc'
  rcases eq_or_mem_callers_set hc { c with call } hc' with rfl | hmem
  · exact h { c' with call } (mem_callers_set hc _)
  · exact h c' hmem

/-- What holds while symbols are only created: what was created is still there, and whatever is there
was there at the start or was created. -/
structure Contended [BinaryFormat] (start : World ξ) (t : Traffic ξ) : Prop where
  lawful : Lawful start t
  numbered : ∃ m, Numbered start.store.nextId t m
  kept : t.OnlyCreates → t.callers.length ≤ 2 ^ 64 → ∀ (k : Nat) (c : Caller) (written : Symbol),
    t.callers[k]? = some c → c.call = .ended (.ok written) →
      t.world.store.rows.get? written.id = some written
  sourced : t.OnlyCreates → ∀ id row, t.world.store.rows.get? id = some row →
    start.store.rows.get? id = some row ∨ ∃ c ∈ t.callers, c.call = Call.ended (.ok row)

namespace Contended

variable {codec : Codec} {start : World ξ} {t : Traffic ξ}

theorem atStart [BinaryFormat] (h : AtRest start.store) : Contended start { world := start } where
  lawful := Lawful.atStart h
  numbered := ⟨0, Numbered.atStart start⟩
  kept := fun _ _ _ _ _ hn => by cases hn
  sourced := fun _ _ _ hrow => .inl hrow

/-- The id of what a call created was given to it. -/
theorem issued_of_promised [BinaryFormat] {what : Write} {ds : List (Deed ξ)} {c : Call Transaction}
    {written : Symbol} (hs : Standing what ds c) (hp : c.promised? = some written) :
    ds.flatMap Deed.issued = what.issues written ∧ what.Yields written := by
  cases c with
  | publish kind symbol u =>
    cases hp
    exact ⟨hs.2.2.2.2.issued, hs.2.1.1⟩
  | leave outcome u =>
    cases outcome with
    | ok symbol =>
      cases hp
      obtain ⟨hholds, _, _, m, _, hd⟩ := hs
      exact ⟨hd.issued, hholds.1⟩
    | error _ | panic _ => cases hp
  | ended outcome =>
    cases outcome with
    | ok symbol =>
      cases hp
      obtain ⟨hyields, m, opened, d, _, hd, _⟩ := hs
      exact ⟨hd.issued, hyields⟩
    | error _ | panic _ => cases hp
  | lookup _ | begin _ | stage _ _ | prepare _ _ _ => cases hp

/-- Two calls that were voted for with a creation have different ids. -/
theorem ids_ne [BinaryFormat] (h : Contended start t) (only : t.OnlyCreates) (few : t.callers.length ≤ 2 ^ 64)
    {j k : Nat} (hjk : j ≠ k) {cj ck : Caller} (hj : t.callers[j]? = some cj)
    (hk : t.callers[k]? = some ck) {a b : Symbol} (ha : cj.call.promised? = some a)
    (hb : ck.call.promised? = some b) : a.id ≠ b.id := by
  intro hid
  obtain ⟨m, hm⟩ := h.numbered
  obtain ⟨sj, hsj⟩ := only cj (List.mem_of_getElem? hj)
  obtain ⟨sk, hsk⟩ := only ck (List.mem_of_getElem? hk)
  have hja := (issued_of_promised (h.lawful.standing j cj hj) ha).1
  have hkb := (issued_of_promised (h.lawful.standing k ck hk) hb).1
  rw [hsj] at hja
  rw [hsk] at hkb
  refine hm.ids_disjoint few hjk (?_ : a.id ∈ _) ?_
  · rw [hja]
    exact List.mem_singleton_self _
  · rw [hkb, hid]
    exact List.mem_singleton_self _

/-- A call that was voted for is backed by the store until it is over. -/
theorem backed_of_promised [BinaryFormat] (h : Contended start t) {k : Nat} {c : Caller}
    (hc : t.callers[k]? = some c) {written : Symbol} (hp : c.call.promised? = some written) :
    c.call = .ended (.ok written) ∨
      ∃ tx, t.tx? k = some tx ∧ tx.prepared = true ∧ tx.Holds c.what written := by
  have hs := h.lawful.standing k c hc
  have htx : t.tx? k = c.call.tx? := by rw [tx?, hc, Option.bind_some]
  cases hcall : c.call with
  | publish kind symbol u =>
    rw [hcall] at hs hp htx
    cases hp
    exact .inr ⟨u.tx, htx, hs.2.2.1, hs.2.1⟩
  | leave outcome u =>
    rw [hcall] at hs hp htx
    cases outcome with
    | ok symbol =>
      cases hp
      exact .inr ⟨u.tx, htx, hs.2.1, hs.1⟩
    | error _ | panic _ => cases hp
  | ended outcome =>
    rw [hcall] at hp
    cases outcome with
    | ok symbol =>
      cases hp
      exact .inl rfl
    | error _ | panic _ => cases hp
  | lookup _ | begin _ | stage _ _ | prepare _ _ _ =>
    rw [hcall] at hp
    cases hp

theorem written?_of_holds {tx : Transaction} {what : Write} {written wanted : Symbol}
    (hw : what = .create wanted) (h : tx.Holds what written) :
    tx.written? written.id = some written := by
  rw [Transaction.written?, h.2, Table.get?_insert_self, hw]
  rfl

/-- A creation that is over and one that is voted for do not share a code. -/
theorem code_ne_of_over [BinaryFormat] (h : Contended start t) (only : t.OnlyCreates)
    (few : t.callers.length ≤ 2 ^ 64) {j k : Nat} (hjk : j ≠ k) {cj ck : Caller}
    (hj : t.callers[j]? = some cj) (hk : t.callers[k]? = some ck) {a b : Symbol}
    (ha : cj.call = .ended (.ok a)) {tx : Transaction} (hb : ck.call.promised? = some b)
    (htx : t.tx? k = some tx) (hp : tx.prepared = true) (hholds : tx.Holds ck.what b) :
    a.code ≠ b.code := by
  intro hcode
  obtain ⟨sk, hsk⟩ := only ck (List.mem_of_getElem? hk)
  have hrow := h.kept only few j cj a hj ha
  have hne := h.ids_ne only few hjk hj hk (by rw [ha]; rfl) hb
  have hstaged := (h.lawful.sound.backed k tx htx hp).covers a.id a hrow
    ⟨b.id, b, written?_of_holds hsk hholds, hcode.symm⟩
  rw [Table.contains_iff, hholds.2] at hstaged
  obtain ⟨write, hget⟩ := hstaged
  rw [Table.get?_insert_eq, if_neg hne] at hget
  cases hget

/-- **At most one call was voted for with a code.** -/
theorem eq_of_promised [BinaryFormat] (h : Contended start t) (only : t.OnlyCreates)
    (few : t.callers.length ≤ 2 ^ 64) {j k : Nat} {cj ck : Caller} (hj : t.callers[j]? = some cj)
    (hk : t.callers[k]? = some ck) {a b : Symbol} (ha : cj.call.promised? = some a)
    (hb : ck.call.promised? = some b) (hcode : a.code = b.code) : j = k := by
  refine Classical.byContradiction fun hjk => ?_
  obtain ⟨sj, hsj⟩ := only cj (List.mem_of_getElem? hj)
  obtain ⟨sk, hsk⟩ := only ck (List.mem_of_getElem? hk)
  obtain hendedj | ⟨tx, htx, hpt, hta⟩ := h.backed_of_promised hj ha <;>
    obtain hendedk | ⟨ux, hux, hpu, hub⟩ := h.backed_of_promised hk hb
  · have hrowa := h.kept only few j cj a hj hendedj
    have hrowb := h.kept only few k ck b hk hendedk
    exact h.ids_ne only few hjk hj hk ha hb (h.lawful.sound.distinct a.id b.id a b hrowa hrowb hcode)
  · exact h.code_ne_of_over only few hjk hj hk hendedj hb hux hpu hub hcode
  · exact h.code_ne_of_over only few (Ne.symm hjk) hk hj hendedk ha htx hpt hta hcode.symm
  · have hids := h.lawful.sound.id_ne hux hjk htx
    have hbacks := h.lawful.sound.backed
    exact (hbacks j tx htx hpt).not_writes_both (hbacks k ux hux hpu) hids
      ⟨a.id, a, written?_of_holds hsj hta, hcode⟩ ⟨b.id, b, written?_of_holds hsk hub, rfl⟩

/-! ### Along a run -/

theorem promised?_start (s : SymbolService ξ Transaction) (what : Write) :
    (s.start what).promised? = none := by
  rcases s.start_cases what with ⟨_, h⟩ | ⟨_, _, h⟩ | ⟨_, _, h⟩ <;> rw [h] <;> rfl

theorem call [BinaryFormat] (h : Contended start t) (s : SymbolService ξ Transaction) (ctx : Context)
    (what : Write) :
    Contended start (t.move s (.call ctx what)) := by
  obtain ⟨m, hm⟩ := h.numbered
  have hold : (t.move s (.call ctx what)).OnlyCreates → t.OnlyCreates := fun only c hc =>
    only c (List.mem_append_left _ hc)
  refine ⟨h.lawful.call s ctx what, ⟨m, hm.call s ctx what⟩, ?_, ?_⟩
  · intro only few k c written hc hended
    simp only [move, List.length_append, List.length_singleton] at few
    rcases callers_call hc with hc | ⟨_, rfl⟩
    · exact h.kept (hold only) (by omega) k c written hc hended
    · have hnone := promised?_start s what
      have hended : s.start what = .ended (.ok written) := hended
      rw [hended] at hnone
      cases hnone
  · intro only id row hrow
    obtain hfirst | ⟨c, hc, hended⟩ := h.sourced (hold only) id row hrow
    · exact .inl hfirst
    · exact .inr ⟨c, List.mem_append_left _ hc, hended⟩

theorem disturb [BinaryFormat] (h : Contended start t) (disturbance : Disturbance) :
    Contended start { t with world := disturbance.act t.world } := by
  obtain ⟨m, hm⟩ := h.numbered
  have hrows : (disturbance.act t.world).store.rows = t.world.store.rows := by
    cases disturbance <;> rfl
  refine ⟨h.lawful.disturb disturbance, ⟨m, hm.disturb disturbance⟩, ?_, ?_⟩
  · intro only few k c written hc hended
    show (disturbance.act t.world).store.rows.get? written.id = some written
    rw [hrows]
    exact h.kept only few k c written hc hended
  · intro only id row hrow
    have hrow : (disturbance.act t.world).store.rows.get? id = some row := hrow
    rw [hrows] at hrow
    exact h.sourced only id row hrow

/-- A call that is over stays in the list as it is. -/
theorem ended_mem_of_step [BinaryFormat] [IdSource] {k : Nat} {c : Caller} (hc : t.callers[k]? = some c)
    {call : Call Transaction} {world : World ξ}
    (hs : SymbolService.StepsTo codec c.ctx c.call t.world call world)
    {outcome : Outcome DomainError Symbol} (h : ∃ c ∈ t.callers, c.call = Call.ended outcome) :
    ∃ c' ∈ t.callers.set k { c with call }, c'.call = Call.ended outcome := by
  obtain ⟨c', hmem, hended⟩ := h
  rcases eq_or_mem_callers_set hc { c with call } hmem with rfl | hmem
  · rw [hended] at hs
    cases hs
    exact ⟨_, mem_callers_set hc _, rfl⟩
  · exact ⟨c', hmem, hended⟩

theorem step [BinaryFormat] [IdSource] (h : Contended start t) {k : Nat} {c : Caller}
    (hc : t.callers[k]? = some c) {call : Call Transaction} {world : World ξ}
    (hs : SymbolService.StepsTo codec c.ctx c.call t.world call world) :
    Contended start ⟨world, t.callers.set k { c with call }, t.deeds ++ [⟨k, t.world, world⟩]⟩ := by
  obtain ⟨m, hm⟩ := h.numbered
  obtain ⟨hk, _⟩ := List.getElem?_eq_some_iff.mp hc
  have hrows := hs.rows_cases (h.lawful.standing k c hc)
  refine ⟨h.lawful.step hc hs, hm.step h.lawful hc hs, ?_, ?_⟩
  · intro only few j c' written hj hended
    rw [List.length_set] at few
    have honly := onlyCreates_of_step hc only
    obtain ⟨symbol, hwhat⟩ := honly c (List.mem_of_getElem? hc)
    show world.store.rows.get? written.id = some written
    rcases hrows with ⟨hsame, _, hstays⟩ | ⟨landed, u, hleave, hcall, hrows, _⟩
    · rw [hsame]
      rcases callers_set hj with ⟨rfl, rfl⟩ | ⟨_, hj⟩
      · exact h.kept honly few j c written hc (hstays written hended)
      · exact h.kept honly few j c' written hj hended
    · rw [hrows, hwhat, Store.get?_applyWrite]
      rcases callers_set hj with ⟨rfl, rfl⟩ | ⟨hjk, hj⟩
      · cases hcall.symm.trans hended
        rw [if_pos rfl]
        rfl
      · have hpromised : c'.call.promised? = some written := by
          rw [hended]
          rfl
        have hlanded : c.call.promised? = some landed := by
          rw [hleave]
          rfl
        have hne := h.ids_ne honly few hjk hj hc hpromised hlanded
        rw [if_neg hne]
        exact h.kept honly few j c' written hj hended
  · intro only id row hrow
    have honly := onlyCreates_of_step hc only
    obtain ⟨symbol, hwhat⟩ := honly c (List.mem_of_getElem? hc)
    have hrow : world.store.rows.get? id = some row := hrow
    have hold : t.world.store.rows.get? id = some row →
        start.store.rows.get? id = some row ∨
          ∃ c' ∈ t.callers.set k { c with call }, c'.call = Call.ended (.ok row) := fun hrow =>
      (h.sourced honly id row hrow).imp_right (ended_mem_of_step hc hs)
    rcases hrows with ⟨hsame, _⟩ | ⟨landed, u, _, hcall, hrows, _⟩
    · rw [hsame] at hrow
      exact hold hrow
    · rw [hrows, hwhat, Store.get?_applyWrite] at hrow
      split at hrow
      · cases hrow
        exact .inr ⟨{ c with call }, List.mem_of_getElem? (List.getElem?_set_self hk), hcall⟩
      · exact hold hrow

end Contended

end Traffic

end SymbolRelay
