import SymbolRelay.Proofs.Service.Standing
import SymbolRelay.Service.Traffic

/-!
# What holds of calls under way together

Whatever the moves, and in whatever order they come: each call goes its own way through its steps, and what
the others do in between it does not see. So all that is to be shown is what one step keeps, with any
transactions of others open beside it.

## Results

* `lawful_run` — after any moves every call stands where its own deeds have brought it, the store is
  sound for all transactions that are open, every reservation is accounted for, and the log is what the
  calls told, in the order in which they told it;
* `Lawful.unreserved` — nothing is reserved for a transaction that a call has ended.
-/

set_option autoImplicit false

namespace SymbolRelay

variable {ξ : Type}

/-- Nothing from outside gets into the log. -/
theorem Disturbance.log_act (disturbance : Disturbance) (w : World ξ) :
    (disturbance.act w).queue.log = w.queue.log := by
  cases disturbance with
  | close =>
    simp only [act, Queue.close]
    split <;> rfl
  | cancel _ | reject _ | refuse _ | tick _ => rfl

namespace Traffic

/-- What holds of calls that are under way together, since they began in some world. -/
structure Lawful [BinaryFormat] (start : World ξ) (t : Traffic ξ) : Prop where
  sound : t.world.store.Sound t.tx?
  accounted : t.world.store.Accounted t.tx?
  standing : ∀ k c, t.callers[k]? = some c → Standing c.what (t.deedsOf k) c.call
  known : ∀ d ∈ t.deeds, d.caller < t.callers.length
  log : t.world.queue.log = start.queue.log ++ t.deeds.flatMap Deed.told
  past : ∀ d ∈ t.deeds, ∀ id ∈ d.opened, id < t.world.store.nextTransaction
  own : ∀ d ∈ t.deeds, ∀ e ∈ t.deeds, ∀ id, id ∈ d.opened → id ∈ e.opened → d.caller = e.caller
  rows : ∀ d ∈ t.deeds, d.commits = false → d.after.store.rows = d.before.store.rows

/-- A store that nobody uses at the moment. -/
structure AtRest (s : Store) : Prop where
  keyed : RowsKeyed s.rows
  distinct : CodesDistinct s.rows
  unreserved : s.reserved = Table.empty

theorem AtRest.of_empty {s : Store} (rows : s.rows = Table.empty) (reserved : s.reserved = Table.empty) :
    AtRest s where
  keyed := fun id row hrow => by
    rw [rows] at hrow
    cases hrow
  distinct := fun i j row other hrow => by
    rw [rows] at hrow
    cases hrow
  unreserved := reserved

/-- A store that nobody uses is sound for no transactions. -/
theorem AtRest.sound {ι : Type} {s : Store} (h : AtRest s) {opened : ι → Option Transaction}
    (none : ∀ i, opened i = none) : s.Sound opened where
  keyed := h.keyed
  distinct := h.distinct
  stagedKeyed := fun i _ hn => by
    rw [none i] at hn
    cases hn
  issued := fun i _ hn => by
    rw [none i] at hn
    cases hn
  unique := fun i _ _ _ hn => by
    rw [none i] at hn
    cases hn
  backed := fun i _ hn => by
    rw [none i] at hn
    cases hn

/-! ### Callers -/

/-- Whoever calls after a new call has called before, or is the new one. -/
theorem callers_call [BinaryFormat] {s : SymbolService ξ Transaction} {t : Traffic ξ} {ctx : Context}
    {what : Write} {k : Nat} {c : Caller} (h : (t.move s (.call ctx what)).callers[k]? = some c) :
    t.callers[k]? = some c ∨ (t.callers.length ≤ k ∧ c = ⟨ctx, what, s.start what⟩) := by
  simp only [move, List.getElem?_append] at h
  split at h
  · exact .inl h
  · rename_i hk
    have hmem := List.mem_of_getElem? h
    rw [List.mem_singleton] at hmem
    exact .inr ⟨Nat.not_lt.mp hk, hmem⟩

/-- What is at a place of a list of which one place was changed. -/
theorem callers_set {callers : List Caller} {k j : Nat} {c c' : Caller}
    (h : (callers.set k c)[j]? = some c') : (j = k ∧ c' = c) ∨ (j ≠ k ∧ callers[j]? = some c') := by
  rw [List.getElem?_set] at h
  split at h
  · rename_i hkj
    split at h
    · cases h
      exact .inl ⟨hkj.symm, rfl⟩
    · cases h
  · rename_i hkj
    exact .inr ⟨Ne.symm hkj, h⟩

theorem mem_callers_set {callers : List Caller} {k : Nat} {c : Caller} (hc : callers[k]? = some c)
    (now : Caller) : now ∈ callers.set k now :=
  List.mem_of_getElem? (List.getElem?_set_self (List.getElem?_eq_some_iff.mp hc).1)

/-- Whoever has called is still there after a place was changed, but for the one at that place. -/
theorem eq_or_mem_callers_set {callers : List Caller} {k : Nat} {c c' : Caller}
    (hc : callers[k]? = some c) (now : Caller) (h : c' ∈ callers) :
    c' = c ∨ c' ∈ callers.set k now := by
  obtain ⟨j, hj⟩ := List.getElem?_of_mem h
  by_cases hjk : j = k
  · subst hjk
    exact .inl (Option.some.inj (hj.symm.trans hc))
  · refine .inr (List.mem_of_getElem? (i := j) ?_)
    rw [List.getElem?_set_ne (Ne.symm hjk)]
    exact hj

namespace Lawful

variable {codec : Codec} {start : World ξ} {t : Traffic ξ}

theorem atStart [BinaryFormat] (h : AtRest start.store) : Lawful start { world := start } where
  sound := h.sound fun _ => rfl
  accounted := .of_empty h.unreserved
  standing := fun _ _ hn => by cases hn
  known := fun _ hn => by cases hn
  log := (List.append_nil _).symm
  past := fun _ hn => by cases hn
  own := fun _ hn => by cases hn
  rows := fun _ hn => by cases hn

theorem disturb [BinaryFormat] (h : Lawful start t) (disturbance : Disturbance) :
    Lawful start { t with world := disturbance.act t.world } := by
  have hstore : (disturbance.act t.world).store.rows = t.world.store.rows ∧
      (disturbance.act t.world).store.reserved = t.world.store.reserved ∧
      (disturbance.act t.world).store.nextTransaction = t.world.store.nextTransaction := by
    cases disturbance <;> exact ⟨rfl, rfl, rfl⟩
  obtain ⟨hrows, hreserved, hnext⟩ := hstore
  refine ⟨h.sound.congr hrows hreserved hnext, ?_, h.standing, h.known,
    (disturbance.log_act t.world).trans h.log, ?_, h.own, h.rows⟩
  · intro code holder hr
    rw [hreserved] at hr
    exact h.accounted code holder hr
  · intro d hd id hid
    rw [hnext]
    exact h.past d hd id hid

theorem tx?_call [BinaryFormat] (s : SymbolService ξ Transaction) (t : Traffic ξ) (ctx : Context)
    (what : Write) :
    (t.move s (.call ctx what)).tx? = t.tx? := by
  have hnone : (s.start what).tx? = none := by
    rcases s.start_cases what with ⟨_, h⟩ | ⟨_, _, h⟩ | ⟨_, _, h⟩ <;> rw [h] <;> rfl
  funext k
  cases hk : (t.move s (.call ctx what)).callers[k]? with
  | none =>
    have hold : t.callers[k]? = none := by
      have hlength := List.getElem?_eq_none_iff.mp hk
      simp only [move, List.length_append] at hlength
      exact List.getElem?_eq_none (by omega)
    rw [tx?, hk, tx?, hold]
  | some c =>
    rcases callers_call hk with hold | ⟨hlength, rfl⟩
    · rw [tx?, hk, tx?, hold]
    · rw [tx?, hk, Option.bind_some, tx?, List.getElem?_eq_none hlength]
      exact hnone

/-- Whoever has not called yet has no deeds. -/
theorem deedsOf_eq_nil [BinaryFormat] (h : Lawful start t) {k : Nat} (hk : t.callers.length ≤ k) :
    t.deedsOf k = [] := by
  rw [deedsOf, List.filter_eq_nil_iff]
  intro d hd he
  have hlt := h.known d hd
  rw [of_decide_eq_true he] at hlt
  omega

theorem call [BinaryFormat] (h : Lawful start t) (s : SymbolService ξ Transaction) (ctx : Context)
    (what : Write) :
    Lawful start (t.move s (.call ctx what)) := by
  refine ⟨?_, ?_, ?_, ?_, h.log, h.past, h.own, h.rows⟩
  · rw [tx?_call]
    exact h.sound
  · rw [tx?_call]
    exact h.accounted
  · intro k c hc
    rcases callers_call hc with hold | ⟨hlength, rfl⟩
    · exact h.standing k c hold
    · have hstart := Standing.start s what
      rw [← h.deedsOf_eq_nil hlength] at hstart
      exact hstart
  · intro d hd
    have hlt := h.known d hd
    simp only [move, List.length_append, List.length_singleton]
    omega

/-- The transactions that are open after a step differ only in that of the caller. -/
theorem replaces_step {k : Nat} {c : Caller} (hc : t.callers[k]? = some c) (call : Call Transaction)
    (world : World ξ) (deeds : List (Deed ξ)) :
    Replaces t.tx? (⟨world, t.callers.set k { c with call }, deeds⟩ : Traffic ξ).tx? k call.tx? := by
  obtain ⟨hk, _⟩ := List.getElem?_eq_some_iff.mp hc
  refine ⟨?_, ?_⟩
  · simp only [tx?, List.getElem?_set, if_pos hk, if_pos, Option.bind_some]
  · intro j hj
    simp only [tx?, List.getElem?_set, if_neg (Ne.symm hj)]

theorem deedsOf_snoc (t : Traffic ξ) (world : World ξ) (callers : List Caller) (d : Deed ξ) (j : Nat) :
    (⟨world, callers, t.deeds ++ [d]⟩ : Traffic ξ).deedsOf j =
      if d.caller = j then t.deedsOf j ++ [d] else t.deedsOf j := by
  simp only [deedsOf, List.filter_append, List.filter_cons, List.filter_nil]
  by_cases hj : d.caller = j <;> simp [hj]

/-- A step keeps all that holds of calls under way together. -/
theorem step [BinaryFormat] [IdSource] (h : Lawful start t) {k : Nat} {c : Caller}
    (hc : t.callers[k]? = some c) {call : Call Transaction} {world : World ξ}
    (hs : SymbolService.StepsTo codec c.ctx c.call t.world call world) :
    Lawful start ⟨world, t.callers.set k { c with call }, t.deeds ++ [⟨k, t.world, world⟩]⟩ := by
  have hstanding := h.standing k c hc
  have hi : t.tx? k = c.call.tx? := by rw [tx?, hc, Option.bind_some]
  have hr := replaces_step hc call world (t.deeds ++ [⟨k, t.world, world⟩])
  have hnext := hs.nextTransaction_le hstanding
  obtain ⟨hk, _⟩ := List.getElem?_eq_some_iff.mp hc
  refine ⟨hs.sound hstanding h.sound hi hr, hs.accounted hstanding h.accounted hi hr, ?_, ?_, ?_, ?_, ?_,
    ?_⟩
  · intro j c' hj
    simp only [List.getElem?_set] at hj
    rw [deedsOf_snoc]
    split at hj
    · rename_i hkj
      subst hkj
      cases hj
      rw [if_pos rfl]
      exact hstanding.step k h.sound.keyed hs
    · rename_i hkj
      rw [if_neg hkj]
      exact h.standing j c' hj
  · intro d hd
    rw [List.length_set]
    rcases List.mem_append.mp hd with hd | hd
    · exact h.known d hd
    · rw [List.mem_singleton] at hd
      rw [hd]
      exact hk
  · rw [hs.log k, h.log, List.flatMap_append, List.flatMap_singleton, List.append_assoc]
  · intro d hd id hid
    rcases List.mem_append.mp hd with hd | hd
    · exact Nat.lt_of_lt_of_le (h.past d hd id hid) hnext
    · rw [List.mem_singleton] at hd
      subst hd
      simp only [Deed.opened, List.mem_range'_1] at hid
      show id < world.store.nextTransaction
      omega
  · intro d hd e he id hid hie
    -- What was opened before is below the count, what is opened now is not.
    have new : ∀ f : Deed ξ, f ∈ t.deeds → id ∈ f.opened →
        id ∉ (⟨k, t.world, world⟩ : Deed ξ).opened := by
      intro f hf hif hin
      have hlt := h.past f hf id hif
      simp only [Deed.opened, List.mem_range'_1] at hin
      omega
    rcases List.mem_append.mp hd with hd | hd <;> rcases List.mem_append.mp he with he | he
    · exact h.own d hd e he id hid hie
    · rw [List.mem_singleton] at he
      subst he
      exact absurd hie (new d hd hid)
    · rw [List.mem_singleton] at hd
      subst hd
      exact absurd hid (new e he hie)
    · rw [List.mem_singleton] at hd he
      rw [hd, he]
  · intro d hd hcommits
    rcases List.mem_append.mp hd with hd | hd
    · exact h.rows d hd hcommits
    · rw [List.mem_singleton] at hd
      subst hd
      rcases hs.rows_cases hstanding with ⟨hrows, _⟩ | ⟨_, _, _, _, _, hcommitted⟩
      · exact hrows
      · cases hcommits.symm.trans (Deed.commits_eq_true hcommitted)

theorem mem_deedsOf {k : Nat} {d : Deed ξ} : d ∈ t.deedsOf k ↔ d ∈ t.deeds ∧ d.caller = k := by
  simp [deedsOf]

/-- Nothing is reserved for a transaction that an ended call had opened. -/
theorem unreserved [BinaryFormat] (h : Lawful start t) {k : Nat} (hk : t.tx? k = none) {code : String}
    {holder : Nat} (hr : t.world.store.reserved.get? code = some holder) : holder ∉ t.opened k := by
  intro hopened
  obtain ⟨j, ux, hu, rfl, _, _⟩ := h.accounted code holder hr
  obtain ⟨c, hc, htx⟩ := Option.bind_eq_some_iff.mp hu
  have hone := (h.standing j c hc).opened_of_tx? htx
  have hj : ux.id ∈ (t.deedsOf j).flatMap Deed.opened := by
    rw [hone]
    exact List.mem_singleton_self _
  obtain ⟨d, hd, hid⟩ := List.mem_flatMap.mp hj
  obtain ⟨e, he, hie⟩ := List.mem_flatMap.mp hopened
  rw [mem_deedsOf] at hd he
  have hjk := h.own d hd.1 e he.1 ux.id hid hie
  rw [hd.2, he.2] at hjk
  rw [← hjk, hu] at hk
  cases hk

end Lawful

/-- An induction along a run, done once for every invariant: it holds at the start, and is kept by new
calls, disturbances and steps of calls that are ready. -/
theorem run_induction [BinaryFormat] [IdSource] (codec : Codec)
    (validator : Symbol → Except ValidationError Unit)
    {start : World ξ} (Inv : Traffic ξ → Prop) (first : Inv { world := start })
    (call : ∀ t ctx what, Inv t → Inv (t.move (SymbolService.direct codec validator) (.call ctx what)))
    (disturb : ∀ (t : Traffic ξ) (disturbance : Disturbance), Inv t →
      Inv { t with world := disturbance.act t.world })
    (ready : ∀ (t : Traffic ξ) (k : Nat) (c : Caller), Inv t → t.callers[k]? = some c → c.call.Ready)
    (step : ∀ (t : Traffic ξ) (k : Nat) (c : Caller) call world, Inv t → t.callers[k]? = some c →
      SymbolService.StepsTo codec c.ctx c.call t.world call world →
        Inv ⟨world, t.callers.set k { c with call }, t.deeds ++ [⟨k, t.world, world⟩]⟩)
    (moves : List Move) : Inv (run (SymbolService.direct codec validator) start moves) := by
  have next : ∀ t m, Inv t → Inv (t.move (SymbolService.direct codec validator) m) := by
    intro t m h
    cases m with
    | call ctx what => exact call t ctx what h
    | disturb disturbance => exact disturb t disturbance h
    | step k =>
      simp only [move]
      split
      · exact h
      · rename_i c hc
        exact step t k c _ _ h hc
          (SymbolService.stepsTo codec validator c.ctx (ready t k c h hc) t.world)
  have fold : ∀ (moves : List Move) (t : Traffic ξ), Inv t →
      Inv (moves.foldl (move (SymbolService.direct codec validator)) t) := by
    intro moves
    induction moves with
    | nil => exact fun _ h => h
    | cons m moves ih => exact fun t h => ih _ (next t m h)
  exact fold moves _ first

/-- **Whatever the moves and their order, calls under way together stay lawful.** -/
theorem lawful_run [BinaryFormat] [IdSource] (codec : Codec)
    (validator : Symbol → Except ValidationError Unit) {start : World ξ} (h : AtRest start.store)
    (moves : List Move) :
    Lawful start (run (SymbolService.direct codec validator) start moves) := by
  refine run_induction codec validator (Lawful start) (.atStart h) ?_ ?_ ?_ ?_ moves
  · intro t ctx what h
    exact h.call _ ctx what
  · intro t disturbance h
    exact h.disturb disturbance
  · intro t k c h hc
    exact (h.standing k c hc).ready
  · intro t k c call world h hc hs
    exact h.step hc hs

end Traffic

end SymbolRelay
