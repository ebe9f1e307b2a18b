import SymbolRelay.Proofs.Service.Failures
import SymbolRelay.Standin.Compact
import SymbolRelay.Standin.NumberedIds

/-!
# A write is carried out and told about, or neither

Calls of any number of clients under way together, cut into their steps and mixed with disturbances at
will: a call that ended well has committed its write and told about it, each once, and one that failed
has done neither and left nothing behind. Of creations that contend for a code one succeeds at most, and
one does if none of them was hindered.

## Results

* `all_or_nothing` — this, for every order of steps and every prefix of it.
-/

set_option autoImplicit false

namespace SymbolRelay.Traffic

variable {ξ : Type}

/-- What a call that ended well comes to: one event that tells of the symbol, and one commit of it. -/
structure CarriedOut [BinaryFormat] (t : Traffic ξ) (k : Nat) (what : Write) (written : Symbol) : Prop where
  yields : what.Yields written
  told : ∃ m, t.told k = [(what.kind.topic, m)] ∧ m.TellsOf what written
  applied : ∃ d, t.commits k = [d] ∧
    d.after.store.rows = Store.applyWrite d.before.store.rows written.id (what.leaves written)

/-- What a call that failed comes to. -/
structure LeftNoTrace (t : Traffic ξ) (k : Nat) : Prop where
  untold : t.told k = []
  uncommitted : t.commits k = []
  unchanged : ∀ d ∈ t.deedsOf k, d.after.store.rows = d.before.store.rows
  unreserved : ∀ code holder, t.world.store.reserved.get? code = some holder → holder ∉ t.opened k

/-- Whether a call created a symbol with a code. -/
def Won (t : Traffic ξ) (code : String) (k : Nat) : Prop :=
  ∃ c written, t.callers[k]? = some c ∧ c.call = .ended (.ok written) ∧ written.code = code

/-- Whether every call has returned. -/
def Settled (t : Traffic ξ) : Prop := ∀ c ∈ t.callers, ∃ outcome, c.call = .ended outcome

namespace Lawful

variable {start : World ξ} {t : Traffic ξ} {k : Nat} {c : Caller}

theorem carriedOut [BinaryFormat] (h : Lawful start t) (hc : t.callers[k]? = some c) {written : Symbol}
    (hended : c.call = .ended (.ok written)) : t.CarriedOut k c.what written := by
  have hs := h.standing k c hc
  rw [hended] at hs
  obtain ⟨yields, m, opened, d, htells, hd, hrows⟩ := hs
  exact ⟨yields, ⟨m, hd.told, htells⟩, ⟨d, hd.commits, hrows⟩⟩

theorem leftNoTrace [BinaryFormat] (h : Lawful start t) (hc : t.callers[k]? = some c) {e : DomainError}
    (hended : c.call = .ended (.error e)) : t.LeftNoTrace k := by
  have hs := h.standing k c hc
  have htx : t.tx? k = none := by
    rw [tx?, hc, Option.bind_some, hended]
    rfl
  rw [hended] at hs
  obtain ⟨opened, issued, hd⟩ := hs
  refine ⟨hd.told, hd.commits, fun d hmem => ?_, fun code holder => h.unreserved htx⟩
  refine h.rows d (mem_deedsOf.mp hmem).1 ?_
  exact Bool.eq_false_iff.mpr (List.filter_eq_nil_iff.mp hd.commits d hmem)

/-- **A call that has returned was carried out and told about, or left no trace.** -/
theorem returned [BinaryFormat] (h : Lawful start t) (hc : t.callers[k]? = some c)
    {outcome : Outcome DomainError Symbol} (hended : c.call = .ended outcome) :
    (∃ written, outcome = .ok written ∧ t.CarriedOut k c.what written) ∨
      ∃ e, outcome = .error e ∧ t.LeftNoTrace k := by
  cases outcome with
  | ok written => exact .inl ⟨written, rfl, h.carriedOut hc hended⟩
  | error e => exact .inr ⟨e, rfl, h.leftNoTrace hc hended⟩
  | panic p =>
    have hs := h.standing k c hc
    rw [hended] at hs
    exact hs.elim

end Lawful

namespace Decided

variable {validator : Symbol → Except ValidationError Unit} {start : World ξ} {t : Traffic ξ}
  {code : String}

theorem eq_of_won [BinaryFormat] (h : Decided validator start t) (only : t.OnlyCreates)
    (few : t.callers.length ≤ 2 ^ 64) {j k : Nat} (hj : t.Won code j) (hk : t.Won code k) : j = k := by
  obtain ⟨cj, a, hcj, ha, rfl⟩ := hj
  obtain ⟨ck, b, hck, hb, hcode⟩ := hk
  exact h.contended.eq_of_promised only few hcj hck (by rw [ha]; rfl) (by rw [hb]; rfl) hcode.symm

/-- Once all calls have returned a valid creation with a free code has not lost it to nobody. -/
theorem exists_won [BinaryFormat] (h : Decided validator start t) (only : t.OnlyCreates) (settled : t.Settled)
    (free : ∀ id row, start.store.rows.get? id = some row → row.code ≠ code)
    (unhindered : t.Unhindered code) {c : Caller} (hc : c ∈ t.callers) {symbol : Symbol}
    (hwhat : c.what = .create symbol) (hcode : symbol.code = code) (hvalid : validator symbol = .ok ()) :
    ∃ k, t.Won code k := by
  have won : t.Promised code → ∃ k, t.Won code k := by
    rintro ⟨c', hc', written, hp, hw⟩
    obtain ⟨k, hk⟩ := List.getElem?_of_mem hc'
    obtain ⟨outcome, hended⟩ := settled c' hc'
    refine ⟨k, c', written, hk, ?_, hw⟩
    rw [hended] at hp ⊢
    cases outcome with
    | ok _ =>
      cases hp
      rfl
    | error _ | panic _ => cases hp
  obtain ⟨k, hk⟩ := List.getElem?_of_mem hc
  obtain ⟨outcome, hended⟩ := settled c hc
  obtain ⟨written, rfl, hdone⟩ | ⟨e, rfl, _⟩ := h.contended.lawful.returned hk hended
  · have hyields := hdone.yields
    rw [hwhat] at hyields
    obtain ⟨_, _, _, rfl⟩ := hyields
    exact ⟨k, c, _, hk, hended, hcode⟩
  · exact won (h.claimed code free only unhindered c hc symbol hwhat hcode hvalid (by
      rw [hended]
      exact Option.some_ne_none e))

end Decided

/-- **Whatever the order of their steps and the disturbances in between**, the log holds what the calls
told and nothing else; a call that has returned ended well exactly if it has told one event and made one
commit, and then they are those of its own write, while one that failed left no trace; of creations at
most one wins a code, and exactly one of those that want a free code if none of these failed for a
passing reason; and whoever fails for such a reason was hindered at one of its steps. An id is given out
twice only after as many creations as there are ids. -/
theorem all_or_nothing [BinaryFormat] [IdSource] (codec : Codec)
    (validator : Symbol → Except ValidationError Unit) {start : World ξ} (atRest : AtRest start.store)
    (moves : List Move) :
    let t := run (SymbolService.direct codec validator) start moves
    t.world.queue.log = start.queue.log ++ t.deeds.flatMap Deed.told ∧
    (∀ k c outcome, t.callers[k]? = some c → c.call = .ended outcome →
      ((∃ written, outcome = .ok written) ↔ (t.told k).length = 1 ∧ (t.commits k).length = 1) ∧
      (∀ written, outcome = .ok written → t.CarriedOut k c.what written) ∧
      ((¬ ∃ written, outcome = .ok written) → (∃ e, outcome = .error e) ∧ t.LeftNoTrace k)) ∧
    (∀ code, t.OnlyCreates →
      (t.callers.length ≤ 2 ^ 64 → ∀ j k, t.Won code j → t.Won code k → j = k) ∧
      ((∀ id row, start.store.rows.get? id = some row → row.code ≠ code) → t.Settled →
        t.Unhindered code →
        (∃ c ∈ t.callers, ∃ symbol, c.what = .create symbol ∧ symbol.code = code ∧
          validator symbol = .ok ()) →
        ∃ k, t.Won code k)) ∧
    (∀ k c e, t.callers[k]? = some c → c.call = .ended (.error e) → e.isRetryable = true →
      ∃ d ∈ t.deedsOf k, Hindered c.ctx d.before) := by
  intro t
  have decided : Decided validator start t := decided_run codec validator atRest moves
  have lawful := decided.contended.lawful
  refine ⟨lawful.log, ?_, ?_, ?_⟩
  · intro k c outcome hc hended
    obtain ⟨written, rfl, hdone⟩ | ⟨e, rfl, hfailed⟩ := lawful.returned hc hended
    · obtain ⟨m, htold, _⟩ := hdone.told
      obtain ⟨d, hcommits, _⟩ := hdone.applied
      refine ⟨⟨fun _ => ?_, fun _ => ⟨written, rfl⟩⟩, ?_, fun hn => absurd ⟨written, rfl⟩ hn⟩
      · rw [htold, hcommits]
        exact ⟨rfl, rfl⟩
      · rintro _ ⟨⟩
        exact hdone
    · refine ⟨⟨?_, fun h => ?_⟩, ?_, fun _ => ⟨⟨e, rfl⟩, hfailed⟩⟩
      · rintro ⟨_, ⟨⟩⟩
      · rw [hfailed.untold] at h
        cases h.1
      · rintro _ ⟨⟩
  · intro code only
    refine ⟨fun few j k hj hk => decided.eq_of_won only few hj hk, ?_⟩
    rintro free settled unhindered ⟨c, hc, symbol, hwhat, hcode, hvalid⟩
    exact decided.exists_won only settled free unhindered hc hwhat hcode hvalid
  · intro k c e hc hended hr
    exact decided.explained k c e hc (by rw [hended]; rfl) hr

/-- Two clients create a symbol with the same code at a time. The store refuses commits as soon as it has
voted for the first one, whose context is cancelled as well. -/
def racingCreations : List Move :=
  let bitcoin : Symbol := ⟨0, "Bitcoin", "BTC", "", .epoch, .epoch⟩
  let first : Context := { scope := 1 }
  let second : Context := { scope := 2 }
  [.call first (.create bitcoin), .call second (.create bitcoin), .step 0, .step 1, .step 0, .step 0,
    .disturb (.refuse true), .disturb (.cancel first), .step 1, .step 0, .step 1, .step 0]

/-- The world in which they do so. -/
def quietWorld : World Unit := { scopes := { next := 3 }, extra := () }

theorem racingCreations_callers :
    (run (SymbolService.direct .default Symbol.validate) quietWorld racingCreations).callers =
      [⟨{ scope := 1 }, .create ⟨0, "Bitcoin", "BTC", "", .epoch, .epoch⟩,
          .ended (.ok ⟨1, "Bitcoin", "BTC", "", .epoch, .epoch⟩)⟩,
        ⟨{ scope := 2 }, .create ⟨0, "Bitcoin", "BTC", "", .epoch, .epoch⟩,
          .ended (.error .duplicate)⟩] := rfl

theorem racingCreations_one_wins :
    let t := run (SymbolService.direct .default Symbol.validate) quietWorld racingCreations
    AtRest quietWorld.store ∧ t.OnlyCreates ∧ t.Settled ∧ t.Unhindered "BTC" ∧
      (∃ k, t.Won "BTC" k) ∧ ∀ j k, t.Won "BTC" j → t.Won "BTC" k → j = k := by
  intro t
  have callers := racingCreations_callers
  have atRest : AtRest quietWorld.store := .of_empty rfl rfl
  have only : t.OnlyCreates := by
    intro c hc
    simp only [t, callers, List.mem_cons, List.not_mem_nil, or_false] at hc
    rcases hc with rfl | rfl <;> exact ⟨_, rfl⟩
  have settled : t.Settled := by
    intro c hc
    simp only [t, callers, List.mem_cons, List.not_mem_nil, or_false] at hc
    rcases hc with rfl | rfl <;> exact ⟨_, rfl⟩
  have unhindered : t.Unhindered "BTC" := by
    intro c hc symbol e _ _ hf
    simp only [t, callers, List.mem_cons, List.not_mem_nil, or_false] at hc
    rcases hc with rfl | rfl
    · cases hf
    · cases hf
      rfl
  have wanted : ∃ c ∈ t.callers, ∃ symbol, c.what = .create symbol ∧ symbol.code = "BTC" ∧
      Symbol.validate symbol = .ok () := by
    simp only [t, callers]
    exact ⟨_, List.mem_cons_self, _, rfl, rfl, by cbv⟩
  have few : t.callers.length ≤ 2 ^ 64 := by
    simp [t, callers]
  obtain ⟨_, _, contest, _⟩ := all_or_nothing .default Symbol.validate atRest racingCreations
  obtain ⟨unique, wins⟩ := contest "BTC" only
  exact ⟨atRest, only, settled, unhindered, wins (fun _ _ hn => by cases hn) settled unhindered wanted,
    unique few⟩

end SymbolRelay.Traffic
