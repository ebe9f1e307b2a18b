import Mathlib.Data.List.Permutation
import SymbolRelay.Proofs.Store.Turns

/-!
# Codes stay unique, and a vote is a promise

Between the vote for a transaction and its commit anything may happen at the desk: other transactions
stage, are voted for, commit and roll back, on the same rows or on others, and the store may begin to
refuse commits. None of it makes the commit fail, and no commit ever gives one code to two rows.

## Results

* `serve_commit_of_voted` — the commit of a voted transaction is served;
* `codes_unique_and_votes_kept` — the three guarantees, for every orderly run from an empty store.
-/

set_option autoImplicit false

namespace SymbolRelay.Desk

variable {d : Desk} {name : String} {tx : Transaction}

/-- A vote that was given is there to see. -/
theorem opened_of_prepare_done (h : (d.serve name .prepare).2 = some (.ok .done)) :
    ∃ ux, (d.take (.serve name .prepare)).opened.get? name = some ux ∧ ux.prepared = true := by
  simp only [take, serve_of_ne_begin (by decide : Demand.prepare ≠ .begin)] at h ⊢
  split at h
  · rename_i tx ho
    simp only [serveIn] at h ⊢
    split at h
    · cases h
    · rename_i ux store hp
      obtain ⟨_, _, heq⟩ := (Store.prepare_eq_ok_iff _ _ _).mp hp
      cases heq
      exact ⟨_, Table.get?_insert_self _ _ _, rfl⟩
  · cases h

theorem serve_commit_of_voted (ho : d.opened.get? name = some tx) (hp : tx.prepared = true) :
    (d.serve name .commit).2 = some (.ok .done) := by
  have hc : d.store.commit tx = .ok (d.store.apply tx) :=
    (Store.commit_eq_ok_iff _ _ _).mpr (.inl ⟨hp, rfl⟩)
  rw [serve_of_ne_begin (by decide : Demand.commit ≠ .begin), ho]
  simp only [serveIn, hc]

theorem Sound.codes_ne_of_voted {other : String} {ux : Transaction} (h : d.Sound)
    (hne : name ≠ other) (ht : d.opened.get? name = some tx) (hu : d.opened.get? other = some ux)
    (hpt : tx.prepared = true) (hpu : ux.prepared = true) :
    ∀ e ∈ tx.codes, ∀ f ∈ ux.codes, e.2 ≠ f.2 := by
  rintro ⟨i, code⟩ he ⟨j, _⟩ hf rfl
  obtain ⟨symbol, hs, hcode⟩ := Transaction.mem_codes_iff.mp he
  obtain ⟨other, ho, hcode'⟩ := Transaction.mem_codes_iff.mp hf
  have hids : tx.id ≠ ux.id := h.id_ne hu hne ht
  exact (h.backed _ tx ht hpt).not_writes_both (h.backed _ ux hu hpu) hids
    ⟨i, symbol, hs, hcode⟩ ⟨j, other, ho, hcode'⟩

/-- **No two committed rows share a code, no two voted transactions write one, and whoever was voted
for commits**, whatever happens in between and in whatever order, as long as no transaction stages a
write after the vote for it. -/
theorem codes_unique_and_votes_kept (nextId : Int64) (clock : Clock) (turns : List Turn)
    (orderly : (fresh nextId clock).orderly turns = true) :
    let d := (fresh nextId clock).play turns
    CodesDistinct d.store.rows ∧
    (∀ name other tx ux, name ≠ other → d.opened.get? name = some tx →
      d.opened.get? other = some ux → tx.prepared = true → ux.prepared = true →
      ∀ e ∈ tx.codes, ∀ f ∈ ux.codes, e.2 ≠ f.2) ∧
    (∀ name more, (d.serve name .prepare).2 = some (.ok .done) →
      (d.take (.serve name .prepare)).orderly more = true →
      (∀ turn ∈ more, turn.ends name = false) →
      let later := (d.take (.serve name .prepare)).play more
      (later.serve name .commit).2 = some (.ok .done) ∧
        CodesDistinct (later.serve name .commit).1.store.rows) := by
  intro d
  have sound : d.Sound := sound_play turns orderly (sound_fresh nextId clock)
  refine ⟨sound.distinct, ?_, ?_⟩
  · intro name other tx ux hne ht hu hpt hpu
    exact sound.codes_ne_of_voted hne ht hu hpt hpu
  · intro name more voted ordered kept later
    obtain ⟨tx, ho, hp⟩ := opened_of_prepare_done voted
    have ho' : later.opened.get? name = some tx :=
      opened_play_of_voted more _ ordered kept ho hp
    have sound' : later.Sound :=
      sound_play more ordered (sound_take (.serve name .prepare) rfl sound)
    refine ⟨serve_commit_of_voted ho' hp, ?_⟩
    exact (sound_take (.serve name .commit) rfl sound').distinct

/-- One client changes the code of a stored symbol, another wants the code that is given up. -/
def codeHandedOver : List Turn :=
  let symbol := fun id code => (⟨id, "Bitcoin", code, "", .epoch, .epoch⟩ : Symbol)
  [.serve "seed" .begin, .serve "seed" (.create (symbol 0 "BTC")), .serve "seed" .commit,
    .serve "a" .begin, .serve "a" (.update (symbol 1 "XBT")),
    .serve "b" .begin, .serve "b" (.create (symbol 0 "ETH")), .serve "b" .prepare]

theorem codeHandedOver_votes_kept :
    (fresh 1 default).orderly codeHandedOver = true ∧
      let d := (fresh 1 default).play codeHandedOver
      (d.serve "a" .prepare).2 = some (.ok .done) ∧
      let more := [Turn.refuse true, .serve "b" .commit]
      let later := (d.take (.serve "a" .prepare)).play more
      (later.serve "a" .commit).2 = some (.ok .done) ∧
        CodesDistinct (later.serve "a" .commit).1.store.rows := by
  have ordered : (fresh 1 default).orderly codeHandedOver = true := by decide +kernel
  have voted : (((fresh 1 default).play codeHandedOver).serve "a" .prepare).2 = some (.ok .done) := by
    cbv
  exact ⟨ordered, voted, (codes_unique_and_votes_kept 1 default codeHandedOver ordered).2.2 "a" _
    voted (by decide +kernel) (by decide +kernel)⟩

end SymbolRelay.Desk
