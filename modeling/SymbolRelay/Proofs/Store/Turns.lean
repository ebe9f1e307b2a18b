import SymbolRelay.Proofs.Store.Soundness
import SymbolRelay.Store.Desk

/-!
# Runs of a desk

A run of a desk is a list of turns: clients are served in any order, each in transactions of its own,
and in between the store may begin or cease to refuse commits. A run is orderly if no transaction
stages a write after the vote for it.

## Results

* `served` — all that a demand can do to a desk, and `Served.sound`, that it keeps the invariant;
* `sound_play` — the invariant of store and transactions holds all along an orderly run;
* `opened_play_of_voted` — a transaction that was voted for stays so, with what it wrote, until its
  client ends it.
-/

set_option autoImplicit false

namespace SymbolRelay

namespace Desk

theorem allows_serve_iff (d : Desk) (name : String) (demand : Demand) :
    d.allows (.serve name demand) = true ↔
      (demand.stages = true → ∀ tx, d.opened.get? name = some tx → tx.prepared = false) := by
  cases hd : demand.stages <;> cases ho : d.opened.get? name <;> simp [allows, hd, ho]

/-- An induction along an orderly run, done once for every invariant. -/
theorem play_induction (Inv : Desk → Prop)
    (step : ∀ d turn, d.allows turn = true → Inv d → Inv (d.take turn)) :
    ∀ (turns : List Turn) (d : Desk), d.orderly turns = true → Inv d → Inv (d.play turns)
  | [], _, _, h => h
  | turn :: turns, d, ho, h => by
    rw [orderly, Bool.and_eq_true] at ho
    exact play_induction Inv step turns (d.take turn) ho.2 (step d turn ho.1 h)

/-! ## The invariant -/

/-- The invariant of a desk: that of its store with the transactions that are open. -/
def Sound (d : Desk) : Prop := d.store.Sound d.opened.get?

theorem sound_fresh (nextId : Int64) (clock : Clock) : (fresh nextId clock).Sound :=
  Store.Sound.of_empty rfl fun _ => rfl

@[simp] theorem opened_put_self (d : Desk) (name : String) (tx : Transaction) :
    (d.put name tx).opened.get? name = some tx := Table.get?_insert_self d.opened name tx

@[simp] theorem opened_drop_self (d : Desk) (name : String) : (d.drop name).opened.get? name = none :=
  Table.get?_erase_self d.opened name

theorem replaces_insert (opened : Table String Transaction) (name : String) (tx : Transaction) :
    Replaces opened.get? (opened.insert name tx).get? name (some tx) :=
  ⟨Table.get?_insert_self opened name tx, fun _ h => Table.get?_insert_of_ne opened tx h⟩

variable {d : Desk} {name : String} {tx : Transaction}

theorem sound_openUnder (h : d.Sound) (name : String) : (d.openUnder name).1.Sound :=
  Store.Sound.begin h (replaces_insert d.opened name d.store.begin.1)

/-- Staging a write under the id of the symbol that it leaves keeps every write under its own id. -/
theorem stagedKeyed_staging {write : Staged} {id : Int64}
    (h : ∀ j symbol, tx.written? j = some symbol → symbol.id = j)
    (hid : ∀ symbol, write.symbol? = some symbol → symbol.id = id) :
    ∀ j symbol, (Store.staging tx id write).written? j = some symbol → symbol.id = j := by
  intro j symbol hw
  rw [Store.written?_staging] at hw
  split at hw
  · rename_i hj
    rw [hj]
    exact hid symbol hw
  · exact h j symbol hw

theorem stagedKeyed_removing {id : Int64}
    (h : ∀ j symbol, tx.written? j = some symbol → symbol.id = j) :
    ∀ j symbol, (Store.removing tx id).written? j = some symbol → symbol.id = j := by
  intro j symbol hw
  rw [Store.written?_removing] at hw
  split at hw
  · cases hw
  · exact h j symbol hw

/-! ## What a demand does -/

/-- What a demand other than to begin does to a desk, in a transaction that is open under a name. -/
inductive Served (d : Desk) (name : String) (tx : Transaction) : Demand → Desk → Prop
  /-- The demand is refused, and nothing changes. -/
  | refused {demand : Demand} : Served d name tx demand d
  /-- A write is staged; ids and times move on with it. -/
  | staged {demand : Demand} {ux : Transaction} (nextId : Int64) (clock : Clock)
      (stages : demand.stages = true) (id : ux.id = tx.id) (prepared : ux.prepared = tx.prepared)
      (keyed : (∀ j symbol, tx.written? j = some symbol → symbol.id = j) →
        ∀ j symbol, ux.written? j = some symbol → symbol.id = j) :
      Served d name tx demand ({ d with store := { d.store with nextId }, clock }.put name ux)
  | voted (free : d.store.conflict tx = none) :
      Served d name tx .prepare
        ({ d with store := d.store.voted tx }.put name { tx with prepared := true })
  | committed {store : Store} (commit : d.store.commit tx = .ok store) :
      Served d name tx .commit ({ d with store }.drop name)
  /-- A transaction whose vote is refused at its commit is gone. -/
  | lost (unvoted : tx.prepared = false) : Served d name tx .commit (d.drop name)
  | rolledBack : Served d name tx .rollback ({ d with store := d.store.rollback tx }.drop name)

/-- **All that a demand can do.** -/
theorem served {demand : Demand} (hd : demand ≠ .begin) :
    Served d name tx demand (d.serveIn name tx demand).1 := by
  cases demand with
  | begin => exact absurd rfl hd
  | create symbol =>
    simp only [serveIn]
    split
    · exact .refused
    · rename_i created ux store hc
      obtain ⟨_, heq⟩ := (Store.create_eq_ok_iff _ _ _ _ _).mp hc
      cases heq
      exact .staged _ _ rfl rfl rfl fun hkeyed => stagedKeyed_staging hkeyed fun _ hs => by cases hs; rfl
  | update symbol =>
    simp only [serveIn]
    split
    · exact .refused
    · rename_i updated ux hc
      obtain ⟨existing, _, _, heq⟩ := (Store.update_eq_ok_iff _ _ _ _ _).mp hc
      cases heq
      refine .staged _ _ rfl rfl rfl fun hkeyed => stagedKeyed_staging hkeyed fun _ hs => ?_
      rw [Store.symbol?_writeOf] at hs
      cases hs
      rfl
  | delete id =>
    simp only [serveIn]
    split
    · exact .refused
    · rename_i ux hc
      obtain ⟨_, rfl⟩ := (Store.delete_eq_ok_iff _ _ _ _).mp hc
      exact .staged _ _ rfl rfl rfl stagedKeyed_removing
  | prepare =>
    simp only [serveIn]
    split
    · exact .refused
    · rename_i ux store hc
      obtain ⟨_, hconf, heq⟩ := (Store.prepare_eq_ok_iff _ _ _).mp hc
      cases heq
      exact .voted hconf
  | commit =>
    simp only [serveIn]
    split
    · rename_i e hc
      refine .lost ?_
      rw [← Bool.not_eq_true]
      intro hp
      rw [(Store.commit_eq_ok_iff _ _ _).mpr (.inl ⟨hp, rfl⟩)] at hc
      cases hc
    · rename_i store hc
      exact .committed hc
  | rollback => exact .rolledBack

namespace Served

variable {demand : Demand} {e : Desk}

/-- Transactions under other names are left alone. -/
theorem elsewhere (h : Served d name tx demand e) {other : String} (hne : other ≠ name) :
    e.opened.get? other = d.opened.get? other := by
  cases h with
  | refused => rfl
  | staged _ _ _ _ _ _ | voted _ => exact Table.get?_insert_of_ne d.opened _ hne
  | committed _ | lost _ | rolledBack => exact Table.get?_erase_of_ne d.opened hne

theorem replaces (h : Served d name tx demand e) :
    Replaces d.opened.get? e.opened.get? name (e.opened.get? name) :=
  ⟨rfl, fun _ hne => h.elsewhere hne⟩

/-- Whatever a demand does keeps the invariant, for any family of transactions that this one is of. -/
theorem sound {ι : Type} {family after : ι → Option Transaction} {i : ι}
    (h : Served d name tx demand e) (hs : d.store.Sound family) (hi : family i = some tx)
    (ho : d.opened.get? name = some tx) (hr : Replaces family after i (e.opened.get? name))
    (hord : demand.stages = true → tx.prepared = false) : e.store.Sound after := by
  cases h with
  | refused =>
    rw [hr.eq_of_same (hi.trans ho.symm)]
    exact hs
  | staged _ _ stages id prepared keyed =>
    rw [opened_put_self] at hr
    refine Store.Sound.stage ?_ hi hr id (prepared.trans (hord stages)) (keyed (hs.stagedKeyed i tx hi))
    exact hs.congr rfl rfl rfl
  | voted free =>
    rw [opened_put_self] at hr
    exact hs.prepare hi free hr
  | committed commit =>
    rw [opened_drop_self] at hr
    exact hs.commit hi commit hr
  | lost _ =>
    rw [opened_drop_self] at hr
    exact hs.forget hr
  | rolledBack =>
    rw [opened_drop_self] at hr
    exact hs.rollback hi hr

end Served

/-- A demand other than to begin is served in the transaction under its name, if there is one. -/
theorem serve_of_ne_begin {demand : Demand} (hd : demand ≠ .begin) :
    d.serve name demand =
      match d.opened.get? name with
      | some tx => ((d.serveIn name tx demand).1, some (d.serveIn name tx demand).2)
      | none => (d, none) := by
  unfold serve
  split
  · exact absurd rfl hd
  · rename_i tx _ ho
    rw [ho]
  · rename_i _ ho
    rw [ho]

theorem sound_take (turn : Turn) (ha : d.allows turn = true) (h : d.Sound) : (d.take turn).Sound := by
  cases turn with
  | refuse refusing => exact Store.Sound.congr h rfl rfl rfl
  | serve name demand =>
    rw [allows_serve_iff] at ha
    by_cases hd : demand = .begin
    · subst hd
      exact sound_openUnder h name
    · simp only [take, serve_of_ne_begin hd]
      split
      · rename_i tx ho
        have hserved : Served d name tx demand (d.serveIn name tx demand).1 := served hd
        exact hserved.sound h ho ho hserved.replaces fun hs => ha hs tx ho
      · exact h

/-- **The invariant holds all along an orderly run**, whatever the transactions do and in whatever
order. -/
theorem sound_play (turns : List Turn) (ho : d.orderly turns = true) (h : d.Sound) :
    (d.play turns).Sound :=
  play_induction Sound (fun _ turn ha h => sound_take turn ha h) turns d ho h

/-! ## A vote lasts -/

theorem opened_serve_of_ne {other : String} (hne : name ≠ other) (demand : Demand) :
    (d.serve other demand).1.opened.get? name = d.opened.get? name := by
  by_cases hd : demand = .begin
  · subst hd
    exact Table.get?_insert_of_ne d.opened _ hne
  · rw [serve_of_ne_begin hd]
    split
    · exact (served hd).elsewhere hne
    · rfl

/-- A turn that does not end a voted transaction leaves it as it is. -/
theorem opened_take_of_voted {turn : Turn} (ha : d.allows turn = true) (hn : turn.ends name = false)
    (hi : d.opened.get? name = some tx) (hp : tx.prepared = true) :
    (d.take turn).opened.get? name = some tx := by
  cases turn with
  | refuse refusing => exact hi
  | serve other demand =>
    by_cases hne : name = other
    · subst hne
      rw [allows_serve_iff] at ha
      have hst : demand.stages = false := by
        refine Classical.byContradiction fun hs => ?_
        rw [ha (by simpa using hs) tx hi] at hp
        cases hp
      cases demand with
      | begin | commit | rollback => simp [Turn.ends] at hn
      | create symbol | update symbol | delete id => cases hst
      | prepare =>
        simp only [take, serve_of_ne_begin (d := d) (by decide : Demand.prepare ≠ .begin), hi, serveIn]
        split
        · exact hi
        · rename_i ux store hc
          obtain ⟨_, _, heq⟩ := (Store.prepare_eq_ok_iff _ _ _).mp hc
          cases heq
          rw [← hp]
          exact Table.get?_insert_self _ _ _
    · simp only [take, opened_serve_of_ne hne, hi]

theorem opened_play_of_voted : ∀ (turns : List Turn) (d : Desk), d.orderly turns = true →
    (∀ turn ∈ turns, turn.ends name = false) → d.opened.get? name = some tx → tx.prepared = true →
    (d.play turns).opened.get? name = some tx
  | [], _, _, _, hi, _ => hi
  | turn :: turns, d, ho, hn, hi, hp => by
    rw [orderly, Bool.and_eq_true] at ho
    exact opened_play_of_voted turns (d.take turn) ho.2
      (fun t ht => hn t (List.mem_cons_of_mem _ ht))
      (opened_take_of_voted ho.1 (hn turn List.mem_cons_self) hi hp) hp

end Desk

end SymbolRelay
