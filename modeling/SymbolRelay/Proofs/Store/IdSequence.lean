import SymbolRelay.Proofs.Service.Numbering
import SymbolRelay.Proofs.Store.Conflicts
import SymbolRelay.Standin.Compact
import SymbolRelay.Standin.NumberedIds

/-!
# The ids of a run

Every creation at a desk takes the next number of one sequence, whichever transaction it is in and
whatever becomes of that transaction. The sequence is one of 64-bit numbers and goes on past the
greatest of them, so the ids of a run from an empty store are

```text
first, first + 1, ..., 2^63 - 1, -2^63, ..., -1, 0, 1, ..., first - 1, first, ...
```

up to as many as there were creations. They grow and are positive exactly as long as the greatest
number has not been passed, and none is used again before the sequence has come round.

## Results

* `carries_take` — what a turn does to the sequence, and what it may bring to store and transactions;
* `numbered_play` — the ids of a run are the first so many of the sequence;
* `SymbolService.reaches_iff` — a stored symbol can be read, changed and removed just if its id is positive;
* `ids_grow_iff` — when the ids of a run are positive, grow and are new;
* `ids_pass_the_greatest` — a run whose second id is negative.
-/

set_option autoImplicit false

namespace SymbolRelay

namespace Desk

/-- The symbol that a turn creates, if it creates one. -/
def created? (d : Desk) : Turn → Option Symbol
  | .serve name (.create symbol) =>
    match (d.serve name (.create symbol)).2 with
    | some (.ok (.symbol created)) => some created
    | _ => none
  | _ => none

/-- The symbols that are created in the course of turns, in the order of their creation. -/
def creations (d : Desk) : List Turn → List Symbol
  | [] => []
  | turn :: turns => (d.created? turn).toList ++ (d.take turn).creations turns

theorem creations_append (before after : List Turn) (d : Desk) :
    d.creations (before ++ after) = d.creations before ++ (d.play before).creations after := by
  induction before generalizing d with
  | nil => rfl
  | cons turn before ih =>
    simp only [List.cons_append, creations, ih, List.append_assoc]
    rfl

/-- A committed row or a write of an open transaction is under an id; a removal counts, too. -/
def Mentions (d : Desk) (id : Int64) : Prop :=
  d.store.rows.contains id = true ∨
    ∃ name tx, d.opened.get? name = some tx ∧ tx.staged.contains id = true

/-- A symbol is under an id, among the committed rows or in what an open transaction writes. -/
def Holds (d : Desk) (id : Int64) (symbol : Symbol) : Prop :=
  d.store.rows.get? id = some symbol ∨
    ∃ name tx, d.opened.get? name = some tx ∧ tx.written? id = some symbol

/-- A symbol that is under an id was there, takes the place and the time of creation of one that was
there, or is the new one. -/
def Descends (d : Desk) (new : Option Symbol) (id : Int64) (symbol : Symbol) : Prop :=
  (∃ before, d.Holds id before ∧ symbol.createdAt = before.createdAt ∧
    (symbol = before ∨ symbol.id = id)) ∨
  ∃ created ∈ new, created.id = id ∧ symbol = created

/-- What a turn does that creates the symbol `new`, or none: the sequence moves on with a creation only,
and nothing else comes under an id that nothing was under. -/
structure Carries (d e : Desk) (new : Option Symbol) : Prop where
  next : e.store.nextId = d.store.nextId + Int64.ofNat new.toList.length
  given : ∀ created ∈ new, created.id = d.store.nextId
  mentions : ∀ id, e.Mentions id → d.Mentions id ∨ ∃ created ∈ new, created.id = id
  holds : ∀ id symbol, e.Holds id symbol → d.Descends new id symbol

variable {d e : Desk} {name : String} {tx ux : Transaction} {id : Int64} {symbol : Symbol}

theorem Holds.descends (h : d.Holds id symbol) (new : Option Symbol) : d.Descends new id symbol :=
  .inl ⟨symbol, h, rfl, .inl rfl⟩

/-! ## One transaction -/

theorem mentions_of_view (ho : d.opened.get? name = some tx)
    (h : tx.view d.store.rows id = some symbol) : d.Mentions id := by
  cases hs : tx.staged.contains id with
  | true => exact .inr ⟨name, tx, ho, hs⟩
  | false =>
    rw [Transaction.view_of_not_staged hs] at h
    exact .inl ((Table.contains_iff _ _).mpr ⟨symbol, h⟩)

theorem holds_of_view (ho : d.opened.get? name = some tx)
    (h : tx.view d.store.rows id = some symbol) : d.Holds id symbol := by
  cases hs : tx.staged.contains id with
  | true =>
    rw [Transaction.view_of_staged hs] at h
    exact .inr ⟨name, tx, ho, h⟩
  | false =>
    rw [Transaction.view_of_not_staged hs] at h
    exact .inl h

theorem contains_staging {write : Staged} {j : Int64}
    (h : (Store.staging tx id write).staged.contains j = true) :
    tx.staged.contains j = true ∨ j = id := by
  rw [Table.contains, Store.staging, Table.get?_insert_eq] at h
  split at h
  · rename_i hj
    exact .inr hj
  · exact .inl h

theorem contains_removing {j : Int64} (h : (Store.removing tx id).staged.contains j = true) :
    tx.staged.contains j = true ∨ j = id := by
  rw [Store.removing] at h
  split at h
  · rw [Table.contains, Table.get?_erase_eq] at h
    split at h
    · cases h
    · exact .inl h
  · exact contains_staging h

/-- A transaction is put under a name; what it writes beyond what it did is accounted for. -/
theorem carries_put {store : Store} {clock : Clock} {new : Option Symbol}
    (rows : store.rows = d.store.rows)
    (next : store.nextId = d.store.nextId + Int64.ofNat new.toList.length)
    (given : ∀ created ∈ new, created.id = d.store.nextId)
    (staged : ∀ id, ux.staged.contains id = true →
      d.Mentions id ∨ ∃ created ∈ new, created.id = id)
    (written : ∀ id symbol, ux.written? id = some symbol → d.Descends new id symbol) :
    Carries d ({ d with store, clock }.put name ux) new where
  next := next
  given := given
  mentions := by
    rintro id (hrow | ⟨other, vx, ho, hs⟩)
    · exact .inl (.inl (rows ▸ hrow))
    · rw [put, Table.get?_insert_eq] at ho
      split at ho
      · cases ho
        exact staged id hs
      · exact .inl (.inr ⟨other, vx, ho, hs⟩)
  holds := by
    rintro id symbol (hrow | ⟨other, vx, ho, hw⟩)
    · exact Holds.descends (.inl (rows ▸ hrow)) new
    · rw [put, Table.get?_insert_eq] at ho
      split at ho
      · cases ho
        exact written id symbol hw
      · exact Holds.descends (d := d) (.inr ⟨other, vx, ho, hw⟩) new

/-- A transaction is taken from under a name; all rows were rows, or what it saw. -/
theorem carries_drop {store : Store} (ho : d.opened.get? name = some tx)
    (next : store.nextId = d.store.nextId)
    (rows : ∀ id symbol, store.rows.get? id = some symbol →
      d.store.rows.get? id = some symbol ∨ tx.view d.store.rows id = some symbol) :
    Carries d ({ d with store }.drop name) none where
  next := next.trans (Int64.add_zero _).symm
  given := fun _ hn => by cases hn
  mentions := by
    rintro id (hrow | ⟨other, vx, hv, hs⟩)
    · obtain ⟨symbol, hrow⟩ := (Table.contains_iff _ _).mp hrow
      rcases rows id symbol hrow with hold | hview
      · exact .inl (.inl ((Table.contains_iff _ _).mpr ⟨symbol, hold⟩))
      · exact .inl (mentions_of_view ho hview)
    · rw [drop, Table.get?_erase_eq] at hv
      split at hv
      · cases hv
      · exact .inl (.inr ⟨other, vx, hv, hs⟩)
  holds := by
    rintro id symbol (hrow | ⟨other, vx, hv, hw⟩)
    · rcases rows id symbol hrow with hold | hview
      · exact Holds.descends (.inl hold) none
      · exact (holds_of_view ho hview).descends none
    · rw [drop, Table.get?_erase_eq] at hv
      split at hv
      · cases hv
      · exact Holds.descends (d := d) (.inr ⟨other, vx, hv, hw⟩) none

theorem Carries.refl (d : Desk) : Carries d d none where
  next := (Int64.add_zero _).symm
  given := fun _ hn => by cases hn
  mentions := fun _ h => .inl h
  holds := fun _ _ h => h.descends none

/-! ## One turn -/

theorem created?_create (ho : d.opened.get? name = some tx) (symbol : Symbol) :
    d.created? (.serve name (.create symbol)) =
      (d.store.create tx symbol d.clock.now).toOption.map (·.1) := by
  rw [created?, Ledger.reply_create ho]
  cases d.store.create tx symbol d.clock.now <;> rfl

theorem created?_of_not_open (ho : d.opened.get? name = none) (demand : Demand) :
    d.created? (.serve name demand) = none := by
  cases demand with
  | create symbol => rw [created?, serve_of_ne_begin (by simp), ho]
  | _ => rfl

theorem carries_begin (d : Desk) (name : String) : Carries d (d.openUnder name).1 none :=
  carries_put (d := d) rfl (Int64.add_zero _).symm (fun _ hn => by cases hn)
    (fun _ h => by cases h) (fun _ _ h => by cases h)

theorem carries_create (ho : d.opened.get? name = some tx) (symbol : Symbol) :
    Carries d (d.serveIn name tx (.create symbol)).1 (d.created? (.serve name (.create symbol))) := by
  rw [created?_create ho]
  cases hc : d.store.create tx symbol d.clock.now with
  | error e =>
    simp only [serveIn, hc]
    exact .refl d
  | ok r =>
    obtain ⟨_, rfl⟩ := (Store.create_eq_ok_iff _ _ _ _ _).mp hc
    simp only [serveIn, hc]
    refine carries_put rfl rfl ?_ ?_ ?_
    · rintro created ⟨⟩
      rfl
    · intro id hs
      rcases contains_staging hs with hold | rfl
      · exact .inl (.inr ⟨name, tx, ho, hold⟩)
      · exact .inr ⟨_, rfl, rfl⟩
    · intro id written hw
      rw [Store.written?_staging] at hw
      split at hw
      · rename_i hid
        cases hw
        exact .inr ⟨_, rfl, hid.symm, rfl⟩
      · exact Holds.descends (.inr ⟨name, tx, ho, hw⟩) _

theorem carries_update (ho : d.opened.get? name = some tx) (symbol : Symbol) :
    Carries d (d.serveIn name tx (.update symbol)).1 none := by
  cases hc : d.store.update tx symbol d.clock.now with
  | error e =>
    simp only [serveIn, hc]
    exact .refl d
  | ok r =>
    obtain ⟨existing, hview, _, rfl⟩ := (Store.update_eq_ok_iff _ _ _ _ _).mp hc
    simp only [serveIn, hc]
    refine carries_put rfl (Int64.add_zero _).symm (fun _ hn => by cases hn) ?_ ?_
    · intro id hs
      rcases contains_staging hs with hold | rfl
      · exact .inl (.inr ⟨name, tx, ho, hold⟩)
      · exact .inl (mentions_of_view ho hview)
    · intro id written hw
      rw [Store.written?_staging, Store.symbol?_writeOf] at hw
      split at hw
      · rename_i hid
        cases hw
        exact .inl ⟨existing, hid ▸ holds_of_view ho hview, rfl, .inr hid.symm⟩
      · exact Holds.descends (.inr ⟨name, tx, ho, hw⟩) _

theorem carries_delete (ho : d.opened.get? name = some tx) (id : Int64) :
    Carries d (d.serveIn name tx (.delete id)).1 none := by
  cases hc : d.store.delete tx id with
  | error e =>
    simp only [serveIn, hc]
    exact .refl d
  | ok ux =>
    obtain ⟨⟨existing, hview⟩, rfl⟩ := (Store.delete_eq_ok_iff _ _ _ _).mp hc
    simp only [serveIn, hc]
    refine carries_put (d := d) rfl (Int64.add_zero _).symm (fun _ hn => by cases hn) ?_ ?_
    · intro j hs
      rcases contains_removing hs with hold | rfl
      · exact .inl (.inr ⟨name, tx, ho, hold⟩)
      · exact .inl (mentions_of_view ho hview)
    · intro j written hw
      rw [Store.written?_removing] at hw
      split at hw
      · cases hw
      · exact Holds.descends (.inr ⟨name, tx, ho, hw⟩) _

theorem carries_prepare (ho : d.opened.get? name = some tx) :
    Carries d (d.serveIn name tx .prepare).1 none := by
  cases hc : d.store.prepare tx with
  | error e =>
    simp only [serveIn, hc]
    exact .refl d
  | ok r =>
    obtain ⟨_, _, rfl⟩ := (Store.prepare_eq_ok_iff _ _ _).mp hc
    simp only [serveIn, hc]
    exact carries_put (d := d) rfl (Int64.add_zero _).symm (fun _ hn => by cases hn)
      (fun id hs => .inl (.inr ⟨name, tx, ho, hs⟩))
      (fun _ _ hw => Holds.descends (.inr ⟨name, tx, ho, hw⟩) none)

theorem carries_commit (ho : d.opened.get? name = some tx) :
    Carries d (d.serveIn name tx .commit).1 none := by
  cases hc : d.store.commit tx with
  | error e =>
    simp only [serveIn, hc]
    have kept : Carries d ({ d with store := d.store }.drop name) none :=
      carries_drop ho rfl fun _ _ h => .inl h
    exact kept
  | ok store =>
    simp only [serveIn, hc]
    rcases (Store.commit_eq_ok_iff _ _ _).mp hc with ⟨_, rfl⟩ | ⟨_, _, _, rfl⟩ <;>
      exact carries_drop ho rfl fun id symbol hrow => .inr (by
        rw [← Store.get?_applyWrites]
        exact hrow)

theorem carries_rollback (ho : d.opened.get? name = some tx) :
    Carries d (d.serveIn name tx .rollback).1 none := by
  refine carries_drop ho ?_ fun id symbol hrow => .inl ?_
  · simp only [Store.rollback]
    split <;> rfl
  · simp only [Store.rollback] at hrow
    split at hrow <;> exact hrow

/-- **What a turn does to the sequence**, and what it may bring to store and transactions. -/
theorem carries_take (d : Desk) (turn : Turn) : Carries d (d.take turn) (d.created? turn) := by
  cases turn with
  | refuse refusing =>
    exact ⟨(Int64.add_zero _).symm, (fun _ hn => by cases hn), fun _ h => .inl h, fun _ _ h => h.descends none⟩
  | serve name demand =>
    by_cases hd : demand = .begin
    · subst hd
      exact carries_begin d name
    · rw [take, serve_of_ne_begin hd]
      cases ho : d.opened.get? name with
      | none =>
        rw [created?_of_not_open ho]
        exact .refl d
      | some tx =>
        cases demand with
        | begin => exact absurd rfl hd
        | create symbol => exact carries_create ho symbol
        | update symbol => exact carries_update ho symbol
        | delete id => exact carries_delete ho id
        | prepare => exact carries_prepare ho
        | commit => exact carries_commit ho
        | rollback => exact carries_rollback ho

/-! ## The numbers of a run -/

/-- After the creations `made`, from an empty store whose first id is `first`. -/
structure Numbered (first : Int64) (made : List Symbol) (d : Desk) : Prop where
  next : d.store.nextId = first + Int64.ofNat made.length
  ids : made.map (·.id) = (List.range made.length).map fun n => first + Int64.ofNat n
  known : ∀ id, d.Mentions id → ∃ created ∈ made, created.id = id
  dated : ∀ id symbol, d.Holds id symbol →
    symbol.id = id ∧ ∃ created ∈ made, created.id = id ∧ symbol.createdAt = created.createdAt

namespace Numbered

variable {first : Int64} {made : List Symbol}

theorem fresh (nextId : Int64) (clock : Clock) :
    Numbered (fresh nextId clock).store.nextId [] (fresh nextId clock) where
  next := (Int64.add_zero _).symm
  ids := rfl
  known := by
    rintro id (hrow | ⟨name, tx, ho, _⟩)
    · cases hrow
    · cases ho
  dated := by
    rintro id symbol (hrow | ⟨name, tx, ho, _⟩)
    · cases hrow
    · cases ho

theorem carry {new : Option Symbol} (h : Numbered first made d) (hc : Carries d e new) :
    Numbered first (made ++ new.toList) e where
  next := by
    rw [hc.next, h.next, List.length_append, Int64.ofNat_add, Int64.add_assoc]
  ids := by
    cases new with
    | none => simpa using h.ids
    | some created =>
      simp only [Option.toList_some, List.map_append, List.map_singleton, List.length_append,
        List.length_singleton, List.range_succ, h.ids, hc.given created rfl, h.next]
  known := by
    intro id hm
    rcases hc.mentions id hm with hold | ⟨created, hnew, hid⟩
    · obtain ⟨created, hmade, hid⟩ := h.known id hold
      exact ⟨created, List.mem_append_left _ hmade, hid⟩
    · exact ⟨created, List.mem_append_right _ (Option.mem_toList.mpr hnew), hid⟩
  dated := by
    intro id symbol hs
    rcases hc.holds id symbol hs with ⟨before, hold, hsame, hkey⟩ | ⟨created, hnew, hid, rfl⟩
    · obtain ⟨hbefore, created, hmade, hid, hat⟩ := h.dated id before hold
      refine ⟨?_, created, List.mem_append_left _ hmade, hid, hsame.trans hat⟩
      rcases hkey with rfl | hkey
      · exact hbefore
      · exact hkey
    · exact ⟨hid, _, List.mem_append_right _ (Option.mem_toList.mpr hnew), hid, rfl⟩

theorem play (turns : List Turn) (h : Numbered first made d) :
    Numbered first (made ++ d.creations turns) (d.play turns) := by
  induction turns generalizing d made with
  | nil => simpa [creations, Desk.play] using h
  | cons turn turns ih =>
    rw [creations, ← List.append_assoc]
    exact ih (h.carry (carries_take d turn))

end Numbered

/-- **The ids of a run are the first so many of the sequence.** -/
theorem numbered_play (nextId : Int64) (clock : Clock) (turns : List Turn) :
    Numbered (fresh nextId clock).store.nextId ((fresh nextId clock).creations turns)
      ((fresh nextId clock).play turns) :=
  (Numbered.fresh nextId clock).play turns

theorem first_pos (nextId : Int64) (clock : Clock) : 0 < (fresh nextId clock).store.nextId := by
  simp only [fresh, Store.withNextId]
  split
  · decide
  · rename_i h
    exact Int64.lt_of_lt_of_le (by decide) (Int64.not_lt.mp h)

/-- The place of a creation in a run. -/
theorem turn_of_creation (turns : List Turn) (d : Desk) {n : Nat} (hn : n < (d.creations turns).length) :
    ∃ before turn after created, turns = before ++ turn :: after ∧
      created ∈ (d.play before).created? turn ∧ (d.creations before).length = n := by
  induction turns generalizing d n with
  | nil => cases hn
  | cons turn turns ih =>
    rw [creations, List.length_append] at hn
    have onward : ∀ m, (d.created? turn).toList.length + m = n →
        m < ((d.take turn).creations turns).length →
        ∃ before turn' after created, turn :: turns = before ++ turn' :: after ∧
          created ∈ (d.play before).created? turn' ∧ (d.creations before).length = n := by
      intro m hm hlt
      obtain ⟨before, turn', after, created, rfl, hcreated, hlength⟩ := ih (d.take turn) hlt
      refine ⟨turn :: before, turn', after, created, rfl, hcreated, ?_⟩
      rw [creations, List.length_append, hlength, hm]
    cases hc : d.created? turn with
    | none => exact onward n (by simp [hc]) (by simpa [hc] using hn)
    | some created =>
      simp only [hc, Option.toList_some, List.length_singleton] at hn onward
      cases n with
      | zero => exact ⟨[], turn, turns, created, rfl, hc, rfl⟩
      | succ m => exact onward m (Nat.add_comm 1 m) (by omega)

/-! ## Past the greatest number -/

variable {first : Int64} {n : Nat}

theorem toInt_sequence (positive : 0 < first) (below : first.toInt + n < 2 ^ 63) :
    (first + Int64.ofNat n).toInt = first.toInt + n := by
  have hfirst := Int64.lt_iff_toInt_lt.mp positive
  rw [Int64.toInt_zero] at hfirst
  rw [Int64.toInt_add, Int64.toInt_ofNat_of_lt (by omega)]
  exact Int.bmod_eq_of_le (by omega) (by omega)

/-- The number after the greatest is the least. -/
theorem sequence_past_greatest (positive : 0 < first) (at_end : first.toInt + n = 2 ^ 63) :
    (first + Int64.ofNat n).toInt = -2 ^ 63 := by
  have hfirst := Int64.lt_iff_toInt_lt.mp positive
  rw [Int64.toInt_zero] at hfirst
  rw [Int64.toInt_add, Int64.toInt_ofNat_of_lt (by omega), at_end]
  rfl

theorem sequence_lt (positive : 0 < first) {m : Nat} (hm : m < n) (below : first.toInt + n < 2 ^ 63) :
    first + Int64.ofNat m < first + Int64.ofNat n := by
  rw [Int64.lt_iff_toInt_lt, toInt_sequence positive below, toInt_sequence positive (by omega)]
  omega

theorem sequence_pos (positive : 0 < first) (below : first.toInt + n < 2 ^ 63) :
    0 < first + Int64.ofNat n := by
  have hfirst := Int64.lt_iff_toInt_lt.mp positive
  rw [Int64.toInt_zero] at hfirst
  rw [Int64.lt_iff_toInt_lt, toInt_sequence positive below, Int64.toInt_zero]
  omega

/-! ## What is to be said of an id -/

/-- An id that is given after turns is positive, greater than all before, and nobody else's. -/
structure GrowsTo (d : Desk) (before : List Turn) (id : Int64) : Prop where
  positive : 0 < id
  greatest : ∀ earlier ∈ d.creations before, earlier.id < id
  unused : ¬ (d.play before).Mentions id

/-- Every id of a run is positive, greater than all before it, and nobody else's when it is given. -/
def IdsGrow (d : Desk) (turns : List Turn) : Prop :=
  ∀ before turn after, turns = before ++ turn :: after →
    ∀ created ∈ (d.play before).created? turn, d.GrowsTo before created.id

/-- Every id of a run is another than all before it, and nobody else's when it is given. -/
def IdsNew (d : Desk) (turns : List Turn) : Prop :=
  ∀ before turn after, turns = before ++ turn :: after →
    ∀ created ∈ (d.play before).created? turn,
      (∀ earlier ∈ d.creations before, earlier.id ≠ created.id) ∧ ¬ (d.play before).Mentions created.id

variable {nextId : Int64} {clock : Clock} {before after : List Turn} {turn : Turn} {created : Symbol}

/-- The id that is given after turns is the next of the sequence. -/
theorem id_of_created (h : created ∈ ((fresh nextId clock).play before).created? turn) :
    created.id =
      (fresh nextId clock).store.nextId + Int64.ofNat ((fresh nextId clock).creations before).length :=
  ((carries_take _ turn).given created h).trans (numbered_play nextId clock before).next

/-- What was created before has an earlier number of the sequence. -/
theorem id_of_earlier {earlier : Symbol} (h : earlier ∈ (fresh nextId clock).creations before) :
    ∃ n < ((fresh nextId clock).creations before).length,
      earlier.id = (fresh nextId clock).store.nextId + Int64.ofNat n := by
  have hid := List.mem_map_of_mem (f := (·.id)) h
  rw [(numbered_play nextId clock before).ids, List.mem_map] at hid
  obtain ⟨n, hn, hid⟩ := hid
  exact ⟨n, List.mem_range.mp hn, hid.symm⟩

/-- An id that nothing created before has is nobody's. -/
theorem not_mentions {id : Int64} (h : ∀ earlier ∈ (fresh nextId clock).creations before, earlier.id ≠ id) :
    ¬ ((fresh nextId clock).play before).Mentions id := by
  intro hm
  obtain ⟨earlier, hearlier, hid⟩ := (numbered_play nextId clock before).known id hm
  exact h earlier hearlier hid

theorem length_creations_lt {d : Desk} (h : created ∈ (d.play before).created? turn)
    (after : List Turn) :
    (d.creations before).length < (d.creations (before ++ turn :: after)).length := by
  rw [creations_append, List.length_append, creations, Option.mem_def.mp h]
  simp

theorem idsGrow_iff (nextId : Int64) (clock : Clock) (turns : List Turn) :
    (fresh nextId clock).IdsGrow turns ↔
      (fresh nextId clock).store.nextId.toInt + ((fresh nextId clock).creations turns).length ≤ 2 ^ 63 := by
  have positive := first_pos nextId clock
  constructor
  · intro h
    refine Classical.byContradiction fun hmany => ?_
    -- The creation that comes to the end of the sequence would give the least number of all.
    have hlt := Int64.toInt_lt (fresh nextId clock).store.nextId
    obtain ⟨before, turn, after, created, hturns, hcreated, hlength⟩ :=
      turn_of_creation turns (fresh nextId clock)
        (n := (2 ^ 63 - (fresh nextId clock).store.nextId.toInt).toNat) (by omega)
    have hpos := Int64.lt_iff_toInt_lt.mp (h before turn after hturns created hcreated).positive
    rw [id_of_created hcreated, hlength, sequence_past_greatest positive (by omega)] at hpos
    exact absurd hpos (by decide)
  · rintro hfew before turn after rfl created hcreated
    have hlength := length_creations_lt hcreated after
    have below : (fresh nextId clock).store.nextId.toInt +
        ((fresh nextId clock).creations before).length < 2 ^ 63 := by omega
    have greatest : ∀ earlier ∈ (fresh nextId clock).creations before, earlier.id < created.id := by
      intro earlier hearlier
      obtain ⟨n, hn, hid⟩ := id_of_earlier hearlier
      rw [hid, id_of_created hcreated]
      exact sequence_lt positive hn below
    refine ⟨?_, greatest, not_mentions fun earlier hearlier => ?_⟩
    · rw [id_of_created hcreated]
      exact sequence_pos positive below
    · exact Int64.ne_of_lt (greatest earlier hearlier)

theorem idsNew_of_few {turns : List Turn}
    (few : ((fresh nextId clock).creations turns).length ≤ 2 ^ 64) :
    (fresh nextId clock).IdsNew turns := by
  rintro before turn after rfl created hcreated
  have hlength := length_creations_lt hcreated after
  have others : ∀ earlier ∈ (fresh nextId clock).creations before, earlier.id ≠ created.id := by
    intro earlier hearlier
    obtain ⟨n, hn, hid⟩ := id_of_earlier hearlier
    rw [hid, id_of_created hcreated]
    exact Traffic.first_add_ne _ (by omega) hn
  exact ⟨others, not_mentions others⟩

/-- As long as the ids of a run grow, every committed row has a positive one. -/
theorem stored_pos {turns : List Turn} {id : Int64} {row : Symbol}
    (few : (fresh nextId clock).store.nextId.toInt +
      ((fresh nextId clock).creations turns).length ≤ 2 ^ 63)
    (stored : ((fresh nextId clock).play turns).store.rows.get? id = some row) : 0 < id := by
  obtain ⟨created, hcreated, rfl⟩ := (numbered_play nextId clock turns).known id
    (.inl ((Table.contains_iff _ _).mpr ⟨row, stored⟩))
  obtain ⟨n, hn, hid⟩ := id_of_earlier hcreated
  rw [hid]
  exact sequence_pos (first_pos nextId clock) (by omega)

end Desk

/-! ## Through the service -/

namespace SymbolService

variable {ξ : Type} {codec : Codec} {validator : Symbol → Except ValidationError Unit} {w : World ξ}
  {id : Int64} {row : Symbol}

/-- A service over the store lets its clients read, change and remove the symbol with an id. -/
structure Reaches [BinaryFormat] [IdSource] (codec : Codec)
    (validator : Symbol → Except ValidationError Unit) (w : World ξ) (id : Int64) (row : Symbol) : Prop where
  read : ∀ ctx, (direct codec validator).get ctx id w = (.ok row, w)
  changed : ∀ symbol, symbol.id = id → validator symbol = .ok () →
    (direct codec validator : SymbolService ξ Transaction).start (.update symbol) =
      .begin (.update symbol)
  removed : ∀ ctx,
    (direct codec validator : SymbolService ξ Transaction).start (.delete id) = .lookup id ∧
    (direct codec validator).step ctx (.lookup id) w = (.begin (.delete id row), w)

theorem checkId_of_pos (h : 0 < id) : checkId id = .ok () := if_neg (Int64.not_le.mpr h)

theorem checkId_of_not_pos (h : ¬ 0 < id) : checkId id = .error (.invalidId id) :=
  if_pos (Int64.not_lt.mp h)

theorem get_of_not_pos [IdSource] {ctx : Context} (h : ¬ 0 < id) :
    (direct codec validator).get ctx id w = (.error (.invalidId id), w) := by
  simp [get, checkId_of_not_pos h, Action.ofExcept, Action.ofOutcome, bind, Action.bind, Outcome.ofExcept]

/-- **A stored symbol can be read, changed and removed just if its id is positive.** -/
theorem reaches_iff [BinaryFormat] [IdSource] (stored : w.store.rows.get? id = some row) :
    Reaches codec validator w id row ↔ 0 < id := by
  have hfind : w.store.find id = .ok row := by rw [Store.find, stored]
  constructor
  · intro h
    refine Classical.byContradiction fun hpos => ?_
    have hread := h.read { scope := 0 }
    rw [get_of_not_pos hpos] at hread
    cases hread
  · intro hpos
    refine ⟨fun ctx => ?_, fun symbol hid hvalid => ?_, fun ctx => ⟨?_, ?_⟩⟩
    · simp [get, checkId_of_pos hpos, Action.ofExcept, Action.ofOutcome, bind, Action.bind,
        Outcome.ofExcept, direct, Action.mapError, ofStore_find, hfind, Outcome.mapError]
    · rw [← hid] at hpos
      simp [start, checkId_of_pos hpos, check, direct, hvalid, Call.ofCheck, Except.bind, Except.mapError]
    · simp [start, checkId_of_pos hpos, Call.ofCheck]
    · simp [step, outside, direct, Action.mapError, ofStore_find, hfind, Outcome.ofExcept,
        Outcome.mapError]

end SymbolService

namespace Desk

variable {ξ : Type}

/-- **When the ids of a run grow.** The ids are the first so many of the sequence of all 64-bit numbers
that begins with the first id. They are positive, grow and are nobody else's exactly as long as the
greatest number has not been passed, and then every stored symbol can be read, changed and removed
through the service; they are new as long as the sequence has not come round. -/
theorem ids_grow_iff [BinaryFormat] [IdSource] (codec : Codec)
    (validator : Symbol → Except ValidationError Unit) (nextId : Int64) (clock : Clock)
    (turns : List Turn) :
    let d := fresh nextId clock
    let first := d.store.nextId
    let count := (d.creations turns).length
    first = max 1 nextId ∧
    (d.creations turns).map (·.id) = (List.range count).map (fun n => first + Int64.ofNat n) ∧
    (d.IdsGrow turns ↔ first.toInt + count ≤ 2 ^ 63) ∧
    (count ≤ 2 ^ 64 → d.IdsNew turns) ∧
    ∀ (w : World ξ) (id : Int64) (row : Symbol), w.store = (d.play turns).store →
      w.store.rows.get? id = some row →
        (SymbolService.Reaches codec validator w id row ↔ 0 < id) ∧
          (first.toInt + count ≤ 2 ^ 63 → 0 < id) := by
  intro d first count
  refine ⟨?_, (numbered_play nextId clock turns).ids, idsGrow_iff nextId clock turns, idsNew_of_few, ?_⟩
  · show (if nextId < 1 then 1 else nextId) = if 1 ≤ nextId then nextId else 1
    split
    · rename_i h
      exact (if_neg (Int64.not_le.mpr h)).symm
    · rename_i h
      exact (if_pos (Int64.not_lt.mp h)).symm
  · intro w id row hstore stored
    refine ⟨SymbolService.reaches_iff stored, fun few => ?_⟩
    rw [hstore] at stored
    exact stored_pos few stored

/-- Two symbols are stored whose ids begin with the greatest number there is. -/
def pastTheGreatest : List Turn :=
  [.serve "a" .begin, .serve "a" (.create ⟨0, "Bitcoin", "BTC", "", .epoch, .epoch⟩),
    .serve "a" (.create ⟨0, "Ether", "ETH", "", .epoch, .epoch⟩), .serve "a" .commit]

/-- The second of these symbols, as it is stored. -/
def pastSymbol : Symbol := ⟨Int64.minValue, "Ether", "ETH", "", Time.epoch.next, Time.epoch.next⟩

/-- **The second id is the least number of all.** The symbol is stored under it, and the service refuses
to read it because of its id. -/
theorem ids_pass_the_greatest :
    let d := fresh Int64.maxValue default
    let w : World Unit := { store := (d.play pastTheGreatest).store, extra := () }
    (d.creations pastTheGreatest).map (·.id) = [Int64.maxValue, Int64.minValue] ∧
      ¬ d.IdsGrow pastTheGreatest ∧ w.store.rows.get? Int64.minValue = some pastSymbol ∧
      ((SymbolService.direct .default Symbol.validate).get { scope := 0 } Int64.minValue w).1 =
        .error (.invalidId Int64.minValue) := by
  refine ⟨by decide +kernel, fun h => ?_, by decide +kernel, rfl⟩
  have hlast := h (pastTheGreatest.take 2) (pastTheGreatest[2]) (pastTheGreatest.drop 3) rfl
    pastSymbol (by decide +kernel)
  exact absurd hlast.positive (by decide)

end Desk

end SymbolRelay
