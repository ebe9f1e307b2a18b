import SymbolRelay.Proofs.Store.Reservations
import SymbolRelay.Proofs.Store.Turns

/-!
# When a code counts as taken

A transaction may not give a code to a symbol while another symbol holds it: in a committed row that
the transaction does not write, in its own writes, or in the writes of another transaction that was
voted for. A reservation says which transaction holds a code, but not for which symbol. So it also
stands in the way of a second transaction that gives the code to the very same symbol, where no other
symbol holds it and nothing would be violated.

To say who holds a reservation, a run is followed with a ledger of all transactions that were begun and
never ended. The desk knows them by name only, and forgets one whose name is given to another; the
store does not.

## Results

* `Ledger.sound_play` — what the ledger says of store and transactions, all along an orderly run;
* `Ledger.Sound.codeTaken_iff` — a code is taken if another symbol holds it or the same symbol is given
  it by another voted transaction, and only then;
* `Ledger.duplicate_iff_taken` — the answers of the store to a creation, a change and a vote;
* `Ledger.sameSymbol_refused` — a change is refused as a duplicate although no other symbol has its code.
-/

set_option autoImplicit false

namespace SymbolRelay

/-! ## Transactions that nobody ended -/

/-- A desk with all transactions that were begun there and neither committed nor rolled back, by their
numbers. -/
structure Ledger where
  desk : Desk
  unended : Table Nat Transaction := Table.empty

namespace Ledger

/-- The ledger of a desk over an empty store. -/
def fresh (nextId : Int64) (clock : Clock) : Ledger := { desk := .fresh nextId clock }

/-- The entry of a transaction is brought up to date, or crossed out. -/
def enter (unended : Table Nat Transaction) (number : Nat) : Option Transaction → Table Nat Transaction
  | some tx => unended.insert number tx
  | none => unended.erase number

/-- The number of the transaction that a demand begins or is served in, if there is one. -/
def number? (d : Desk) (name : String) (demand : Demand) : Option Nat :=
  if demand = .begin then some d.store.nextTransaction else (d.opened.get? name).map (·.id)

/-- The ledger after a turn. -/
def take (l : Ledger) (turn : Desk.Turn) : Ledger where
  desk := l.desk.take turn
  unended :=
    match turn with
    | .refuse _ => l.unended
    | .serve name demand =>
      match number? l.desk name demand with
      | some number => enter l.unended number ((l.desk.take turn).opened.get? name)
      | none => l.unended

/-- The ledger after one turn after the other. -/
def play (l : Ledger) (turns : List Desk.Turn) : Ledger := turns.foldl take l

theorem desk_play (turns : List Desk.Turn) (l : Ledger) : (l.play turns).desk = l.desk.play turns := by
  induction turns generalizing l with
  | nil => rfl
  | cons turn turns ih => exact ih (l.take turn)

/-- What the ledger says of store and transactions. -/
structure Sound (l : Ledger) : Prop where
  desk : l.desk.Sound
  store : l.desk.store.Sound l.unended.get?
  accounted : l.desk.store.Accounted l.unended.get?
  entered : ∀ name tx, l.desk.opened.get? name = some tx → l.unended.get? tx.id = some tx
  numbered : ∀ n tx, l.unended.get? n = some tx → tx.id = n

end Ledger

/-! ## What a demand leaves in the ledger -/

namespace Desk.Served

variable {d e : Desk} {name : String} {tx : Transaction} {demand : Demand}

/-- A transaction keeps its number. -/
theorem id_eq (h : Served d name tx demand e) (ho : d.opened.get? name = some tx) {ux : Transaction}
    (hu : e.opened.get? name = some ux) : ux.id = tx.id := by
  cases h with
  | refused =>
    rw [ho] at hu
    cases hu
    rfl
  | staged _ _ _ id _ _ =>
    rw [opened_put_self] at hu
    cases hu
    exact id
  | voted _ =>
    rw [opened_put_self] at hu
    cases hu
    rfl
  | committed _ | lost _ | rolledBack =>
    rw [opened_drop_self] at hu
    cases hu

/-- Whatever a demand does keeps every reservation accounted for. -/
theorem accounted {ι : Type} {family after : ι → Option Transaction} {i : ι}
    (h : Served d name tx demand e) (ha : d.store.Accounted family) (hi : family i = some tx)
    (ho : d.opened.get? name = some tx) (hr : Replaces family after i (e.opened.get? name))
    (hord : demand.stages = true → tx.prepared = false) : e.store.Accounted after := by
  cases h with
  | refused =>
    rw [hr.eq_of_same (hi.trans ho.symm)]
    exact ha
  | staged _ _ stages _ _ _ => exact ha.stage hi (hord stages) hr rfl
  | voted _ =>
    rw [opened_put_self] at hr
    exact ha.prepare hi hr
  | committed commit =>
    rw [opened_drop_self] at hr
    exact ha.commit hi commit hr
  | lost unvoted => exact ha.stage hi unvoted hr rfl
  | rolledBack =>
    rw [opened_drop_self] at hr
    exact ha.rollback hi hr

end Desk.Served

namespace Ledger

theorem replaces_enter (unended : Table Nat Transaction) (number : Nat) (now : Option Transaction) :
    Replaces unended.get? (enter unended number now).get? number now := by
  cases now with
  | some tx =>
    exact ⟨Table.get?_insert_self unended number tx, fun _ h => Table.get?_insert_of_ne unended tx h⟩
  | none => exact ⟨Table.get?_erase_self unended number, fun _ h => Table.get?_erase_of_ne unended h⟩

namespace Sound

variable {l : Ledger} {name : String} {tx : Transaction} {demand : Demand}

theorem fresh (nextId : Int64) (clock : Clock) : (Ledger.fresh nextId clock).Sound where
  desk := Desk.sound_fresh nextId clock
  store := .of_empty rfl fun _ => rfl
  accounted := .of_empty rfl
  entered := fun name tx h => by cases h
  numbered := fun n tx h => by cases h

/-- One entry was changed with the transaction under one name. -/
theorem entry (h : l.Sound) (name : String) {number : Nat} {desk : Desk} (sound : desk.Sound)
    (elsewhere : ∀ other, other ≠ name → desk.opened.get? other = l.desk.opened.get? other)
    (id : ∀ ux, desk.opened.get? name = some ux → ux.id = number)
    (apart : ∀ other ux, other ≠ name → l.desk.opened.get? other = some ux → ux.id ≠ number)
    (store : desk.store.Sound (enter l.unended number (desk.opened.get? name)).get?)
    (accounted : desk.store.Accounted (enter l.unended number (desk.opened.get? name)).get?) :
    Sound ⟨desk, enter l.unended number (desk.opened.get? name)⟩ where
  desk := sound
  store := store
  accounted := accounted
  entered := fun other ux hu => by
    have hr := replaces_enter l.unended number (desk.opened.get? name)
    by_cases hne : other = name
    · subst hne
      rw [id ux hu]
      exact hr.here.trans hu
    · rw [elsewhere other hne] at hu
      exact (hr.elsewhere ux.id (apart other ux hne hu)).trans (h.entered other ux hu)
  numbered := fun n ux hu => by
    obtain ⟨rfl, hnow⟩ | ⟨_, hold⟩ := (replaces_enter l.unended number _).cases hu
    · exact id ux hnow
    · exact h.numbered n ux hold

theorem begin (h : l.Sound) (name : String) : (l.take (.serve name .begin)).Sound := by
  have hr := replaces_enter l.unended l.desk.store.nextTransaction (some l.desk.store.begin.1)
  have hnew : l.unended.get? l.desk.store.nextTransaction = none := by
    cases hu : l.unended.get? l.desk.store.nextTransaction with
    | none => rfl
    | some ux =>
      have hlt := h.store.issued _ ux hu
      rw [h.numbered _ ux hu] at hlt
      exact absurd hlt (Nat.lt_irrefl _)
  have hnow : (l.desk.openUnder name).1.opened.get? name = some l.desk.store.begin.1 :=
    Desk.opened_put_self _ name _
  refine h.entry name (Desk.sound_openUnder h.desk name) ?_ ?_ ?_ ?_ ?_
  · exact fun other hne => Table.get?_insert_of_ne l.desk.opened _ hne
  · intro ux hu
    cases hnow.symm.trans hu
    rfl
  · exact fun other ux _ hu => Nat.ne_of_lt (h.desk.issued other ux hu)
  · exact hnow ▸ h.store.begin hr
  · exact hnow ▸ h.accounted.begin hnew hr

theorem served (h : l.Sound) (ho : l.desk.opened.get? name = some tx)
    (hord : demand.stages = true → tx.prepared = false) {e : Desk}
    (hserved : Desk.Served l.desk name tx demand e) :
    Sound ⟨e, enter l.unended tx.id (e.opened.get? name)⟩ := by
  have hr := replaces_enter l.unended tx.id (e.opened.get? name)
  have hi := h.entered name tx ho
  refine h.entry name (hserved.sound h.desk ho ho hserved.replaces hord)
    (fun other hne => hserved.elsewhere hne) (fun ux hu => hserved.id_eq ho hu) ?_
    (hserved.sound h.store hi ho hr hord) (hserved.accounted h.accounted hi ho hr hord)
  intro other ux hne hu hid
  exact hne (h.desk.unique other name ux tx hu ho hid)

/-- **A turn keeps the ledger right.** -/
theorem take (h : l.Sound) (turn : Desk.Turn) (allowed : l.desk.allows turn = true) :
    (l.take turn).Sound := by
  cases turn with
  | refuse refusing =>
    exact ⟨Desk.sound_take _ allowed h.desk, h.store.congr rfl rfl rfl, h.accounted, h.entered,
      h.numbered⟩
  | serve name demand =>
    rw [Desk.allows_serve_iff] at allowed
    by_cases hd : demand = .begin
    · subst hd
      exact h.begin name
    · simp only [Ledger.take, number?, if_neg hd, Desk.take, Desk.serve_of_ne_begin hd]
      cases ho : l.desk.opened.get? name with
      | none => exact h
      | some tx => exact h.served ho (fun hs => allowed hs tx ho) (Desk.served hd)

end Sound

/-- **The ledger is right all along an orderly run.** -/
theorem sound_play (turns : List Desk.Turn) (l : Ledger) (ordered : l.desk.orderly turns = true)
    (h : l.Sound) : (l.play turns).Sound := by
  induction turns generalizing l with
  | nil => exact h
  | cons turn turns ih =>
    rw [Desk.orderly, Bool.and_eq_true] at ordered
    exact ih (l.take turn) ordered.2 (h.take turn ordered.1)

/-! ## Conflicts -/

/-- Another symbol than `keep` holds a code: in a committed row that the transaction does not write, in
its own writes, or in those of another transaction that was voted for and never ended. -/
inductive Conflict (l : Ledger) (tx : Transaction) (code : String) (keep : Int64) : Prop
  | committed {id : Int64} {row : Symbol} (stored : l.desk.store.rows.get? id = some row)
      (kept : tx.staged.contains id = false) (other : id ≠ keep) (holds : row.code = code)
  | own {id : Int64} {symbol : Symbol} (writes : tx.written? id = some symbol) (other : id ≠ keep)
      (holds : symbol.code = code)
  | promised {number : Nat} {ux : Transaction} {id : Int64} {symbol : Symbol}
      (unended : l.unended.get? number = some ux) (voted : ux.prepared = true) (another : ux.id ≠ tx.id)
      (writes : ux.written? id = some symbol) (other : id ≠ keep) (holds : symbol.code = code)

/-- Another transaction that was voted for and never ended gives a code to the symbol `keep` itself. -/
def SameSymbol (l : Ledger) (tx : Transaction) (code : String) (keep : Int64) : Prop :=
  ∃ number ux symbol, l.unended.get? number = some ux ∧ ux.prepared = true ∧ ux.id ≠ tx.id ∧
    ux.written? keep = some symbol ∧ symbol.code = code

/-- A code may not be given to the symbol `keep`. -/
def Taken (l : Ledger) (tx : Transaction) (code : String) (keep : Int64) : Prop :=
  l.Conflict tx code keep ∨ l.SameSymbol tx code keep

variable {l : Ledger} {name : String} {tx : Transaction}

/-- A reservation of another transaction is a write of it. -/
theorem Sound.reservedByOther_iff (h : l.Sound) (code : String) :
    (∃ holder, l.desk.store.reserved.get? code = some holder ∧ holder ≠ tx.id) ↔
      ∃ number ux, l.unended.get? number = some ux ∧ ux.prepared = true ∧ ux.id ≠ tx.id ∧
        ux.Writes code := by
  constructor
  · rintro ⟨holder, hreserved, hne⟩
    obtain ⟨number, ux, hu, rfl, hp, hw⟩ := h.accounted code holder hreserved
    exact ⟨number, ux, hu, hp, hne, hw⟩
  · rintro ⟨number, ux, hu, hp, hne, hw⟩
    exact ⟨ux.id, (h.store.backed number ux hu hp).reserves code hw, hne⟩

/-- **When a code is taken**: if another symbol holds it, or the same symbol is given it by another
transaction that was voted for. -/
theorem Sound.codeTaken_iff (h : l.Sound) (code : String) (keep : Int64) :
    l.desk.store.codeTaken tx code keep = true ↔ l.Taken tx code keep := by
  rw [Store.codeTaken_iff, h.reservedByOther_iff]
  constructor
  · rintro (⟨id, row, hrow, hne, hkept, hcode⟩ | ⟨number, ux, hu, hp, hne, id, symbol, hw, hcode⟩ |
      ⟨id, symbol, hw, hne, hcode⟩)
    · rw [h.store.keyed id row hrow] at hne hkept
      exact .inl (.committed hrow hkept hne hcode)
    · by_cases hid : id = keep
      · exact .inr ⟨number, ux, symbol, hu, hp, hne, hid ▸ hw, hcode⟩
      · exact .inl (.promised hu hp hne hw hid hcode)
    · exact .inl (.own hw hne hcode)
  · rintro (conflict | ⟨number, ux, symbol, hu, hp, hne, hw, hcode⟩)
    · cases conflict with
      | committed hrow hkept hne hcode =>
        rw [← h.store.keyed _ _ hrow] at hne hkept
        exact .inl ⟨_, _, hrow, hne, hkept, hcode⟩
      | own hw hne hcode => exact .inr (.inr ⟨_, _, hw, hne, hcode⟩)
      | promised hu hp hne hw _ hcode => exact .inr (.inl ⟨_, _, hu, hp, hne, _, _, hw, hcode⟩)
    · exact .inr (.inl ⟨number, ux, hu, hp, hne, keep, symbol, hw, hcode⟩)

theorem Sound.codeTaken_eq_false_iff (h : l.Sound) (code : String) (keep : Int64) :
    l.desk.store.codeTaken tx code keep = false ↔ ¬ l.Taken tx code keep := by
  rw [← h.codeTaken_iff, Bool.not_eq_true]

/-! ## Answers -/

/-- What the store answers in an open transaction, by what is taken. A creation has no symbol to keep
yet, for which the store writes the id 0. -/
structure Answers (l : Ledger) (name : String) (tx : Transaction) : Prop where
  created : ∀ symbol, (∃ written, (l.desk.serve name (.create symbol)).2 = some (.ok (.symbol written))) ↔
    ¬ l.Taken tx symbol.code 0
  notCreated : ∀ symbol code,
    (l.desk.serve name (.create symbol)).2 = some (.error (.duplicate code)) ↔
      code = symbol.code ∧ l.Taken tx code 0
  updated : ∀ symbol, (∃ written, (l.desk.serve name (.update symbol)).2 = some (.ok (.symbol written))) ↔
    (∃ existing, tx.view l.desk.store.rows symbol.id = some existing) ∧
      ¬ l.Taken tx symbol.code symbol.id
  notUpdated : ∀ symbol code,
    (l.desk.serve name (.update symbol)).2 = some (.error (.duplicate code)) ↔
      (∃ existing, tx.view l.desk.store.rows symbol.id = some existing) ∧
        code = symbol.code ∧ l.Taken tx code symbol.id
  voted : (l.desk.serve name .prepare).2 = some (.ok .done) ↔
    l.desk.store.refusing = false ∧
      ∀ id symbol, tx.written? id = some symbol → ¬ l.Taken tx symbol.code id
  notVoted : ∀ code, (l.desk.serve name .prepare).2 = some (.error (.duplicate code)) →
    ∃ id symbol, tx.written? id = some symbol ∧ symbol.code = code ∧ l.Taken tx code id

/-- A reply that is read off what the store answers is an error just if that is. -/
theorem reply_error_iff {α : Type} (answer : Except DataError α) (f : α → Reply) (e : DataError) :
    some (answer.map f) = some (.error e) ↔ answer = .error e := by
  cases answer <;> simp [Except.map]

theorem reply_symbol_iff {α : Type} (answer : Except DataError α) (f : α → Symbol) :
    (∃ written, some (answer.map fun a => Reply.symbol (f a)) = some (.ok (.symbol written))) ↔
      ∃ a, answer = .ok a := by
  cases answer <;> simp [Except.map]

theorem reply_done_iff {α : Type} (answer : Except DataError α) :
    some (answer.map fun _ => Reply.done) = some (.ok .done) ↔ ∃ a, answer = .ok a := by
  cases answer <;> simp [Except.map]

variable {d : Desk}

theorem reply_create (ho : d.opened.get? name = some tx) (symbol : Symbol) :
    (d.serve name (.create symbol)).2 =
      some ((d.store.create tx symbol d.clock.now).map fun r => .symbol r.1) := by
  rw [Desk.serve_of_ne_begin (by simp), ho]
  simp only [Desk.serveIn]
  split <;> simp_all [Except.map]

theorem reply_update (ho : d.opened.get? name = some tx) (symbol : Symbol) :
    (d.serve name (.update symbol)).2 =
      some ((d.store.update tx symbol d.clock.now).map fun r => .symbol r.1) := by
  rw [Desk.serve_of_ne_begin (by simp), ho]
  simp only [Desk.serveIn]
  split <;> simp_all [Except.map]

theorem reply_prepare (ho : d.opened.get? name = some tx) :
    (d.serve name .prepare).2 = some ((d.store.prepare tx).map fun _ => .done) := by
  rw [Desk.serve_of_ne_begin (by decide), ho]
  simp only [Desk.serveIn]
  split <;> simp_all [Except.map]

/-- **The answers of the store**, in a transaction that is open under a name. -/
theorem Sound.answers (h : l.Sound) (ho : l.desk.opened.get? name = some tx) : l.Answers name tx where
  created := fun symbol => by
    rw [reply_create ho, reply_symbol_iff, ← h.codeTaken_eq_false_iff]
    simp only [Store.create_eq_ok_iff, exists_and_left, exists_eq, and_true]
  notCreated := fun symbol code => by
    rw [reply_create ho, reply_error_iff, Store.create_error_iff, ← h.codeTaken_iff, and_comm,
      DataError.duplicate.injEq]
    exact and_congr_right fun heq => by rw [heq]
  updated := fun symbol => by
    rw [reply_update ho, reply_symbol_iff, ← h.codeTaken_eq_false_iff]
    constructor
    · rintro ⟨_, hok⟩
      obtain ⟨existing, hview, hfree, -⟩ := (Store.update_eq_ok_iff _ _ _ _ _).mp hok
      exact ⟨⟨existing, hview⟩, hfree⟩
    · rintro ⟨⟨existing, hview⟩, hfree⟩
      exact ⟨_, (Store.update_eq_ok_iff _ _ _ _ _).mpr ⟨existing, hview, hfree, rfl⟩⟩
  notUpdated := fun symbol code => by
    rw [reply_update ho, reply_error_iff, Store.update_error_duplicate_iff, h.codeTaken_iff]
  voted := by
    rw [reply_prepare ho, reply_done_iff]
    simp only [Store.prepare_eq_ok_iff, Store.conflict_eq_none_iff, h.codeTaken_eq_false_iff,
      exists_and_left, exists_eq, and_true]
  notVoted := fun code hduplicate => by
    rw [reply_prepare ho, reply_error_iff, Store.prepare_error_duplicate_iff] at hduplicate
    obtain ⟨id, symbol, hw, hcode, htaken⟩ := Store.exists_written_of_conflict hduplicate.2
    exact ⟨id, symbol, hw, hcode, (h.codeTaken_iff code id).mp htaken⟩

/-- **A duplicate is reported for a code that is taken, and only for that**, whatever transactions did
before and in whatever order, as long as none staged a write after the vote for it. A code is taken if
another symbol holds it, or if another voted transaction gives it to the same symbol. -/
theorem duplicate_iff_taken (nextId : Int64) (clock : Clock) (turns : List Desk.Turn)
    (orderly : (Desk.fresh nextId clock).orderly turns = true) :
    let l := (fresh nextId clock).play turns
    l.desk = (Desk.fresh nextId clock).play turns ∧
      ∀ name tx, l.desk.opened.get? name = some tx → l.Answers name tx := by
  intro l
  have sound : l.Sound := sound_play turns _ orderly (.fresh nextId clock)
  exact ⟨desk_play turns _, fun name tx ho => sound.answers ho⟩

/-- The symbol with the id 1 is described anew by one client, who is voted for. Another client opens a
transaction. -/
def describedTwice : List Desk.Turn :=
  let symbol := fun id description => (⟨id, "Bitcoin", "BTC", description, .epoch, .epoch⟩ : Symbol)
  [.serve "seed" .begin, .serve "seed" (.create (symbol 0 "")), .serve "seed" .commit,
    .serve "a" .begin, .serve "a" (.update (symbol 1 "a coin")), .serve "a" .prepare, .serve "b" .begin]

theorem describedTwice_answers :
    (Desk.fresh 1 default).orderly describedTwice = true ∧
      ((fresh 1 default).play describedTwice).desk.opened.get? "b" = some { id := 3 } ∧
      ((fresh 1 default).play describedTwice).Answers "b" { id := 3 } := by
  have ordered : (Desk.fresh 1 default).orderly describedTwice = true := by decide +kernel
  have opened : ((fresh 1 default).play describedTwice).desk.opened.get? "b" = some { id := 3 } := by
    decide +kernel
  exact ⟨ordered, opened, (duplicate_iff_taken 1 default describedTwice ordered).2 "b" _ opened⟩

/-- The second client wants to describe the symbol, too, under the code that it has. It is refused as a
duplicate although no other symbol has that code, anywhere. -/
theorem sameSymbol_refused :
    let l := (fresh 1 default).play describedTwice
    (l.desk.serve "b" (.update ⟨1, "Bitcoin", "BTC", "the coin", .epoch, .epoch⟩)).2 =
        some (.error (.duplicate "BTC")) ∧
      l.desk.opened.get? "b" = some { id := 3 } ∧ ¬ l.Conflict { id := 3 } "BTC" 1 := by
  intro l
  refine ⟨rfl, by decide +kernel, fun conflict => ?_⟩
  cases conflict with
  | committed hrow _ hne _ =>
    have hrows : ∀ e ∈ l.desk.store.rows.entries, e.1 = 1 := by decide +kernel
    exact hne (hrows _ ((Table.mem_entries_iff _ _ _).mpr hrow))
  | own hw _ _ => cases hw
  | promised hu _ _ hw hne _ =>
    have hwritten : ∀ e ∈ l.unended.entries, ∀ c ∈ e.2.codes, c.1 = 1 := by decide +kernel
    exact hne (hwritten _ ((Table.mem_entries_iff _ _ _).mpr hu) _
      (Transaction.mem_codes_iff.mpr ⟨_, hw, rfl⟩))

end Ledger

end SymbolRelay
