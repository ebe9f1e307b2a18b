import Mathlib.Data.List.Nodup
import SymbolRelay.Proofs.Service.Alone
import SymbolRelay.Proofs.Service.Atomicity
import SymbolRelay.Proofs.Store.IdSequence
import SymbolRelay.Standin.Compact
import SymbolRelay.Standin.NumberedIds

/-!
# What is stored

Whoever asks for writes through the service, in whatever order and however often, the store only ever
holds symbols that are presentable: each under its own id, with a name, a code and a description within
the bounds, and with the time at which it was created. A change takes that time over from the symbol
that it changes, so it goes back, over any number of changes, to the call that created the symbol.

A call that fails its checks, or does not find what it is to remove, leaves everything as it was.

## Results

* `wellKept_run` — every stored symbol was checked, and has the time that a creation of its id returned;
* `created_unique` — no two creations return one id before the sequence of ids has come round;
* `Rejected.foldl` — a call that was rejected stays so, whatever comes after;
* `rows_presentable_and_dated` — what is stored, and what rejected calls do.
-/

set_option autoImplicit false

namespace SymbolRelay

/-- A symbol that is fit to be stored. -/
structure Symbol.Presentable (s : Symbol) : Prop where
  named : Text.isBlank s.name = false
  name : s.name.length ≤ 100
  coded : 1 ≤ s.code.length
  code : s.code.length ≤ 32
  codeChars : ∀ c ∈ s.code.toList,
    ('A' ≤ c ∧ c ≤ 'Z') ∨ ('0' ≤ c ∧ c ≤ '9') ∨ c = '.' ∨ c = '-' ∨ c = '_'
  description : s.description.length ≤ 1000

theorem Symbol.presentable_of_validate {s : Symbol} (h : s.validate = .ok ()) : s.Presentable := by
  obtain ⟨hnamed, hname, hcoded, hcode, hchars, hdescription⟩ := s.validate_eq_ok_iff.mp h
  refine ⟨hnamed, hname, ?_, hcode, ?_, hdescription⟩
  · refine Nat.pos_of_ne_zero fun hzero => ?_
    rw [String.length_eq_zero_iff.mp hzero, Text.isBlank_empty] at hcoded
    cases hcoded
  · intro c hc
    have hchar := List.all_eq_true.mp hchars c hc
    simpa [isCodeChar, or_assoc] using hchar

/-- Only the fields that the store leaves alone are checked. -/
theorem Symbol.validate_congr {s t : Symbol} (name : s.name = t.name) (code : s.code = t.code)
    (description : s.description = t.description) : s.validate = t.validate := by
  simp only [validate, rules, name, code, description]

/-- The world with an empty store, whose first id is the given one or 1. -/
def World.stockless {ξ : Type} (world : World ξ) (nextId : Int64) : World ξ :=
  { world with store := .withNextId nextId }

/-! ## Checks -/

/-- Whether the symbol that is to be written is valid. -/
def Write.Valid : Write → Prop
  | .create symbol | .update symbol => symbol.validate = .ok ()
  | .delete _ => True

/-- What comes of a valid write is valid. -/
theorem Write.Valid.of_yields {what : Write} {written symbol : Symbol} (h : what.Valid)
    (yields : what.Yields written) (leaves : (what.leaves written).symbol? = some symbol) :
    symbol.validate = .ok () := by
  cases what with
  | create wanted =>
    obtain ⟨_, _, _, rfl⟩ := yields
    cases leaves
    exact (Symbol.validate_congr rfl rfl rfl).trans h
  | update wanted =>
    obtain ⟨_, _, rfl⟩ := yields
    cases leaves
    exact (Symbol.validate_congr rfl rfl rfl).trans h
  | delete _ => cases leaves

/-- A write is rejected with an error before anything is done: its symbol is not valid, or its id is not
one that a stored symbol can have. An id is looked at first. -/
inductive Write.Refused : Write → DomainError → Prop
  | create {symbol : Symbol} {cause : ValidationError} (invalid : symbol.validate = .error cause) :
    Refused (.create symbol) (.validationFailed cause)
  | updateId {symbol : Symbol} (h : symbol.id ≤ 0) : Refused (.update symbol) (.invalidId symbol.id)
  | update {symbol : Symbol} {cause : ValidationError} (h : 0 < symbol.id)
    (invalid : symbol.validate = .error cause) : Refused (.update symbol) (.validationFailed cause)
  | delete {id : Int64} (h : id ≤ 0) : Refused (.delete id) (.invalidId id)

namespace SymbolService

variable {ξ : Type} {codec : Codec} {what : Write} {e : DomainError}

/-- A write is rejected just if its call ends with its beginning. -/
theorem refused_iff [IdSource] :
    what.Refused e ↔
      (direct codec Symbol.validate : SymbolService ξ Transaction).start what = .ended (.error e) := by
  have idChecked : ∀ id : Int64, id ≤ 0 ∨ 0 < id := fun id => Int64.le_or_lt id 0
  constructor
  · rintro (hinvalid | hid | ⟨hid, hinvalid⟩ | hid)
    · simp [start, check, direct, hinvalid, Call.ofCheck, Except.mapError]
    · simp [start, checkId, hid, Call.ofCheck, Except.bind]
    · simp [start, checkId_of_pos hid, check, direct, hinvalid, Call.ofCheck, Except.bind,
        Except.mapError]
    · simp [start, checkId, hid, Call.ofCheck]
  · intro h
    cases what with
    | create symbol =>
      cases hv : symbol.validate with
      | ok _ => simp [start, check, direct, hv, Call.ofCheck, Except.mapError] at h
      | error cause =>
        simp [start, check, direct, hv, Call.ofCheck, Except.mapError] at h
        exact h ▸ .create hv
    | update symbol =>
      rcases idChecked symbol.id with hid | hid
      · simp [start, checkId, hid, Call.ofCheck, Except.bind] at h
        exact h ▸ .updateId hid
      · cases hv : symbol.validate with
        | ok _ =>
          simp [start, checkId_of_pos hid, check, direct, hv, Call.ofCheck, Except.bind,
            Except.mapError] at h
        | error cause =>
          simp [start, checkId_of_pos hid, check, direct, hv, Call.ofCheck, Except.bind,
            Except.mapError] at h
          exact h ▸ .update hid hv
    | delete id =>
      rcases idChecked id with hid | hid
      · simp [start, checkId, hid, Call.ofCheck] at h
        exact h ▸ .delete hid
      · simp [start, checkId_of_pos hid, Call.ofCheck] at h

/-- A write that is not rejected is valid. -/
theorem valid_or_refused (what : Write) : what.Valid ∨ ∃ e, what.Refused e := by
  cases what with
  | create symbol =>
    cases hv : symbol.validate with
    | ok _ => exact .inl hv
    | error cause => exact .inr ⟨_, .create hv⟩
  | update symbol =>
    cases hv : symbol.validate with
    | ok _ => exact .inl hv
    | error cause =>
      rcases Int64.le_or_lt symbol.id 0 with hid | hid
      · exact .inr ⟨_, .updateId hid⟩
      · exact .inr ⟨_, .update hid hv⟩
  | delete _ => exact .inl trivial

/-- A change takes over the time of creation of the row that it changes. -/
theorem StepsTo.dates [BinaryFormat] [IdSource] {ctx : Context} {ds : List (Deed ξ)}
    {c c' : Call Transaction} {w w' : World ξ} {symbol written : Symbol} (h : StepsTo codec ctx c w c' w')
    (hs : Standing (.update symbol) ds c) (hw : c'.written? = some written) :
    c.written? = some written ∨
      ∃ row, w.store.rows.get? written.id = some row ∧ written.createdAt = row.createdAt := by
  cases h with
  | @staged change u _ _ _ _ _ hcarry =>
    cases hw
    obtain ⟨asks, blank, _, _, _⟩ := hs
    cases change with
    | create _ | delete _ _ => exact asks.elim
    | update wanted =>
      obtain rfl : wanted = symbol := asks
      simp only [carryOut] at hcarry
      cases hu : w.store.update u.tx wanted w.clock.now with
      | error e => simp [hu, Except.map] at hcarry
      | ok r =>
        simp only [hu, Except.map, Except.ok.injEq, Prod.mk.injEq] at hcarry
        obtain ⟨rfl, rfl, rfl⟩ := hcarry
        obtain ⟨row, hview, _, rfl⟩ := (Store.update_eq_ok_iff _ _ _ _ _).mp hu
        rw [Transaction.view_of_not_staged (by rw [blank]; rfl)] at hview
        exact .inr ⟨row, hview, rfl⟩
  | voted _ _ | told _ | committed _ | rested => exact .inl hw
  | _ => cases hw

theorem StepsTo.ne_lookup [BinaryFormat] [IdSource] {ctx : Context} {c c' : Call Transaction} {w w' : World ξ}
    (h : StepsTo codec ctx c w c' w') (id : Int64) : c' ≠ .lookup id := by
  cases h <;> exact fun hn => by cases hn

theorem step_of_missing [BinaryFormat] [IdSource] {validator : Symbol → Except ValidationError Unit}
    {ctx : Context} {w : World ξ} {id : Int64} (missing : w.store.rows.get? id = none) :
    (direct codec validator).step ctx (.lookup id) w = (.ended (.error .notFound), w) := by
  simp [step, outside, direct, Action.mapError, ofStore_find, Store.find, missing, Outcome.ofExcept,
    Outcome.mapError, DomainError.ofData]

end SymbolService

namespace Traffic

variable {ξ : Type}

/-! ## Where a time of creation comes from -/

/-- The call with a number has created a symbol and returned it. -/
def Created (t : Traffic ξ) (k : Nat) (created : Symbol) : Prop :=
  ∃ c symbol, t.callers[k]? = some c ∧ c.what = .create symbol ∧ c.call = .ended (.ok created)

/-- A time is that at which a symbol with an id was created. -/
def DatedBy (t : Traffic ξ) (id : Int64) (time : Time) : Prop :=
  ∃ k created, t.Created k created ∧ created.id = id ∧ time = created.createdAt

/-- What holds of the rows and of what is about to become one. -/
structure WellKept (t : Traffic ξ) : Prop where
  checked : ∀ c ∈ t.callers, c.what.Valid ∨ ∃ e, c.call = .ended (.error e)
  valid : ∀ id row, t.world.store.rows.get? id = some row → row.validate = .ok ()
  dated : ∀ id row, t.world.store.rows.get? id = some row → t.DatedBy id row.createdAt
  dating : ∀ c ∈ t.callers, ∀ symbol written, c.what = .update symbol →
    c.call.written? = some written → t.DatedBy written.id written.createdAt

variable {codec : Codec} {start : World ξ} {t : Traffic ξ}

theorem DatedBy.of_created {u : Traffic ξ} {id : Int64} {time : Time} (h : t.DatedBy id time)
    (kept : ∀ k created, t.Created k created → u.Created k created) : u.DatedBy id time := by
  obtain ⟨k, created, hc, hid, htime⟩ := h
  exact ⟨k, created, kept k created hc, hid, htime⟩

theorem Created.call [BinaryFormat] (s : SymbolService ξ Transaction) (ctx : Context) (what : Write) {k : Nat}
    {created : Symbol} (h : t.Created k created) : (t.move s (.call ctx what)).Created k created := by
  obtain ⟨c, symbol, hc, hwhat, hended⟩ := h
  exact ⟨c, symbol, by rw [move, List.getElem?_append_left (List.getElem?_eq_some_iff.mp hc).1, hc],
    hwhat, hended⟩

/-- A call that has ended stays so, whoever takes a step. -/
theorem Created.step [BinaryFormat] [IdSource] {k j : Nat} {c : Caller} {created : Symbol}
    (hc : t.callers[k]? = some c) {call : Call Transaction} {world : World ξ} {deeds : List (Deed ξ)}
    (hs : SymbolService.StepsTo codec c.ctx c.call t.world call world) (h : t.Created j created) :
    (⟨world, t.callers.set k { c with call }, deeds⟩ : Traffic ξ).Created j created := by
  obtain ⟨c', symbol, hc', hwhat, hended⟩ := h
  by_cases hjk : k = j
  · subst hjk
    obtain rfl : c = c' := Option.some.inj (hc.symm.trans hc')
    rw [hended] at hs
    cases hs with
    | rested =>
      exact ⟨_, symbol, List.getElem?_set_self (List.getElem?_eq_some_iff.mp hc).1, hwhat, rfl⟩
  · exact ⟨c', symbol, (List.getElem?_set_ne hjk).trans hc', hwhat, hended⟩

namespace WellKept

theorem atStart {world : World ξ} (empty : world.store.rows = Table.empty) :
    WellKept { world := world } where
  checked := fun _ hn => by cases hn
  valid := fun id row hrow => by
    rw [empty] at hrow
    cases hrow
  dated := fun id row hrow => by
    rw [empty] at hrow
    cases hrow
  dating := fun _ hn => by cases hn

theorem disturb (h : WellKept t) (disturbance : Disturbance) :
    WellKept { t with world := disturbance.act t.world } := by
  have hrows : (disturbance.act t.world).store.rows = t.world.store.rows := by
    cases disturbance <;> rfl
  refine ⟨h.checked, ?_, ?_, h.dating⟩
  · intro id row hrow
    rw [hrows] at hrow
    exact h.valid id row hrow
  · intro id row hrow
    rw [hrows] at hrow
    exact h.dated id row hrow

theorem call [BinaryFormat] [IdSource] (h : WellKept t) (ctx : Context) (what : Write) :
    WellKept (t.move (SymbolService.direct codec Symbol.validate) (.call ctx what)) := by
  have kept : ∀ k created, t.Created k created →
      (t.move (SymbolService.direct codec Symbol.validate) (.call ctx what)).Created k created :=
    fun _ _ hc => hc.call _ ctx what
  refine ⟨?_, h.valid, fun id row hrow => (h.dated id row hrow).of_created kept, ?_⟩
  · intro c hc
    rcases List.mem_append.mp hc with hc | hc
    · exact h.checked c hc
    · rw [List.mem_singleton] at hc
      subst hc
      rcases SymbolService.valid_or_refused what with hvalid | ⟨e, hrefused⟩
      · exact .inl hvalid
      · exact .inr ⟨e, SymbolService.refused_iff.mp hrefused⟩
  · intro c hc symbol written hwhat hwritten
    rcases List.mem_append.mp hc with hc | hc
    · exact (h.dating c hc symbol written hwhat hwritten).of_created kept
    · rw [List.mem_singleton] at hc
      subst hc
      rw [Alone.written?_start] at hwritten
      cases hwritten

/-- The rows after a call has committed what it holds. -/
theorem commit [BinaryFormat] (h : WellKept t) (hl : Lawful start t) {k : Nat} {c : Caller}
    (hc : t.callers[k]? = some c) {u : UnitOfWork Transaction} {written : Symbol}
    (hcall : c.call = .leave (.ok written) u) {after : Traffic ξ}
    (kept : ∀ j created, t.Created j created → after.Created j created)
    (ended : ∀ symbol, c.what = .create symbol → after.Created k written) {id : Int64} {row : Symbol}
    (hrow : (Store.applyWrite t.world.store.rows written.id (c.what.leaves written)).get? id = some row) :
    row.validate = .ok () ∧ after.DatedBy id row.createdAt := by
  have hmem := List.mem_of_getElem? hc
  rw [Store.get?_applyWrite] at hrow
  split at hrow
  · rename_i hid
    have hstanding := hl.standing k c hc
    rw [hcall] at hstanding
    obtain ⟨⟨yields, _⟩, _⟩ := hstanding
    have hvalid : c.what.Valid := by
      rcases h.checked c hmem with hvalid | ⟨e, hended⟩
      · exact hvalid
      · rw [hcall] at hended
        cases hended
    refine ⟨hvalid.of_yields yields hrow, ?_⟩
    cases hwhat : c.what with
    | create symbol =>
      rw [hwhat] at hrow
      cases hrow
      exact ⟨k, written, ended symbol hwhat, hid.symm, rfl⟩
    | update symbol =>
      rw [hwhat] at hrow
      cases hrow
      rw [hid]
      exact (h.dating c hmem symbol written hwhat (by rw [hcall]; rfl)).of_created kept
    | delete _ =>
      rw [hwhat] at hrow
      cases hrow
  · exact ⟨h.valid id row hrow, (h.dated id row hrow).of_created kept⟩

/-- **A step of a call keeps the rows well.** -/
theorem step [BinaryFormat] [IdSource] (h : WellKept t) (hl : Lawful start t) {k : Nat} {c : Caller}
    (hc : t.callers[k]? = some c) {call : Call Transaction} {world : World ξ}
    (hs : SymbolService.StepsTo codec c.ctx c.call t.world call world) (deeds : List (Deed ξ)) :
    WellKept ⟨world, t.callers.set k { c with call }, deeds⟩ := by
  have hmem := List.mem_of_getElem? hc
  have hstanding := hl.standing k c hc
  have kept : ∀ j created, t.Created j created →
      (⟨world, t.callers.set k { c with call }, deeds⟩ : Traffic ξ).Created j created :=
    fun _ _ hcreated => hcreated.step hc hs
  have rows : ∀ id row, world.store.rows.get? id = some row → row.validate = .ok () ∧
      (⟨world, t.callers.set k { c with call }, deeds⟩ : Traffic ξ).DatedBy id row.createdAt := by
    intro id row hrow
    rcases hs.rows_cases hstanding with ⟨hsame, _⟩ | ⟨written, u, hbefore, hended, hrows, _⟩
    · rw [hsame] at hrow
      exact ⟨h.valid id row hrow, (h.dated id row hrow).of_created kept⟩
    · rw [hrows] at hrow
      refine h.commit hl hc hbefore kept (fun symbol hwhat => ?_) hrow
      exact ⟨_, symbol, List.getElem?_set_self (List.getElem?_eq_some_iff.mp hc).1, hwhat, hended⟩
  refine ⟨?_, fun id row hrow => (rows id row hrow).1, fun id row hrow => (rows id row hrow).2, ?_⟩
  · intro c' hc'
    rcases List.mem_or_eq_of_mem_set hc' with hc' | rfl
    · exact h.checked c' hc'
    · rcases h.checked c hmem with hvalid | ⟨e, hended⟩
      · exact .inl hvalid
      · rw [hended] at hs
        cases hs
        exact .inr ⟨e, rfl⟩
  · intro c' hc' symbol written hwhat hwritten
    rcases List.mem_or_eq_of_mem_set hc' with hc' | rfl
    · exact (h.dating c' hc' symbol written hwhat hwritten).of_created kept
    · have hupdate : c.what = .update symbol := hwhat
      rw [hupdate] at hstanding
      rcases hs.dates hstanding hwritten with hold | ⟨row, hrow, hsame⟩
      · exact (h.dating c hmem symbol written hupdate hold).of_created kept
      · rw [hsame]
        exact (h.dated _ row hrow).of_created kept

end WellKept

/-- **Every stored symbol was checked, and has the time that a creation of its id returned**, whatever
the moves and their order. -/
theorem wellKept_run [BinaryFormat] [IdSource] (codec : Codec) {start : World ξ} (rest : AtRest start.store)
    (empty : start.store.rows = Table.empty) (moves : List Move) :
    WellKept (run (SymbolService.direct codec Symbol.validate) start moves) := by
  let Inv : Traffic ξ → Prop := fun t => Lawful start t ∧ WellKept t
  suffices both : Inv (run (SymbolService.direct codec Symbol.validate) start moves) from both.2
  refine run_induction codec Symbol.validate Inv ⟨.atStart rest, .atStart empty⟩ ?_ ?_ ?_ ?_ moves
  · rintro t ctx what ⟨hl, hk⟩
    exact ⟨hl.call _ ctx what, hk.call ctx what⟩
  · rintro t disturbance ⟨hl, hk⟩
    exact ⟨hl.disturb disturbance, hk.disturb disturbance⟩
  · rintro t k c ⟨hl, _⟩ hc
    exact (hl.standing k c hc).ready
  · rintro t k c call world ⟨hl, hk⟩ hc hs
    exact ⟨hl.step hc hs, hk.step hl hc hs _⟩

theorem Created.issued [BinaryFormat] {k : Nat} {created : Symbol} (hl : Lawful start t)
    (h : t.Created k created) :
    ∃ d ∈ t.deeds, d.caller = k ∧ created.id ∈ d.issued := by
  obtain ⟨c, symbol, hc, hwhat, hended⟩ := h
  have hstanding := hl.standing k c hc
  rw [hended, hwhat] at hstanding
  obtain ⟨_, _, _, _, _, hd, _⟩ := hstanding
  have hid : created.id ∈ (t.deedsOf k).flatMap Deed.issued := by
    rw [hd.issued]
    exact List.mem_singleton_self _
  obtain ⟨d, hd, hid⟩ := List.mem_flatMap.mp hid
  obtain ⟨hmem, hcaller⟩ := Lawful.mem_deedsOf.mp hd
  exact ⟨d, hmem, hcaller, hid⟩

/-- No two creations return one id before the sequence has come round. -/
theorem created_unique [BinaryFormat] {first : Int64} {m : Nat} (hl : Lawful start t)
    (hm : Sequenced first t m) (few : m ≤ 2 ^ 64) {j k : Nat} {a b : Symbol} (ha : t.Created j a)
    (hb : t.Created k b) (hid : a.id = b.id) : j = k ∧ a = b := by
  obtain ⟨d, hd, rfl, hda⟩ := ha.issued hl
  obtain ⟨e, he, rfl, heb⟩ := hb.issued hl
  obtain rfl := hm.eq_of_issued few hd he hda (hid ▸ heb)
  obtain ⟨c, _, hc, _, hended⟩ := ha
  obtain ⟨c', _, hc', _, hended'⟩ := hb
  obtain rfl : c = c' := Option.some.inj (hc.symm.trans hc')
  rw [hended] at hended'
  cases hended'
  exact ⟨rfl, rfl⟩

/-! ## Rejected calls -/

/-- The call with a number has ended with an error, and none of its steps has changed anything. -/
structure Rejected (t : Traffic ξ) (k : Nat) (e : DomainError) : Prop where
  ended : ∃ c, t.callers[k]? = some c ∧ c.call = .ended (.error e)
  quiet : ∀ d ∈ t.deedsOf k, d.after = d.before

namespace Rejected

variable {k : Nat} {e : DomainError}

/-- A rejected call stays so, whatever comes next. -/
theorem move [BinaryFormat] (h : t.Rejected k e) (s : SymbolService ξ Transaction) (m : Move) :
    (t.move s m).Rejected k e := by
  obtain ⟨⟨c, hc, hended⟩, quiet⟩ := h
  cases m with
  | call ctx what =>
    exact ⟨⟨c, by rw [Traffic.move, List.getElem?_append_left (List.getElem?_eq_some_iff.mp hc).1, hc],
      hended⟩, quiet⟩
  | disturb disturbance => exact ⟨⟨c, hc, hended⟩, quiet⟩
  | step j =>
    simp only [Traffic.move]
    split
    · exact ⟨⟨c, hc, hended⟩, quiet⟩
    · rename_i c' hc'
      by_cases hjk : j = k
      · subst hjk
        obtain rfl : c = c' := Option.some.inj (hc.symm.trans hc')
        refine ⟨⟨_, List.getElem?_set_self (List.getElem?_eq_some_iff.mp hc).1, ?_⟩, ?_⟩
        · simp only [hended, SymbolService.step]
        · intro d hd
          rw [Lawful.deedsOf_snoc, if_pos rfl] at hd
          rcases List.mem_append.mp hd with hd | hd
          · exact quiet d hd
          · rw [List.mem_singleton] at hd
            simp only [hd, hended, SymbolService.step]
      · refine ⟨⟨c, (List.getElem?_set_ne hjk).trans hc, hended⟩, fun d hd => quiet d ?_⟩
        rw [Lawful.deedsOf_snoc, if_neg hjk] at hd
        exact hd

theorem foldl [BinaryFormat] (s : SymbolService ξ Transaction) (later : List Move) (h : t.Rejected k e) :
    (later.foldl (Traffic.move s) t).Rejected k e := by
  induction later generalizing t with
  | nil => exact h
  | cons m later ih => exact ih (h.move s m)

/-- A write that does not pass its checks is rejected. -/
theorem of_refused [BinaryFormat] [IdSource] (hl : Lawful start t) (ctx : Context) {what : Write}
    (h : what.Refused e) :
    (t.move (SymbolService.direct codec Symbol.validate) (.call ctx what)).Rejected
      t.callers.length e where
  ended := ⟨_, by rw [Traffic.move, List.getElem?_concat_length], SymbolService.refused_iff.mp h⟩
  quiet := fun d hd => by
    obtain ⟨hmem, hcaller⟩ := Lawful.mem_deedsOf.mp hd
    exact absurd (hl.known d hmem) (by omega)

/-- A removal that finds nothing is rejected. -/
theorem of_missing [BinaryFormat] [IdSource] {c : Caller} {id : Int64} (hc : t.callers[k]? = some c)
    (hcall : c.call = .lookup id) (first : t.deedsOf k = []) (missing : t.world.store.rows.get? id = none) :
    (t.move (SymbolService.direct codec Symbol.validate) (.step k)).Rejected k .notFound := by
  have hstep : (SymbolService.direct codec Symbol.validate).step c.ctx c.call t.world =
      (.ended (.error .notFound), t.world) := by
    rw [hcall]
    exact SymbolService.step_of_missing missing
  simp only [Traffic.move, hc, hstep]
  refine ⟨⟨_, List.getElem?_set_self (List.getElem?_eq_some_iff.mp hc).1, rfl⟩, fun d hd => ?_⟩
  rw [Lawful.deedsOf_snoc, if_pos rfl, first, List.nil_append, List.mem_singleton] at hd
  rw [hd]

end Rejected

/-- A call that is to look for what it removes has not done anything yet. -/
theorem idle_of_lookup [BinaryFormat] [IdSource] (codec : Codec) {start : World ξ}
    (rest : AtRest start.store) (moves : List Move) :
    let t := run (SymbolService.direct codec Symbol.validate) start moves
    ∀ (k : Nat) (c : Caller) (id : Int64), t.callers[k]? = some c → c.call = .lookup id →
      t.deedsOf k = [] := by
  let Inv : Traffic ξ → Prop := fun t => Lawful start t ∧
    ∀ (k : Nat) (c : Caller) (id : Int64), t.callers[k]? = some c → c.call = .lookup id → t.deedsOf k = []
  suffices both : Inv (run (SymbolService.direct codec Symbol.validate) start moves) from both.2
  refine run_induction codec Symbol.validate Inv ⟨.atStart rest, fun _ _ _ hn => by cases hn⟩
    ?_ ?_ ?_ ?_ moves
  · rintro t ctx what ⟨hl, idle⟩
    refine ⟨hl.call _ ctx what, fun k c id hc hcall => ?_⟩
    rcases callers_call hc with hold | ⟨hlength, _⟩
    · exact idle k c id hold hcall
    · exact hl.deedsOf_eq_nil hlength
  · rintro t disturbance ⟨hl, idle⟩
    exact ⟨hl.disturb disturbance, idle⟩
  · rintro t k c ⟨hl, _⟩ hc
    exact (hl.standing k c hc).ready
  · rintro t j c call world ⟨hl, idle⟩ hc hs
    refine ⟨hl.step hc hs, fun k c' id hc' hcall => ?_⟩
    rcases callers_set hc' with ⟨rfl, rfl⟩ | ⟨hne, hold⟩
    · exact absurd hcall (hs.ne_lookup id)
    · rw [Lawful.deedsOf_snoc, if_neg (Ne.symm hne)]
      exact idle k c' id hold hcall

/-! ## What is stored, and what is not -/

/-- **What is stored, and what rejected calls do.** Over a store that was empty, with any first id,
whatever calls are made and in whatever order their steps come:

* every row is under its own id, is presentable, and has the time that a creation of its id returned,
  which is the only one as long as the sequence of ids has not come round;
* a call that does not pass its checks, and a removal that does not find its symbol, end with that
  error and change nothing, whatever comes after; nor does a reader's id that is refused;
* in transactions of the store with any number of changes, too, every row is under its own id and has
  the time that a creation of its id returned. -/
theorem rows_presentable_and_dated [BinaryFormat] [IdSource] (codec : Codec) (world : World ξ)
    (nextId : Int64) (moves : List Move) :
    let s : SymbolService ξ Transaction := .direct codec Symbol.validate
    let start := world.stockless nextId
    let t := run s start moves
    (∀ id row, t.world.store.rows.get? id = some row →
      row.id = id ∧ row.Presentable ∧ t.DatedBy id row.createdAt ∧
        ((t.deeds.flatMap Deed.issued).length ≤ 2 ^ 64 → ∀ k created, t.Created k created →
          created.id = id → row.createdAt = created.createdAt)) ∧
    (∀ ctx what e later, what.Refused e →
      (run s start (moves ++ .call ctx what :: later)).Rejected t.callers.length e) ∧
    (∀ k c id later, t.callers[k]? = some c → c.call = .lookup id →
      t.world.store.rows.get? id = none →
        (run s start (moves ++ .step k :: later)).Rejected k .notFound) ∧
    (∀ ctx id, id ≤ 0 → s.get ctx id t.world = (.error (.invalidId id), t.world)) ∧
    ∀ (clock : Clock) (turns : List Desk.Turn) (id : Int64) (row : Symbol),
      let d := Desk.fresh nextId clock
      (d.play turns).store.rows.get? id = some row →
        row.id = id ∧ (∃ created ∈ d.creations turns, created.id = id ∧
          row.createdAt = created.createdAt) ∧
        ((d.creations turns).length ≤ 2 ^ 64 → ∀ created ∈ d.creations turns, created.id = id →
          row.createdAt = created.createdAt) := by
  intro s start t
  have rest : AtRest start.store := .of_empty rfl rfl
  have lawful : Lawful start t := lawful_run codec Symbol.validate rest moves
  have wellKept : WellKept t := wellKept_run codec rest rfl moves
  obtain ⟨m, sequenced⟩ := sequenced_run codec Symbol.validate rest moves
  refine ⟨fun id row hrow => ?_, ?_, ?_, ?_, ?_⟩
  · have dated := wellKept.dated id row hrow
    refine ⟨lawful.sound.keyed id row hrow, Symbol.presentable_of_validate (wellKept.valid id row hrow),
      dated, fun few k created hcreated hid => ?_⟩
    rw [sequenced.length_issued] at few
    obtain ⟨j, other, hother, hotherId, htime⟩ := dated
    rw [htime, (created_unique lawful sequenced few hother hcreated (hotherId.trans hid.symm)).2]
  · intro ctx what e later hrefused
    rw [run, List.foldl_append, List.foldl_cons]
    exact (Rejected.of_refused lawful ctx hrefused).foldl s later
  · intro k c id later hc hcall missing
    rw [run, List.foldl_append, List.foldl_cons]
    exact (Rejected.of_missing hc hcall (idle_of_lookup codec rest moves k c id hc hcall) missing).foldl
      s later
  · intro ctx id hid
    exact SymbolService.get_of_not_pos (Int64.not_lt.mpr hid)
  · intro clock turns id row d hrow
    have numbered := Desk.numbered_play nextId clock turns
    obtain ⟨hid, other, hother, hotherId, htime⟩ := numbered.dated id row (.inl hrow)
    refine ⟨hid, ⟨other, hother, hotherId, htime⟩, fun few created hcreated hcreatedId => ?_⟩
    have distinct : ((d.creations turns).map (·.id)).Nodup := numbered.ids ▸ nodup_sequence _ few
    rw [htime, List.inj_on_of_nodup_map distinct hother hcreated (hotherId.trans hcreatedId.symm)]

/-- A symbol is created and renamed twice. Then somebody wants to rename one without an id. -/
def renamedTwice : List Move :=
  let ctx : Context := { scope := 1 }
  let named : Int64 → String → Symbol := fun id name => ⟨id, name, "BTC", "", .epoch, .epoch⟩
  [.call ctx (.create (named 0 "Bitcoin")), .step 0, .step 0, .step 0, .step 0, .step 0,
    .call ctx (.update (named 1 "Bit coin")), .step 1, .step 1, .step 1, .step 1, .step 1,
    .call ctx (.update (named 1 "The coin")), .step 2, .step 2, .step 2, .step 2, .step 2]

/-- The symbol after that: its times are those of its creation and of its last change. -/
def renamedCoin : Symbol := ⟨1, "The coin", "BTC", "", .epoch, Time.epoch.next.next.next.next⟩

/-- The call without an id. -/
def nameless : Write := .update ⟨0, "Nothing", "BTC", "", .epoch, .epoch⟩

/-- What happens by then, and after further moves. -/
def renamings [BinaryFormat] [IdSource] (later : List Move) : Traffic Unit :=
  run (.direct .default Symbol.validate) (quietWorld.stockless 1) (renamedTwice ++ later)

theorem renamedTwice_dated :
    (renamings []).world.store.rows.get? 1 = some renamedCoin ∧ renamedCoin.Presentable ∧
      (renamings []).DatedBy 1 renamedCoin.createdAt ∧ nameless.Refused (.invalidId 0) ∧
      (renamings [.call { scope := 1 } nameless, .step 3]).Rejected 3 (.invalidId 0) := by
  have stored : (renamings []).world.store.rows.get? 1 = some renamedCoin := by decide +kernel
  have three : (renamings []).callers.length = 3 := by decide +kernel
  have refused : nameless.Refused (.invalidId 0) := .updateId (by decide)
  obtain ⟨rows, rejected, _⟩ := rows_presentable_and_dated .default quietWorld 1 (renamedTwice ++ [])
  obtain ⟨_, presentable, dated, _⟩ := rows 1 renamedCoin stored
  have last := rejected { scope := 1 } nameless _ [.step 3] refused
  rw [show (run _ _ (renamedTwice ++ [])).callers.length = 3 from three] at last
  exact ⟨stored, presentable, dated, refused, last⟩

end Traffic

end SymbolRelay
