import SymbolRelay.Proofs.Service.Alone
import SymbolRelay.Proofs.Symbol.CatalogReplay
import SymbolRelay.Service.Session
import SymbolRelay.Standin.Compact
import SymbolRelay.Standin.NumberedIds

/-!
# The log determines the store

A session is a sequence of calls, each made when the one before has returned, with disturbances from
outside in between. Whoever reads all events of a session from the beginning knows what is in the store.

## Results

* `log_determines_store` — a catalog to which the whole log of a session was applied has exactly the
  committed symbols, each in the version that its successful changes have brought it to.
-/

set_option autoImplicit false

namespace SymbolRelay

variable {ξ : Type}

/-- Whether an answer is that a symbol was changed. -/
def tellsUpdate (id : Int64) : Write × Outcome DomainError Symbol → Bool
  | (.update symbol, .ok _) => symbol.id = id
  | _ => false

namespace Session

/-- How many changes of a symbol have succeeded. -/
def updates (s : Session ξ) (id : Int64) : Nat := s.answers.countP (tellsUpdate id)

/-- A catalog in step with a session: it knows the committed symbols, and remembers only uuids of ids that
were made. -/
structure Mirrors [IdSource] (s : Session ξ) (c : Catalog) : Prop where
  entries : ∀ id, c.entries.get? id =
    (s.world.store.rows.get? id).map fun row => row.entry (1 + s.updates id)
  recent : ∀ uuid ∈ c.recent.ids, ∃ n < s.world.ids.used, uuid = IdSource.text n

/-- What holds all along a session. -/
structure InStep [BinaryFormat] [IdSource] (window : Nat) (s : Session ξ) : Prop where
  atRest : Traffic.AtRest s.world.store
  below : ∀ id row, s.world.store.rows.get? id = some row → id < s.world.store.nextId
  unchanged : ∀ id, ¬ id < s.world.store.nextId → s.updates id = 0
  replayed : ∃ c, Catalog.replay window s.world.queue.log = .ok c ∧ s.Mirrors c

theorem get_world [IdSource] (codec : Codec) (validator : Symbol → Except ValidationError Unit)
    (ctx : Context) (id : Int64) (w : World ξ) :
    ((SymbolService.direct codec validator).get ctx id w).2 = w := by
  have hfind := ofStore_find ctx id w
  simp only [SymbolService.get, bind, Action.bind, Action.ofExcept, Action.ofOutcome]
  cases SymbolService.checkId id with
  | error e => rfl
  | ok v => simp only [Outcome.ofExcept, Action.mapError, SymbolService.direct, hfind]

theorem list_world [IdSource] (codec : Codec) (validator : Symbol → Except ValidationError Unit)
    (ctx : Context) (query : Query) (w : World ξ) :
    ((SymbolService.direct codec validator).list ctx query w).2 = w := rfl

variable {validator : Symbol → Except ValidationError Unit} {window : Nat} {s : Session ξ}

theorem lt_add_one {a : Int64} (h : 0 < a) (h' : 0 < a + 1) : a < a + 1 := by
  rw [Int64.lt_iff_toInt_lt] at *
  rw [Int64.toInt_add] at *
  have hlt := a.toInt_lt
  simp only [Int64.toInt_zero, Int64.toInt_one, Int.bmod] at *
  split at h' <;> split <;> omega

/-- The sequence of ids only goes up, as long as it does not start over. -/
theorem lt_nextId {a b id : Int64} (h : b = a ∨ b = a + 1) (positive : 0 < a) (positive' : 0 < b)
    (lt : id < a) : id < b := by
  obtain rfl | rfl := h
  · exact lt
  · exact Int64.lt_trans lt (lt_add_one positive positive')

theorem updates_snoc (s : Session ξ) (w : World ξ) (answer : Write × Outcome DomainError Symbol)
    (id : Int64) :
    ({ world := w, answers := s.answers ++ [answer] } : Session ξ).updates id =
      s.updates id + if tellsUpdate id answer then 1 else 0 := by
  simp only [updates, List.countP_append, List.countP_cons, List.countP_nil, Nat.zero_add]

theorem updates_failed (s : Session ξ) (w : World ξ) (what : Write) (e : DomainError) (id : Int64) :
    ({ world := w, answers := s.answers ++ [(what, .error e)] } : Session ξ).updates id =
      s.updates id := by
  rw [updates_snoc, if_neg]
  · rfl
  · cases what <;> exact Bool.false_ne_true

theorem tellsUpdate_iff {what : Write} {written : Symbol} {id : Int64} (h : what.Yields written) :
    tellsUpdate id (what, .ok written) = true ↔ what.kind = .updated ∧ id = written.id := by
  cases what with
  | create _ | delete _ => simp [tellsUpdate, Write.kind]
  | update symbol =>
    obtain ⟨_, _, rfl⟩ := h
    simp [tellsUpdate, Write.kind, eq_comm]

namespace InStep

/-- What is true of the beginning. -/
theorem atStart [BinaryFormat] [IdSource] {start : World ξ} {n : Int64} (store : start.store = .withNextId n)
    (log : start.queue.log = []) : InStep window { world := start } where
  atRest := .of_empty (by rw [store]; rfl) (by rw [store]; rfl)
  below := fun id row hrow => by
    rw [store] at hrow
    cases hrow
  unchanged := fun _ _ => rfl
  replayed := by
    refine ⟨.withWindow window, by rw [log]; rfl, ⟨fun id => ?_, fun uuid huuid => by cases huuid⟩⟩
    rw [store]
    rfl

/-- Only rows, reservations, the next id, the log and the supply of uuids matter. -/
theorem congr [BinaryFormat] [IdSource] (h : InStep window s) {w : World ξ}
    (rows : w.store.rows = s.world.store.rows) (reserved : w.store.reserved = s.world.store.reserved)
    (nextId : w.store.nextId = s.world.store.nextId) (log : w.queue.log = s.world.queue.log)
    (used : w.ids.used = s.world.ids.used) : InStep window { s with world := w } where
  atRest := ⟨rows ▸ h.atRest.keyed, rows ▸ h.atRest.distinct, reserved.trans h.atRest.unreserved⟩
  below := fun id row hrow => by
    rw [rows] at hrow
    rw [nextId]
    exact h.below id row hrow
  unchanged := fun id hid => by
    rw [nextId] at hid
    exact h.unchanged id hid
  replayed := by
    obtain ⟨c, hreplay, hmirrors⟩ := h.replayed
    refine ⟨c, log ▸ hreplay, ⟨fun id => ?_, fun uuid huuid => ?_⟩⟩
    · rw [hmirrors.entries id, rows]
      rfl
    · rw [used]
      exact hmirrors.recent uuid huuid

theorem disturb [BinaryFormat] [IdSource] (h : InStep window s) (disturbance : Disturbance) :
    InStep window { s with world := disturbance.act s.world } := by
  apply h.congr _ _ _ (disturbance.log_act s.world) _ <;> cases disturbance <;> rfl

end InStep

namespace InStep

/-- A call that fails leaves everything in step. -/
theorem missed [BinaryFormat] [IdSource] (h : InStep window s) {w : World ξ}
    (atRest : Traffic.AtRest w.store) (used : s.world.ids.used ≤ w.ids.used) (miss : Missed s.world w)
    (positive : 0 < s.world.store.nextId) (positive' : 0 < w.store.nextId) (what : Write)
    (e : DomainError) :
    InStep window { world := w, answers := s.answers ++ [(what, .error e)] } where
  atRest := atRest
  below := fun id row hrow => by
    rw [miss.rows] at hrow
    exact lt_nextId miss.nextId positive positive' (h.below id row hrow)
  unchanged := fun id hid => by
    rw [updates_failed]
    exact h.unchanged id fun hlt => hid (lt_nextId miss.nextId positive positive' hlt)
  replayed := by
    obtain ⟨c, hreplay, hmirrors⟩ := h.replayed
    refine ⟨c, miss.log ▸ hreplay, ⟨fun id => ?_, fun uuid huuid => ?_⟩⟩
    · rw [hmirrors.entries id, updates_failed, miss.rows]
    · obtain ⟨n, hn, hid⟩ := hmirrors.recent uuid huuid
      exact ⟨n, Nat.lt_of_lt_of_le hn used, hid⟩

theorem nextId_cases [BinaryFormat] [IdSource] {what : Write} {start w : World ξ} {written : Symbol}
    (h : Landed what start written w) :
    w.store.nextId = start.store.nextId ∨ w.store.nextId = start.store.nextId + 1 := by
  rw [h.nextId]
  cases what with
  | create _ => exact .inr rfl
  | update _ | delete _ => exact .inl rfl

/-- The version that a catalog in step gives to what was written is the right one. -/
theorem nextVersion_eq [BinaryFormat] [IdSource] (h : InStep window s) {c : Catalog} (mirrors : s.Mirrors c)
    {what : Write} {w : World ξ} {written : Symbol} (land : Landed what s.world written w)
    (hkind : what.kind ≠ .deleted) :
    Catalog.nextVersion c.entries written.id =
      1 + ({ world := w, answers := s.answers ++ [(what, .ok written)] } : Session ξ).updates
        written.id := by
  rw [updates_snoc, Catalog.nextVersion, mirrors.entries written.id]
  have hfits := land.fits
  cases what with
  | delete _ => exact absurd rfl hkind
  | create symbol =>
    -- The id is new: no row has it, and nothing with it was ever changed.
    have hid : written.id = s.world.store.nextId := hfits
    have hnew : ¬ written.id < s.world.store.nextId := by
      rw [hid]
      exact Int64.lt_irrefl
    have hnone : s.world.store.rows.get? written.id = none := by
      cases hrow : s.world.store.rows.get? written.id with
      | none => rfl
      | some row => exact absurd (h.below written.id row hrow) hnew
    rw [hnone, h.unchanged written.id hnew]
    rfl
  | update symbol =>
    obtain ⟨row, hrow⟩ := hfits
    rw [hrow, if_pos ((tellsUpdate_iff land.yields).mpr ⟨rfl, rfl⟩)]
    rfl

/-- A call that succeeds takes store and log on together. -/
theorem landed [BinaryFormat] [IdSource] (h : InStep window s) {w : World ξ}
    (atRest : Traffic.AtRest w.store) {what : Write} {written : Symbol}
    (land : Landed what s.world written w) (positive : 0 < s.world.store.nextId)
    (positive' : 0 < w.store.nextId) :
    InStep window { world := w, answers := s.answers ++ [(what, .ok written)] } where
  atRest := atRest
  below := fun id row hrow => by
    rw [land.rows, Store.get?_applyWrite] at hrow
    have later := @lt_nextId _ _ id (nextId_cases land) positive positive'
    split at hrow
    · rename_i hid
      have hfits := land.fits
      cases what with
      | delete _ => cases hrow
      | update _ =>
        obtain ⟨row, hold⟩ := hfits
        rw [hid] at later ⊢
        exact later (h.below written.id row hold)
      | create _ =>
        have hnew : written.id = s.world.store.nextId := hfits
        have hnext : w.store.nextId = s.world.store.nextId + 1 := land.nextId
        show id < w.store.nextId
        rw [hid, hnew, hnext]
        exact lt_add_one positive (hnext ▸ positive')
    · exact later (h.below id row hrow)
  unchanged := fun id hid => by
    have hbefore : ¬ id < s.world.store.nextId := fun hlt =>
      hid (lt_nextId (nextId_cases land) positive positive' hlt)
    rw [updates_snoc, h.unchanged id hbefore, if_neg]
    rw [tellsUpdate_iff land.yields]
    rintro ⟨hkind, rfl⟩
    have hfits := land.fits
    cases what with
    | create _ | delete _ => cases hkind
    | update _ =>
      obtain ⟨row, hrow⟩ := hfits
      exact hbefore (h.below written.id row hrow)
  replayed := by
    obtain ⟨c, hreplay, hmirrors⟩ := h.replayed
    obtain ⟨m, n, ⟨now, hdecode⟩, hle, hlt, huuid, hlog⟩ := land.log
    have hnamed : m.uuid ≠ "" := by
      rw [huuid]
      exact IdSource.text_ne_empty n
    have hnew : m.uuid ∉ c.recent.ids := by
      intro hmem
      obtain ⟨j, hj, hjm⟩ := hmirrors.recent m.uuid hmem
      rw [huuid] at hjm
      have := IdSource.text_injective hjm
      omega
    obtain ⟨after, happly, hentries, hrecent⟩ := Catalog.apply_of_new hdecode hnamed hnew
    refine ⟨after, ?_, ⟨fun id => ?_, fun uuid hmem => ?_⟩⟩
    · rw [hlog, Catalog.replay_snoc _ _ hreplay, happly]
    · rw [hentries, Catalog.get?_applyEvent_ofSymbol]
      show _ = Option.map _ (w.store.rows.get? id)
      rw [land.rows, Store.get?_applyWrite]
      by_cases hid : id = written.id
      · subst hid
        rw [if_pos rfl, if_pos rfl]
        by_cases hkind : what.kind = .deleted
        · rw [if_pos hkind]
          cases what with
          | create _ | update _ => cases hkind
          | delete _ => rfl
        · rw [if_neg hkind, h.nextVersion_eq hmirrors land hkind]
          cases what with
          | create _ | update _ => rfl
          | delete _ => exact absurd rfl hkind
      · rw [if_neg hid, if_neg hid, hmirrors.entries id, updates_snoc, if_neg]
        · rfl
        · rw [tellsUpdate_iff land.yields]
          exact fun hn => hid hn.2
    · obtain rfl | hmem := hrecent uuid hmem
      · exact ⟨n, hlt, huuid⟩
      · obtain ⟨j, hj, huuid⟩ := hmirrors.recent uuid hmem
        exact ⟨j, Nat.lt_trans (Nat.lt_of_lt_of_le hj hle) hlt, huuid⟩

/-- **Every act of a session keeps log and store in step**, unless the sequence of ids starts over. -/
theorem perform [BinaryFormat] [IdSource] (h : InStep window s) (act : Act)
    (positive : 0 < s.world.store.nextId) (positive' : 0 < (s.perform validator act).world.store.nextId) :
    InStep window (s.perform validator act) := by
  cases act with
  | disturb disturbance => exact h.disturb disturbance
  | call codec ctx ask =>
    cases ask with
    | get id =>
      simp only [Session.perform, get_world]
      exact h
    | list query =>
      simp only [Session.perform, list_world]
      exact h
    | write what =>
      obtain ⟨atRest, used, ended⟩ := alone_write codec validator ctx what h.atRest
      simp only [Session.perform] at positive' ⊢
      obtain ⟨written, hr, land⟩ | ⟨e, hr, miss⟩ := ended
      · rw [hr]
        exact h.landed atRest land positive positive'
      · rw [hr]
        exact h.missed atRest used miss positive positive' what e

theorem foldl [BinaryFormat] [IdSource] (acts : List Act) : ∀ {s : Session ξ}, InStep window s →
    (∀ before, before <+: acts →
      0 < (before.foldl (Session.perform validator) s).world.store.nextId) →
    InStep window (acts.foldl (Session.perform validator) s) := by
  induction acts with
  | nil => exact fun h _ => h
  | cons act acts ih =>
    intro s h unwrapped
    have first := unwrapped [] List.nil_prefix
    have second := unwrapped [act] (List.prefix_append [act] acts)
    refine ih (h.perform act first second) fun before hbefore => ?_
    exact unwrapped (act :: before) (List.prefix_cons_iff.mpr (.inr ⟨before, rfl, hbefore⟩))

end InStep

/-! ### Sessions that are short enough -/

/-- An act takes one id at most. -/
theorem nextId_perform [BinaryFormat] [IdSource] (validator : Symbol → Except ValidationError Unit)
    (h : Traffic.AtRest s.world.store) (act : Act) :
    Traffic.AtRest (s.perform validator act).world.store ∧
      ((s.perform validator act).world.store.nextId = s.world.store.nextId ∨
        (s.perform validator act).world.store.nextId = s.world.store.nextId + 1) := by
  cases act with
  | disturb disturbance =>
    cases disturbance <;> exact ⟨⟨h.keyed, h.distinct, h.unreserved⟩, .inl rfl⟩
  | call codec ctx ask =>
    cases ask with
    | get id =>
      rw [perform, get_world]
      exact ⟨h, .inl rfl⟩
    | list query =>
      rw [perform, list_world]
      exact ⟨h, .inl rfl⟩
    | write what =>
      obtain ⟨atRest, _, ended⟩ := alone_write codec validator ctx what h
      obtain ⟨written, _, land⟩ | ⟨_, _, miss⟩ := ended
      · exact ⟨atRest, InStep.nextId_cases land⟩
      · exact ⟨atRest, miss.nextId⟩

theorem toInt_add_one {a : Int64} (positive : 0 < a.toInt) (few : a.toInt + 1 < 2 ^ 63) :
    (a + 1).toInt = a.toInt + 1 := by
  rw [Int64.toInt_add]
  simp only [Int64.toInt_one, Int.bmod]
  split <;> omega

/-- The sequence of ids does not start over in a session with fewer acts than there are ids left. -/
theorem nextId_pos_of_few [BinaryFormat] [IdSource] (acts : List Act) :
    ∀ {s : Session ξ}, Traffic.AtRest s.world.store →
    0 < s.world.store.nextId.toInt → s.world.store.nextId.toInt + acts.length < 2 ^ 63 →
    0 < (acts.foldl (perform validator) s).world.store.nextId := by
  induction acts with
  | nil =>
    intro s _ positive _
    exact Int64.lt_iff_toInt_lt.mpr positive
  | cons act acts ih =>
    intro s h positive few
    obtain ⟨atRest, hnext⟩ := nextId_perform validator h act
    rw [List.length_cons] at few
    obtain hnext | hnext := hnext
    · refine ih atRest ?_ ?_ <;> rw [hnext]
      · exact positive
      · omega
    · have htoInt := toInt_add_one positive (by omega)
      refine ih atRest ?_ ?_ <;> rw [hnext, htoInt] <;> omega

/-! ### From the beginning -/

/-- **A catalog to which the whole log of a session was applied has exactly the committed symbols**, each
in the version that its successful changes have brought it to, however many uuids it remembers. This holds
from an empty store and log on, until the sequence of ids starts over. -/
theorem log_determines_store [BinaryFormat] [IdSource] (validator : Symbol → Except ValidationError Unit)
    (window : Nat) {start : World ξ} {n : Int64} (store : start.store = .withNextId n)
    (log : start.queue.log = []) (acts : List Act)
    (unwrapped : ∀ before, before <+: acts → 0 < (play validator start before).world.store.nextId) :
    let s := play validator start acts
    ∃ c, Catalog.replay window s.world.queue.log = .ok c ∧
      ∀ id, c.entries.get? id = (s.world.store.rows.get? id).map fun row =>
        ⟨row.name, row.code, row.description, 1 + s.updates id⟩ := by
  intro s
  have inStep : InStep window s := InStep.foldl acts (.atStart store log) unwrapped
  obtain ⟨c, hreplay, hmirrors⟩ := inStep.replayed
  exact ⟨c, hreplay, hmirrors.entries⟩

/-- A symbol is created, changed and removed by services with either codec. The queue rejects one of the
changes, the store refuses the next one, and the context of a third is cancelled. -/
def troubledSession : List Act :=
  let named := fun name => Ask.write (.update ⟨1, name, "BTC", "", .epoch, .epoch⟩)
  let ctx : Context := { scope := 1 }
  [.call .json ctx (.write (.create ⟨0, "Bitcoin", "BTC", "", .epoch, .epoch⟩)), .disturb (.reject 1),
    .call .json ctx (named "Bit coin"), .disturb (.refuse true), .call .compact ctx (named "bitcoin"),
    .disturb (.refuse false), .call .compact ctx (named "Bitcoin core"), .disturb (.cancel ctx),
    .call .json ctx (named "bitcoin"), .call .json { scope := 2 } (.write (.delete 1))]

theorem troubledSession_replayed :
    let start : World Unit := { extra := () }
    start.store = .withNextId 1 ∧ start.queue.log = [] ∧
      (∀ before, before <+: troubledSession →
        0 < (play Symbol.validate start before).world.store.nextId) ∧
      let s := play Symbol.validate start troubledSession
      ∃ c, Catalog.replay 1 s.world.queue.log = .ok c ∧
        ∀ id, c.entries.get? id = (s.world.store.rows.get? id).map fun row =>
          ⟨row.name, row.code, row.description, 1 + s.updates id⟩ := by
  intro start
  have unwrapped : ∀ before, before <+: troubledSession →
      0 < (play Symbol.validate start before).world.store.nextId := by
    intro before hbefore
    refine nextId_pos_of_few before (.of_empty rfl rfl) (by decide) ?_
    have hlength : before.length ≤ 10 := hbefore.length_le
    show (1 : Int) + before.length < 2 ^ 63
    omega
  have store : start.store = .withNextId 1 := rfl
  exact ⟨store, rfl, unwrapped,
    log_determines_store Symbol.validate 1 store rfl troubledSession unwrapped⟩

end Session

end SymbolRelay
