import SymbolRelay.Proofs.Delivery.QueueGrowth
import SymbolRelay.Proofs.Service.Numbering

/-!
# A call on its own

What a call has made of the world by the time it returns, if nobody else did anything meanwhile: either
what it wrote is in the store and one event tells about it, or store and log are as they were.

## Results

* `alone_write` — every call returns, having done so;
* `write_grows` — the queue has only grown meanwhile.
-/

set_option autoImplicit false

namespace SymbolRelay

variable {ξ : Type}

/-- The symbol that a call has staged, as long as it has not failed. -/
def Call.written? : Call Transaction → Option Symbol
  | .prepare _ written _ => some written
  | .publish _ written _ => some written
  | .leave (.ok written) _ => some written
  | .ended (.ok written) => some written
  | _ => none

/-- Whether a symbol is what a write can stage in a store: a new one has the next id, one that is to be
changed or removed is there. -/
def Write.Fits : Write → Store → Symbol → Prop
  | .create _, s, written => written.id = s.nextId
  | _, s, written => ∃ row, s.rows.get? written.id = some row

theorem Write.Fits.congr {what : Write} {s t : Store} {written : Symbol} (h : what.Fits s written)
    (rows : s.rows = t.rows) (nextId : s.nextId = t.nextId) : what.Fits t written := by
  cases what with
  | create _ => exact Eq.trans h nextId
  | update _ | delete _ =>
    obtain ⟨row, hrow⟩ := h
    rw [rows] at hrow
    exact ⟨row, hrow⟩

/-- What is not new was there. -/
theorem Write.Fits.row {what : Write} {s : Store} {written : Symbol} (h : what.Fits s written)
    (hkind : what.kind ≠ .created) : ∃ row, s.rows.get? written.id = some row := by
  cases what with
  | create _ => exact absurd rfl hkind
  | update _ | delete _ => exact h

theorem Call.awaitsId_of_written? {c : Call Transaction} {written : Symbol}
    (h : c.written? = some written) : c.awaitsId = false := by
  cases c with
  | lookup _ | begin _ | stage _ _ => cases h
  | prepare _ _ _ | publish _ _ _ | leave _ _ | ended _ => rfl

namespace SymbolService

variable {codec : Codec} {ctx : Context} {what : Write} {ds : List (Deed ξ)} {c c' : Call Transaction}
  {w w' : World ξ} {written : Symbol}

theorem fits_of_carryOut {s store : Store} {tx tx' : Transaction} {now : Time} {change : Change}
    (blank : tx.staged = Table.empty) (asks : what.Asks change)
    (h : carryOut s tx now change = .ok (written, tx', store)) : what.Fits s written := by
  have view : ∀ id, tx.view s.rows id = s.rows.get? id := fun id =>
    Transaction.view_of_not_staged (by rw [blank]; rfl) s.rows
  cases what with
  | create symbol =>
    cases change with
    | create wanted =>
      obtain ⟨_, heq⟩ := (Store.create_eq_ok_iff _ _ _ _ _).mp h
      cases heq
      rfl
    | update _ | delete _ _ => exact asks.elim
  | update symbol =>
    cases change with
    | update wanted =>
      simp only [carryOut] at h
      cases hu : s.update tx wanted now with
      | error e => simp [hu, Except.map] at h
      | ok r =>
        simp only [hu, Except.map, Except.ok.injEq, Prod.mk.injEq] at h
        obtain ⟨rfl, rfl, rfl⟩ := h
        obtain ⟨existing, hexisting, _, heq⟩ := (Store.update_eq_ok_iff _ _ _ _ _).mp hu
        cases heq
        rw [view] at hexisting
        exact ⟨existing, hexisting⟩
    | create _ | delete _ _ => exact asks.elim
  | delete id =>
    cases change with
    | delete gone existing =>
      obtain ⟨rfl, hid⟩ : gone = id ∧ existing.id = id := asks
      simp only [carryOut] at h
      cases hu : s.delete tx gone with
      | error e => simp [hu, Except.map] at h
      | ok r =>
        simp only [hu, Except.map, Except.ok.injEq, Prod.mk.injEq] at h
        obtain ⟨rfl, rfl, rfl⟩ := h
        obtain ⟨⟨row, hrow⟩, _⟩ := (Store.delete_eq_ok_iff _ _ _ _).mp hu
        rw [view, ← hid] at hrow
        exact ⟨row, hrow⟩
    | create _ | update _ => exact asks.elim

theorem used_lt_messageOf [BinaryFormat] [IdSource] (codec : Codec) (ctx : Context) (kind : EventKind)
    (written : Symbol) (now : Time) (ids : Ids) :
    ids.used < (messageOf codec ctx kind written now ids).2.used :=
  used_lt_stamp _ _ _ (Event.encode_uuid _ _)

theorem uuid_messageOf [BinaryFormat] [IdSource] (codec : Codec) (ctx : Context) (kind : EventKind)
    (written : Symbol) (now : Time) (ids : Ids) :
    (messageOf codec ctx kind written now ids).1.uuid = IdSource.text ids.used :=
  stamp_uuid_of_empty _ _ _ (Event.encode_uuid _ _)

namespace StepsTo

/-- A symbol is staged once, and fits then. -/
theorem fits [BinaryFormat] [IdSource] (h : StepsTo codec ctx c w c' w') (hs : Standing what ds c)
    (hw : c'.written? = some written) :
    c.written? = some written ∨
      (c.awaitsId = true ∧ what.Fits w.store written ∧
        w'.store.nextId = (what.advance w.store).nextId) := by
  cases h with
  | staged clock hcarry =>
    cases hw
    obtain ⟨asks, blank, _, _, _⟩ := hs
    obtain ⟨_, _, rfl, _⟩ := carryOut_ok blank asks hcarry
    exact .inr ⟨rfl, fits_of_carryOut blank asks hcarry, rfl⟩
  | voted _ _ | told _ | committed _ | rested => exact .inl hw
  | _ => cases hw

/-- What a step tells has a uuid of its own. -/
theorem named [BinaryFormat] [IdSource] (h : StepsTo codec ctx c w c' w') (k : Nat) :
    w.ids.used ≤ w'.ids.used ∧ ∀ e ∈ (⟨k, w, w'⟩ : Deed ξ).told,
      ∃ n, w.ids.used ≤ n ∧ n < w'.ids.used ∧ e.2.uuid = IdSource.text n := by
  have quiet : w'.queue.log = w.queue.log → ∀ e ∈ (⟨k, w, w'⟩ : Deed ξ).told,
      ∃ n, w.ids.used ≤ n ∧ n < w'.ids.used ∧ e.2.uuid = IdSource.text n := by
    intro hlog e he
    rw [Deed.told_eq_nil hlog] at he
    cases he
  cases h with
  | told hpub =>
    refine ⟨Nat.le_of_lt (used_lt_messageOf ..), fun e he => ?_⟩
    rw [Deed.told_eq (Queue.log_of_publish_ok hpub), List.mem_singleton] at he
    subst he
    exact ⟨w.ids.used, Nat.le_refl _, used_lt_messageOf .., uuid_messageOf ..⟩
  | untold cause hpub =>
    exact ⟨Nat.le_of_lt (used_lt_messageOf ..), quiet (Queue.log_of_publish_error hpub)⟩
  | _ => exact ⟨Nat.le_refl _, quiet rfl⟩

/-- A step does nothing to the queue but publish on it. -/
theorem queue [BinaryFormat] [IdSource] (h : StepsTo codec ctx c w c' w') : w.queue.Grows w'.queue := by
  cases h with
  | told hpub | untold cause hpub => exact Queue.grows_of_publish hpub
  | _ => exact .refl

end StepsTo

end SymbolService

/-- What a call has made of the world it began in if nobody else did anything meanwhile. -/
structure Alone [BinaryFormat] [IdSource] (what : Write) (start : World ξ) (c : Call Transaction)
    (w : World ξ) : Prop where
  sound : w.store.Sound fun _ : Unit => c.tx?
  accounted : w.store.Accounted fun _ : Unit => c.tx?
  standing : ∃ ds : List (Deed ξ), Standing what ds c ∧
    w.queue.log = start.queue.log ++ ds.flatMap Deed.told ∧
    ∀ e ∈ ds.flatMap Deed.told, ∃ n, start.ids.used ≤ n ∧ n < w.ids.used ∧ e.2.uuid = IdSource.text n
  used : start.ids.used ≤ w.ids.used
  untouched : (∀ written, c ≠ .ended (.ok written)) → w.store.rows = start.store.rows
  applied : ∀ written, c = .ended (.ok written) →
    w.store.rows = Store.applyWrite start.store.rows written.id (what.leaves written)
  awaiting : c.awaitsId = true → w.store.nextId = start.store.nextId
  counted : w.store.nextId = start.store.nextId ∨ w.store.nextId = start.store.nextId + 1
  fits : ∀ written, c.written? = some written →
    what.Fits start.store written ∧ w.store.nextId = (what.advance start.store).nextId
  queue : start.queue.Grows w.queue

namespace Alone

variable {codec : Codec} {validator : Symbol → Except ValidationError Unit} {ctx : Context}
  {what : Write} {start w w' : World ξ} {c c' : Call Transaction}

theorem replaces (before after : Option Transaction) :
    Replaces (fun _ : Unit => before) (fun _ : Unit => after) () after :=
  ⟨rfl, fun j hj => absurd (Subsingleton.elim j ()) hj⟩

theorem written?_start (s : SymbolService ξ Transaction) (what : Write) :
    (s.start what).written? = none := by
  rcases s.start_cases what with ⟨_, h⟩ | ⟨_, _, h⟩ | ⟨_, _, h⟩ <;> rw [h] <;> rfl

theorem ofStart [BinaryFormat] [IdSource] (h : Traffic.AtRest start.store) (s : SymbolService ξ Transaction)
    (what : Write) :
    Alone what start (s.start what) start := by
  have hbegun : (s.start what).tx? = none ∧ ∀ written, s.start what ≠ .ended (.ok written) := by
    rcases s.start_cases what with ⟨_, h⟩ | ⟨_, _, h⟩ | ⟨_, _, h⟩ <;> rw [h] <;>
      exact ⟨rfl, fun _ hn => nomatch hn⟩
  obtain ⟨htx, hopen⟩ := hbegun
  refine ⟨h.sound fun _ => htx, .of_empty h.unreserved,
    ⟨[], Standing.start s what, (List.append_nil _).symm, ?_⟩, Nat.le_refl _, fun _ => rfl,
    fun written hended => absurd hended (hopen written), fun _ => rfl, .inl rfl, ?_, .refl⟩
  · intro e he
    cases he
  · intro written hw
    cases (written?_start s what).symm.trans hw

theorem step [BinaryFormat] [IdSource] (h : Alone what start c w)
    (hs : SymbolService.StepsTo codec ctx c w c' w') :
    Alone what start c' w' := by
  obtain ⟨ds, hstanding, hlog, hnamed⟩ := h.standing
  obtain ⟨hawaits, hnext⟩ := hs.nextId hstanding
  obtain ⟨hused, hnew⟩ := hs.named 0
  have hkeeps : c.awaitsId = false → w'.store.nextId = w.store.nextId := by
    intro hno
    obtain hsame | ⟨_, hyes, _⟩ := hnext
    · exact hsame
    · cases hno.symm.trans hyes
  refine ⟨hs.sound hstanding h.sound rfl (replaces _ _), hs.accounted hstanding h.accounted rfl
    (replaces _ _), ⟨ds ++ [⟨0, w, w'⟩], hstanding.step 0 h.sound.keyed hs, ?_, ?_⟩,
    Nat.le_trans h.used hused, ?_, ?_, ?_, ?_, ?_, h.queue.trans hs.queue⟩
  · rw [hs.log 0, hlog, List.flatMap_append, List.flatMap_singleton, List.append_assoc]
  · intro e he
    rw [List.flatMap_append, List.flatMap_singleton] at he
    rcases List.mem_append.mp he with he | he
    · obtain ⟨n, hle, hlt, huuid⟩ := hnamed e he
      exact ⟨n, hle, Nat.lt_of_lt_of_le hlt hused, huuid⟩
    · obtain ⟨n, hle, hlt, huuid⟩ := hnew e he
      exact ⟨n, Nat.le_trans h.used hle, hlt, huuid⟩
  · intro hopen
    obtain ⟨hrows, _⟩ | ⟨written, _, _, hended, _⟩ := hs.rows_cases hstanding
    · refine hrows.trans (h.untouched fun written hended => ?_)
      subst hended
      cases hs
      exact hopen written rfl
    · exact absurd hended (hopen written)
  · intro written hended
    obtain ⟨hrows, _, hstays⟩ | ⟨other, u, hleave, hended', hrows, _⟩ := hs.rows_cases hstanding
    · rw [hrows]
      exact h.applied written (hstays written hended)
    · cases hended.symm.trans hended'
      rw [hrows, h.untouched fun _ hn => by rw [hleave] at hn; cases hn]
  · intro haw
    obtain hsame | ⟨_, _, hno⟩ := hnext
    · exact hsame.trans (h.awaiting (hawaits haw))
    · cases haw.symm.trans hno
  · obtain hsame | ⟨hadd, hyes, _⟩ := hnext
    · rw [hsame]
      exact h.counted
    · rw [hadd, h.awaiting hyes]
      exact .inr rfl
  · intro written hw
    obtain hold | ⟨haw, hfits, hnextId⟩ := hs.fits hstanding hw
    · obtain ⟨hfits, hcount⟩ := h.fits written hold
      exact ⟨hfits, (hkeeps (Call.awaitsId_of_written? hold)).trans hcount⟩
    · have hid := h.awaiting haw
      have hrows := h.untouched fun other hended => by
        rw [hended] at haw
        cases haw
      refine ⟨hfits.congr hrows hid, hnextId.trans ?_⟩
      cases what with
      | create _ => exact congrArg (· + 1) hid
      | update _ | delete _ => exact hid

theorem finish [BinaryFormat] [IdSource] {c : Call Transaction} {w : World ξ} (h : Alone what start c w) :
    Alone what start (.ended ((SymbolService.direct codec validator).finish ctx c w).1)
      ((SymbolService.direct codec validator).finish ctx c w).2 := by
  by_cases hrank : 0 < c.rank
  · obtain ⟨_, hstanding, _⟩ := h.standing
    have hs := SymbolService.stepsTo codec validator ctx hstanding.ready w
    rw [← SymbolService.finish_step]
    exact (h.step hs).finish
  · cases c with
    | ended outcome =>
      rw [SymbolService.finish_ended]
      exact h
    | _ => exact absurd (by simp [Call.rank]) hrank
termination_by c.rank
decreasing_by exact SymbolService.rank_step_lt _ ctx c w hrank

/-- Once a call is over nobody uses the store any more. -/
theorem atRest [BinaryFormat] [IdSource] {outcome : Outcome DomainError Symbol}
    (h : Alone what start (.ended outcome) w) :
    Traffic.AtRest w.store where
  keyed := h.sound.keyed
  distinct := h.sound.distinct
  unreserved := h.accounted.reserved_eq_empty fun _ => rfl

end Alone

/-- What a call comes to that ended well. -/
structure Landed [BinaryFormat] [IdSource] (what : Write) (start : World ξ) (written : Symbol) (w : World ξ) :
    Prop where
  yields : what.Yields written
  fits : what.Fits start.store written
  log : ∃ m n, m.TellsOf what written ∧ start.ids.used ≤ n ∧ n < w.ids.used ∧ m.uuid = IdSource.text n ∧
    w.queue.log = start.queue.log ++ [(what.kind.topic, m)]
  rows : w.store.rows = Store.applyWrite start.store.rows written.id (what.leaves written)
  nextId : w.store.nextId = (what.advance start.store).nextId

/-- What a call comes to that failed. -/
structure Missed (start w : World ξ) : Prop where
  log : w.queue.log = start.queue.log
  rows : w.store.rows = start.store.rows
  nextId : w.store.nextId = start.store.nextId ∨ w.store.nextId = start.store.nextId + 1

/-- **A call that nobody interferes with returns**, and it landed or it missed. -/
theorem alone_write [BinaryFormat] [IdSource] (codec : Codec)
    (validator : Symbol → Except ValidationError Unit) (ctx : Context) (what : Write) {start : World ξ}
    (h : Traffic.AtRest start.store) :
    let r := (SymbolService.direct codec validator).write ctx what start
    Traffic.AtRest r.2.store ∧ start.ids.used ≤ r.2.ids.used ∧
      ((∃ written, r.1 = .ok written ∧ Landed what start written r.2) ∨
        ∃ e, r.1 = .error e ∧ Missed start r.2) := by
  intro r
  have alone : Alone what start (.ended r.1) r.2 :=
    (Alone.ofStart h (SymbolService.direct codec validator) what).finish
  refine ⟨alone.atRest, alone.used, ?_⟩
  obtain ⟨ds, hstanding, hlog, hnamed⟩ := alone.standing
  cases hr : r.1 with
  | panic p =>
    rw [hr] at hstanding
    exact hstanding.elim
  | error e =>
    rw [hr] at hstanding
    obtain ⟨_, _, hd⟩ := hstanding
    refine .inr ⟨e, rfl, ?_, alone.untouched ?_, alone.counted⟩
    · rw [hlog, hd.told, List.append_nil]
    · intro written hn
      rw [hr] at hn
      cases hn
  | ok written =>
    rw [hr] at hstanding
    obtain ⟨yields, m, _, _, htells, hd, _⟩ := hstanding
    obtain ⟨hfits, hnext⟩ := alone.fits written (by rw [hr]; rfl)
    rw [hd.told] at hlog hnamed
    obtain ⟨n, hle, hlt, huuid⟩ := hnamed _ (List.mem_singleton_self _)
    exact .inl ⟨written, rfl, yields, hfits, ⟨m, n, htells, hle, hlt, huuid, hlog⟩,
      alone.applied written (by rw [hr]), hnext⟩

/-- A call does nothing to the queue but publish on it. -/
theorem write_grows [BinaryFormat] [IdSource] (codec : Codec)
    (validator : Symbol → Except ValidationError Unit) (ctx : Context) (what : Write) {start : World ξ}
    (h : Traffic.AtRest start.store) :
    start.queue.Grows ((SymbolService.direct codec validator).write ctx what start).2.queue :=
  (Alone.ofStart h (SymbolService.direct codec validator) what).finish.queue

end SymbolRelay
