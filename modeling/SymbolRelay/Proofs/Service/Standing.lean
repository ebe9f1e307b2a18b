import SymbolRelay.Proofs.Encoding.Events
import SymbolRelay.Proofs.Service.Steps
import SymbolRelay.Proofs.Store.Reservations
import SymbolRelay.Service.Traffic

/-!
# Where a call stands

A deed is one step of a call, with the world before and after it. What a call told, which transactions
it opened, which ids it was given and what it committed are all read off its deeds. Where a call stands
says how much of this there is, step by step: the event comes after the vote and the commit after the
event, and a call that fails has neither told nor committed anything.

## Results

* `Standing.step` — a step of a call takes it from one standing to the next;
* `StepsTo.sound`, `StepsTo.accounted` — and keeps the invariants of the store, whatever transactions
  other calls have open.
-/

set_option autoImplicit false

namespace SymbolRelay

variable {ξ : Type}

/-! ## Deeds -/

namespace Deed

variable {d : Deed ξ}

theorem told_eq {more : List (String × Message)}
    (h : d.after.queue.log = d.before.queue.log ++ more) : d.told = more := by
  rw [told, h, List.drop_left]

theorem told_eq_nil (h : d.after.queue.log = d.before.queue.log) : d.told = [] :=
  told_eq (by rw [h, List.append_nil])

theorem opened_eq_nil (h : d.after.store.nextTransaction = d.before.store.nextTransaction) :
    d.opened = [] := by
  rw [opened, h, Nat.sub_self, List.range'_zero]

theorem opened_eq_one (h : d.after.store.nextTransaction = d.before.store.nextTransaction + 1) :
    d.opened = [d.before.store.nextTransaction] := by
  rw [opened, h, Nat.add_sub_cancel_left]
  rfl

theorem issued_eq_nil (h : d.after.store.nextId = d.before.store.nextId) : d.issued = [] := if_pos h

theorem commits_eq_false (h : d.after.store.committed = d.before.store.committed) :
    d.commits = false := by
  rw [commits, h, bne_self_eq_false]

theorem commits_eq_true (h : d.after.store.committed = d.before.store.committed + 1) :
    d.commits = true := by
  rw [commits, h]
  simp

end Deed

/-! ## What a write asks for -/

namespace Write

/-- Whether a change is what a write asks for. -/
def Asks : Write → Change → Prop
  | .create symbol, .create wanted => wanted = symbol
  | .update symbol, .update wanted => wanted = symbol
  | .delete id, .delete gone existing => gone = id ∧ existing.id = id
  | _, _ => False

/-- Whether a symbol is what comes of a write: only the store's own fields may differ. -/
def Yields : Write → Symbol → Prop
  | .create symbol, written =>
    ∃ id created updated, written = { symbol with id, createdAt := created, updatedAt := updated }
  | .update symbol, written =>
    ∃ created updated, written = { symbol with createdAt := created, updatedAt := updated }
  | .delete id, written => written.id = id

/-- What a write stages for the symbol that comes of it. -/
def leaves : Write → Symbol → Staged
  | .create _, written => .insert written
  | .update _, written => .update written
  | .delete _, _ => .delete

/-- The id that a write takes from the store's sequence. -/
def issues : Write → Symbol → List Int64
  | .create _, written => [written.id]
  | _, _ => []

/-- The store once a write was staged. -/
def advance : Write → Store → Store
  | .create _, s => { s with nextId := s.nextId + 1 }
  | _, s => s

theorem advance_rows (what : Write) (s : Store) : (what.advance s).rows = s.rows := by
  cases what <;> rfl

theorem advance_reserved (what : Write) (s : Store) : (what.advance s).reserved = s.reserved := by
  cases what <;> rfl

theorem advance_nextTransaction (what : Write) (s : Store) :
    (what.advance s).nextTransaction = s.nextTransaction := by
  cases what <;> rfl

theorem advance_committed (what : Write) (s : Store) : (what.advance s).committed = s.committed := by
  cases what <;> rfl

theorem kind_of_asks {what : Write} {change : Change} (h : what.Asks change) :
    change.kind = what.kind := by
  cases what <;> cases change <;> first | rfl | exact h.elim

end Write

/-- A transaction that stages just what a write leaves behind. -/
def Transaction.Holds (tx : Transaction) (what : Write) (written : Symbol) : Prop :=
  what.Yields written ∧ tx.staged = Table.empty.insert written.id (what.leaves written)

namespace Queue

variable {q queue : Queue} {topic : String} {m : Message}

theorem publish_ok_iff : q.publish topic m = (.ok (), queue) ↔
    q.closed = false ∧ q.rejecting = 0 ∧
      queue = { q with feeds := q.feeds.map fun f => f.deliver topic m, log := q.log ++ [(topic, m)] } := by
  unfold publish
  split
  · rename_i h
    simp [h]
  · rename_i h
    split
    · rename_i hr
      simp [Nat.ne_of_gt hr]
    · rename_i hr
      simp only [Prod.mk.injEq, true_and, h, Nat.eq_zero_of_not_pos hr]
      exact eq_comm

theorem log_of_publish_ok (h : q.publish topic m = (.ok (), queue)) :
    queue.log = q.log ++ [(topic, m)] := by
  obtain ⟨_, _, rfl⟩ := publish_ok_iff.mp h
  rfl

theorem log_of_publish_error {e : BrokerError} (h : q.publish topic m = (.error e, queue)) :
    queue.log = q.log := by
  have herror : (q.publish topic m).1 = .error e := by rw [h]
  have hlog := (publish_error_log herror).1
  rw [h] at hlog
  exact hlog

end Queue

namespace SymbolService

theorem messageOf_decode [BinaryFormat] [IdSource] (codec : Codec) (ctx : Context) (kind : EventKind)
    (written : Symbol) (now : Time) (ids : Ids) :
    Event.decode (messageOf codec ctx kind written now ids).1 = .ok (Event.ofSymbol kind written now) := by
  have h := Event.decode_stamp_encode codec (Event.ofSymbol kind written now) ctx ids
  rw [Event.topic, Event.kind_ofSymbol] at h
  exact h

theorem isStagedInsert_of_blank {tx : Transaction} (h : tx.staged = Table.empty) (id : Int64) :
    Store.isStagedInsert tx id = false := by
  rw [Store.isStagedInsert, h]
  rfl

theorem add_one_ne (id : Int64) : id + 1 ≠ id := by
  intro h
  have hone : (1 : Int64) = 0 := Int64.add_eq_left.mp h
  exact absurd hone (by decide)

/-- What staging a change in a new transaction does. -/
theorem carryOut_ok {s store : Store} {tx tx' : Transaction} {now : Time} {what : Write}
    {change : Change} {written : Symbol} (blank : tx.staged = Table.empty) (asks : what.Asks change)
    (h : carryOut s tx now change = .ok (written, tx', store)) :
    what.Yields written ∧
      tx' = { tx with staged := Table.empty.insert written.id (what.leaves written) } ∧
      store = what.advance s ∧
      (if (what.advance s).nextId = s.nextId then [] else [s.nextId]) = what.issues written := by
  cases what with
  | create symbol =>
    cases change with
    | create wanted =>
      obtain rfl : wanted = symbol := asks
      obtain ⟨_, heq⟩ := (Store.create_eq_ok_iff _ _ _ _ _).mp h
      cases heq
      refine ⟨⟨s.nextId, now, now, rfl⟩, ?_, rfl, if_neg (add_one_ne s.nextId)⟩
      rw [← blank]
      rfl
    | update _ | delete _ _ => exact asks.elim
  | update symbol =>
    cases change with
    | update wanted =>
      obtain rfl : wanted = symbol := asks
      simp only [carryOut] at h
      cases hu : s.update tx wanted now with
      | error e => simp [hu, Except.map] at h
      | ok r =>
        simp only [hu, Except.map, Except.ok.injEq, Prod.mk.injEq] at h
        obtain ⟨rfl, rfl, rfl⟩ := h
        obtain ⟨existing, _, _, heq⟩ := (Store.update_eq_ok_iff _ _ _ _ _).mp hu
        cases heq
        refine ⟨⟨existing.createdAt, now, rfl⟩, ?_, rfl, if_pos rfl⟩
        simp only [Store.staging, Store.writeOf, isStagedInsert_of_blank blank, Bool.false_eq_true,
          if_false, blank]
        rfl
    | create _ | delete _ _ => exact asks.elim
  | delete id =>
    cases change with
    | delete gone existing =>
      obtain ⟨rfl, hid⟩ : gone = id ∧ existing.id = id := asks
      simp only [carryOut] at h
      cases hu : s.delete tx gone with
      | error e => simp [hu, Except.map] at h
      | ok r =>
        simp only [hu, Except.map, Except.ok.injEq, Prod.mk.injEq] at h
        obtain ⟨rfl, rfl, rfl⟩ := h
        obtain ⟨_, rfl⟩ := (Store.delete_eq_ok_iff _ _ _ _).mp hu
        refine ⟨hid, ?_, rfl, if_pos rfl⟩
        simp only [Store.removing, isStagedInsert_of_blank blank, Bool.false_eq_true, if_false, blank,
          hid]
        rfl
    | create _ | update _ => exact asks.elim

/-- A call begins with its write or with a lookup, unless a check has failed. -/
theorem start_cases (s : SymbolService ξ Transaction) (what : Write) :
    (∃ e, s.start what = .ended (.error e)) ∨
      (∃ change, what.Asks change ∧ s.start what = .begin change) ∨
        ∃ id, what = .delete id ∧ s.start what = .lookup id := by
  cases what with
  | create symbol =>
    simp only [start, Call.ofCheck]
    split
    · exact .inr (.inl ⟨.create symbol, rfl, rfl⟩)
    · exact .inl ⟨_, rfl⟩
  | update symbol =>
    simp only [start, Call.ofCheck]
    split
    · exact .inr (.inl ⟨.update symbol, rfl, rfl⟩)
    · exact .inl ⟨_, rfl⟩
  | delete id =>
    simp only [start, Call.ofCheck]
    split
    · exact .inr (.inr ⟨id, rfl, rfl⟩)
    · exact .inl ⟨_, rfl⟩

end SymbolService

/-! ## Standings -/

/-- What deeds amount to. -/
structure Doings (ds : List (Deed ξ)) (told : List (String × Message)) (opened : List Nat)
    (issued : List Int64) (commits : List (Deed ξ)) : Prop where
  told : ds.flatMap Deed.told = told
  opened : ds.flatMap Deed.opened = opened
  issued : ds.flatMap Deed.issued = issued
  commits : ds.filter Deed.commits = commits

namespace Doings

variable {ds : List (Deed ξ)} {told : List (String × Message)} {opened : List Nat}
  {issued : List Int64} {commits : List (Deed ξ)} {k : Nat} {w w' : World ξ}

theorem none : Doings ([] : List (Deed ξ)) [] [] [] [] := ⟨rfl, rfl, rfl, rfl⟩

theorem snoc (h : Doings ds told opened issued commits) (d : Deed ξ) :
    Doings (ds ++ [d]) (told ++ d.told) (opened ++ d.opened) (issued ++ d.issued)
      (commits ++ [d].filter Deed.commits) := by
  refine ⟨?_, ?_, ?_, ?_⟩
  · rw [List.flatMap_append, h.told, List.flatMap_singleton]
  · rw [List.flatMap_append, h.opened, List.flatMap_singleton]
  · rw [List.flatMap_append, h.issued, List.flatMap_singleton]
  · rw [List.filter_append, h.commits]

/-- One more deed that does not commit. -/
theorem add (h : Doings ds told opened issued commits) {d : Deed ξ} {more : List (String × Message)}
    {txs : List Nat} {ids : List Int64} (htold : d.told = more) (hopened : d.opened = txs)
    (hissued : d.issued = ids) (hc : d.commits = false) :
    Doings (ds ++ [d]) (told ++ more) (opened ++ txs) (issued ++ ids) commits := by
  have hd := h.snoc d
  rw [htold, hopened, hissued, List.filter_cons, hc, if_neg Bool.false_ne_true, List.filter_nil,
    List.append_nil] at hd
  exact hd

/-- A deed that leaves the log and the counters of the store as they were amounts to nothing. -/
theorem quiet (h : Doings ds told opened issued commits) {d : Deed ξ}
    (hlog : d.after.queue.log = d.before.queue.log)
    (hnext : d.after.store.nextTransaction = d.before.store.nextTransaction)
    (hid : d.after.store.nextId = d.before.store.nextId)
    (hc : d.after.store.committed = d.before.store.committed) :
    Doings (ds ++ [d]) told opened issued commits := by
  have hd := h.add (Deed.told_eq_nil hlog) (Deed.opened_eq_nil hnext) (Deed.issued_eq_nil hid)
    (Deed.commits_eq_false hc)
  rw [List.append_nil, List.append_nil, List.append_nil] at hd
  exact hd

end Doings

/-- Whether a message tells what came of a write. -/
def Message.TellsOf [BinaryFormat] (m : Message) (what : Write) (written : Symbol) : Prop :=
  ∃ now, Event.decode m = .ok (Event.ofSymbol what.kind written now)

/-- What a call that is so far has done, and what it has in hand. -/
def Standing [BinaryFormat] (what : Write) (ds : List (Deed ξ)) : Call Transaction → Prop
  | .lookup id => what = .delete id ∧ Doings ds [] [] [] []
  | .begin change => what.Asks change ∧ Doings ds [] [] [] []
  | .stage change u =>
    what.Asks change ∧ u.tx.staged = Table.empty ∧ u.tx.prepared = false ∧ u.prepared = false ∧
      Doings ds [] [u.tx.id] [] []
  | .prepare kind written u =>
    kind = what.kind ∧ u.tx.Holds what written ∧ u.tx.prepared = false ∧ u.prepared = false ∧
      Doings ds [] [u.tx.id] (what.issues written) []
  | .publish kind written u =>
    kind = what.kind ∧ u.tx.Holds what written ∧ u.tx.prepared = true ∧ u.prepared = true ∧
      Doings ds [] [u.tx.id] (what.issues written) []
  | .leave (.ok written) u =>
    u.tx.Holds what written ∧ u.tx.prepared = true ∧ u.prepared = true ∧
      ∃ m, m.TellsOf what written ∧
        Doings ds [(what.kind.topic, m)] [u.tx.id] (what.issues written) []
  | .leave (.error e) u =>
    (u.tx.prepared = true →
      e.toDomain.isRetryable = true ∧ ∃ written, u.tx.Holds what written) ∧
      ∃ issued, Doings ds [] [u.tx.id] issued []
  | .leave (.panic _) _ => False
  | .ended (.ok written) =>
    what.Yields written ∧ ∃ m opened d, m.TellsOf what written ∧
      Doings ds [(what.kind.topic, m)] opened (what.issues written) [d] ∧
      d.after.store.rows = Store.applyWrite d.before.store.rows written.id (what.leaves written)
  | .ended (.error _) => ∃ opened issued, Doings ds [] opened issued []
  | .ended (.panic _) => False

namespace Standing

open SymbolService

variable {codec : Codec} {ctx : Context} {what : Write} {ds : List (Deed ξ)}
  {c c' : Call Transaction} {w w' : World ξ}

theorem ready [BinaryFormat] (h : Standing what ds c) : c.Ready := by
  cases c with
  | lookup _ | begin _ | stage _ _ | publish _ _ _ | ended _ => trivial
  | prepare kind written u => exact h.2.2.2.1
  | leave outcome u =>
    cases outcome with
    | ok written => exact ⟨h.2.2.1, h.2.1⟩
    | error e => trivial
    | panic p => exact h

theorem start [BinaryFormat] (s : SymbolService ξ Transaction) (what : Write) :
    Standing what ([] : List (Deed ξ)) (s.start what) := by
  rcases s.start_cases what with ⟨e, h⟩ | ⟨change, asks, h⟩ | ⟨id, hwhat, h⟩ <;> rw [h]
  · exact ⟨[], [], .none⟩
  · exact ⟨asks, .none⟩
  · exact ⟨hwhat, .none⟩

/-- **A step of a call takes it from one standing to the next**, whatever the world is like. -/
theorem step [BinaryFormat] [IdSource] (k : Nat) (hs : Standing what ds c) (keyed : RowsKeyed w.store.rows)
    (h : StepsTo codec ctx c w c' w') : Standing what (ds ++ [⟨k, w, w'⟩]) c' := by
  cases h with
  | @found id existing _ hfound =>
    obtain ⟨rfl, hd⟩ := hs
    exact ⟨⟨rfl, keyed id existing hfound⟩, hd.quiet rfl rfl rfl rfl⟩
  | missing h =>
    obtain ⟨_, hd⟩ := hs
    exact ⟨[], [], hd.quiet rfl rfl rfl rfl⟩
  | barred e h =>
    obtain ⟨_, hd⟩ := hs
    exact ⟨[], [], hd.quiet rfl rfl rfl rfl⟩
  | opened h hc =>
    obtain ⟨asks, hd⟩ := hs
    refine ⟨asks, rfl, rfl, rfl, ?_⟩
    exact hd.add (Deed.told_eq_nil rfl) (Deed.opened_eq_one rfl) (Deed.issued_eq_nil rfl)
      (Deed.commits_eq_false rfl)
  | @staged change u _ written tx store clock h =>
    obtain ⟨asks, blank, htx, hu, hd⟩ := hs
    obtain ⟨yields, rfl, rfl, hissued⟩ := carryOut_ok blank asks h
    refine ⟨Write.kind_of_asks asks, ⟨yields, rfl⟩, htx, hu, ?_⟩
    exact hd.add (Deed.told_eq_nil rfl) (Deed.opened_eq_nil (what.advance_nextTransaction _)) hissued
      (Deed.commits_eq_false (what.advance_committed _))
  | unstaged h =>
    obtain ⟨_, _, htx, _, hd⟩ := hs
    exact ⟨fun hp => absurd (htx.symm.trans hp) Bool.false_ne_true, [], hd.quiet rfl rfl rfl rfl⟩
  | dropped reason h =>
    obtain ⟨_, _, htx, _, hd⟩ := hs
    exact ⟨fun hp => absurd (htx.symm.trans hp) Bool.false_ne_true, _, hd.quiet rfl rfl rfl rfl⟩
  | refused h =>
    obtain ⟨_, _, htx, _, hd⟩ := hs
    exact ⟨fun hp => absurd (htx.symm.trans hp) Bool.false_ne_true, _, hd.quiet rfl rfl rfl rfl⟩
  | voted href hc =>
    obtain ⟨hkind, hholds, _, _, hd⟩ := hs
    exact ⟨hkind, hholds, rfl, rfl, hd.quiet rfl rfl rfl rfl⟩
  | @told kind written u _ queue hpub =>
    obtain ⟨rfl, hholds, htx, hu, hd⟩ := hs
    refine ⟨hholds, htx, hu, (messageOf codec u.ctx what.kind written w.clock.now w.ids).1,
      ⟨w.clock.now, messageOf_decode ..⟩, ?_⟩
    rw [← List.append_nil [u.tx.id], ← List.append_nil (what.issues written)]
    exact hd.add (Deed.told_eq (Queue.log_of_publish_ok hpub)) (Deed.opened_eq_nil rfl)
      (Deed.issued_eq_nil rfl) (Deed.commits_eq_false rfl)
  | untold cause hpub =>
    obtain ⟨_, hholds, _, _, hd⟩ := hs
    exact ⟨fun _ => ⟨rfl, _, hholds⟩, _, hd.quiet (Queue.log_of_publish_error hpub) rfl rfl rfl⟩
  | @committed written u _ hp =>
    obtain ⟨⟨yields, hstaged⟩, _, _, m, htells, hd⟩ := hs
    refine ⟨yields, m, [u.tx.id], ⟨k, w, { w with store := w.store.apply u.tx }⟩, htells, ?_, ?_⟩
    · have hd' := hd.snoc ⟨k, w, { w with store := w.store.apply u.tx }⟩
      rw [Deed.told_eq_nil rfl, Deed.opened_eq_nil rfl, Deed.issued_eq_nil rfl, List.filter_cons,
        Deed.commits_eq_true rfl, if_pos rfl, List.append_nil, List.append_nil, List.append_nil] at hd'
      exact hd'
    · show Store.applyWrites w.store.rows u.tx.staged = _
      rw [hstaged]
      rfl
  | @rolledBack e u =>
    obtain ⟨_, issued, hd⟩ := hs
    refine ⟨[u.tx.id], issued, hd.quiet rfl ?_ ?_ ?_⟩ <;>
      · simp only [Store.rollback]
        split <;> rfl
  | @rested outcome =>
    cases outcome with
    | ok written =>
      obtain ⟨yields, m, opened, d, htells, hd, hrows⟩ := hs
      exact ⟨yields, m, opened, d, htells, hd.quiet rfl rfl rfl rfl, hrows⟩
    | error e =>
      obtain ⟨opened, issued, hd⟩ := hs
      exact ⟨opened, issued, hd.quiet rfl rfl rfl rfl⟩
    | panic p => exact hs

end Standing

/-! ## What a step does to the store -/

/-- A call that has a transaction open has opened just that one. -/
theorem Standing.opened_of_tx? [BinaryFormat] {what : Write} {ds : List (Deed ξ)} {c : Call Transaction}
    {tx : Transaction} (h : Standing what ds c) (htx : c.tx? = some tx) :
    ds.flatMap Deed.opened = [tx.id] := by
  cases c with
  | lookup _ | begin _ | ended _ => cases htx
  | stage change u =>
    cases htx
    exact h.2.2.2.2.opened
  | prepare kind written u =>
    cases htx
    exact h.2.2.2.2.opened
  | publish kind written u =>
    cases htx
    exact h.2.2.2.2.opened
  | leave outcome u =>
    cases htx
    cases outcome with
    | ok written =>
      obtain ⟨_, _, _, m, _, hd⟩ := h
      exact hd.opened
    | error e =>
      obtain ⟨_, _, hd⟩ := h
      exact hd.opened
    | panic p => exact h.elim

namespace Transaction.Holds

variable {tx : Transaction} {what : Write} {written symbol : Symbol} {id : Int64}

/-- A transaction that holds one write writes nothing else. -/
theorem eq_of_written? (h : tx.Holds what written) (hw : tx.written? id = some symbol) :
    id = written.id ∧ symbol = written := by
  rw [Transaction.written?, h.2, Table.get?_insert_eq] at hw
  split at hw
  · rename_i hid
    refine ⟨hid, ?_⟩
    cases what with
    | create _ | update _ =>
      cases hw
      rfl
    | delete _ => cases hw
  · cases hw

end Transaction.Holds

namespace SymbolService.StepsTo

variable {ι : Type} {codec : Codec} {ctx : Context} {what : Write} {ds : List (Deed ξ)}
  {c c' : Call Transaction} {w w' : World ξ} {opened after : ι → Option Transaction} {i : ι}

/-- A step of one call keeps the invariant of the store and all open transactions. -/
theorem sound [BinaryFormat] [IdSource] (h : StepsTo codec ctx c w c' w') (hs : Standing what ds c)
    (sound : w.store.Sound opened) (hi : opened i = c.tx?) (hr : Replaces opened after i c'.tx?) :
    w'.store.Sound after := by
  cases h with
  | found _ | missing _ | barred _ _ | rested | unstaged _ | dropped _ _ | refused _ =>
    rw [hr.eq_of_same hi]
    exact sound
  | opened _ _ => exact sound.begin hr
  | staged clock hcarry =>
    obtain ⟨asks, blank, htx, _, _⟩ := hs
    obtain ⟨yields, rfl, rfl, _⟩ := carryOut_ok blank asks hcarry
    have hstepped : (what.advance w.store).Sound opened :=
      sound.congr (what.advance_rows _) (what.advance_reserved _) (what.advance_nextTransaction _)
    refine hstepped.stage hi hr rfl htx ?_
    intro id symbol hw
    obtain ⟨hid, hsymbol⟩ := Transaction.Holds.eq_of_written? ⟨yields, rfl⟩ hw
    rw [hid, hsymbol]
  | voted _ hc => exact sound.prepare hi hc hr
  | told _ | untold _ _ =>
    rw [hr.eq_of_same hi]
    exact sound
  | committed hp => exact sound.apply hi hp hr
  | rolledBack => exact sound.rollback hi hr

/-- A step of one call keeps every reservation accounted for. -/
theorem accounted [BinaryFormat] [IdSource] (h : StepsTo codec ctx c w c' w') (hs : Standing what ds c)
    (accounted : w.store.Accounted opened) (hi : opened i = c.tx?) (hr : Replaces opened after i c'.tx?) :
    w'.store.Accounted after := by
  cases h with
  | found _ | missing _ | barred _ _ | rested | unstaged _ | dropped _ _ | refused _ =>
    rw [hr.eq_of_same hi]
    exact accounted
  | opened _ _ => exact accounted.begin hi hr
  | staged clock hcarry =>
    obtain ⟨asks, blank, htx, _, _⟩ := hs
    obtain ⟨_, rfl, rfl, _⟩ := carryOut_ok blank asks hcarry
    exact accounted.stage hi htx hr (what.advance_reserved _)
  | voted _ _ => exact accounted.prepare hi hr
  | told _ | untold _ _ =>
    rw [hr.eq_of_same hi]
    exact accounted
  | committed _ => exact accounted.apply hi hr
  | rolledBack => exact accounted.rollback hi hr

/-- A step only ever adds to the log. -/
theorem log [BinaryFormat] [IdSource] (h : StepsTo codec ctx c w c' w') (k : Nat) :
    w'.queue.log = w.queue.log ++ (⟨k, w, w'⟩ : Deed ξ).told := by
  have hadds : ∃ more, w'.queue.log = w.queue.log ++ more := by
    cases h with
    | told hpub => exact ⟨_, Queue.log_of_publish_ok hpub⟩
    | untold _ hpub => exact ⟨[], (Queue.log_of_publish_error hpub).trans (List.append_nil _).symm⟩
    | _ => exact ⟨[], (List.append_nil _).symm⟩
  obtain ⟨more, hmore⟩ := hadds
  rw [Deed.told_eq hmore]
  exact hmore

/-- A step commits what its call holds and ends the call well, or does neither. -/
theorem rows_cases [BinaryFormat] [IdSource] (h : StepsTo codec ctx c w c' w') (hs : Standing what ds c) :
    (w'.store.rows = w.store.rows ∧ w'.store.committed = w.store.committed ∧
      ∀ written, c' = .ended (.ok written) → c = .ended (.ok written)) ∨
      ∃ written u, c = .leave (.ok written) u ∧ c' = .ended (.ok written) ∧
        w'.store.rows = Store.applyWrite w.store.rows written.id (what.leaves written) ∧
        w'.store.committed = w.store.committed + 1 := by
  cases h with
  | staged clock hcarry =>
    obtain ⟨asks, blank, _, _, _⟩ := hs
    obtain ⟨_, _, rfl, _⟩ := carryOut_ok blank asks hcarry
    exact .inl ⟨what.advance_rows _, what.advance_committed _, fun _ h => nomatch h⟩
  | @committed written u _ _ =>
    obtain ⟨⟨_, hstaged⟩, _, _, _⟩ := hs
    refine .inr ⟨written, u, rfl, rfl, ?_, rfl⟩
    show Store.applyWrites w.store.rows u.tx.staged = _
    rw [hstaged]
    rfl
  | rolledBack =>
    refine .inl ⟨?_, ?_, fun _ h => nomatch h⟩ <;>
      · simp only [Store.rollback]
        split <;> rfl
  | rested => exact .inl ⟨rfl, rfl, fun _ h => h⟩
  | _ => exact .inl ⟨rfl, rfl, fun _ h => nomatch h⟩

/-- Transaction ids are only ever counted up. -/
theorem nextTransaction_le [BinaryFormat] [IdSource] (h : StepsTo codec ctx c w c' w')
    (hs : Standing what ds c) :
    w.store.nextTransaction ≤ w'.store.nextTransaction := by
  cases h with
  | opened _ _ => exact Nat.le_succ _
  | staged clock hcarry =>
    obtain ⟨asks, blank, _, _, _⟩ := hs
    obtain ⟨_, _, rfl, _⟩ := carryOut_ok blank asks hcarry
    exact Nat.le_of_eq (what.advance_nextTransaction _).symm
  | rolledBack =>
    simp only [Store.rollback]
    split <;> exact Nat.le_refl _
  | _ => exact Nat.le_refl _

end SymbolService.StepsTo

end SymbolRelay
