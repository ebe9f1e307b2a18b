import SymbolRelay.Proofs.Handling.Backlog
import SymbolRelay.Proofs.Service.Sessions
import SymbolRelay.Proofs.Symbol.Overtaking
import SymbolRelay.Standin.Compact
import SymbolRelay.Standin.NumberedIds
import SymbolRelay.Standin.RetryLoop

/-!
# A worker that starts late

A worker that starts when a session is over finds all events of the session waiting. It applies each of
them once, in the order of rounds. What its catalog tells of a symbol is therefore the last word about it
in this order, while the store tells the last word in the order of publication.

## Results

* `Recorded.perform` — what each act of a session leaves in the log;
* `late_catalog_tells` — a late worker settles everything; its catalog misses no committed symbol, and
  tells of a symbol what the store does exactly if the last word about it is the same in both orders;
* `removedAtOnce_lingers` — a symbol that was deleted can be in its catalog.
-/

set_option autoImplicit false

namespace SymbolRelay

variable {ξ : Type}

namespace Session

/-- What holds of the log of a session: its events have uuids of their own, and the last word about a
symbol is what the store tells of it. -/
structure Recorded [BinaryFormat] [IdSource] (s : Session ξ) : Prop where
  atRest : Traffic.AtRest s.world.store
  reached : s.world.queue.Reached
  orderly : Orderly s.world.queue.log
  named : ∀ e ∈ s.world.queue.log, ∃ n < s.world.ids.used, e.2.uuid = IdSource.text n
  distinct : (s.world.queue.log.map (·.2.uuid)).Nodup
  known : ∀ id, lastWord id (s.world.queue.log.map (·.2)) =
    (s.world.store.rows.get? id).map Symbol.wording

namespace Recorded

variable {s : Session ξ} {validator : Symbol → Except ValidationError Unit}

theorem atStart [BinaryFormat] [IdSource] {start : World ξ} {n : Int64} (store : start.store = .withNextId n)
    (reached : start.queue.Reached) (log : start.queue.log = []) :
    Recorded { world := start } where
  atRest := .of_empty (by rw [store]; rfl) (by rw [store]; rfl)
  reached := reached
  orderly := log ▸ .nil
  named := by simp [log]
  distinct := by simp [log]
  known := fun id => by
    rw [log, store]
    rfl

/-- The messages are different. -/
theorem nodup_messages [BinaryFormat] [IdSource] (h : Recorded s) : (s.world.queue.log.map (·.2)).Nodup :=
  List.Nodup.of_map (·.uuid) (by rw [List.map_map]; exact h.distinct)

/-- Only rows, the log and the supply of uuids matter. -/
theorem keep [BinaryFormat] [IdSource] (h : Recorded s) {w : World ξ}
    (answers : List (Write × Outcome DomainError Symbol)) (atRest : Traffic.AtRest w.store)
    (reached : w.queue.Reached) (rows : w.store.rows = s.world.store.rows)
    (log : w.queue.log = s.world.queue.log) (used : s.world.ids.used ≤ w.ids.used) :
    Recorded { world := w, answers } where
  atRest := atRest
  reached := reached
  orderly := log ▸ h.orderly
  named := fun e he => by
    obtain ⟨n, hn, huuid⟩ := h.named e (log ▸ he)
    exact ⟨n, Nat.lt_of_lt_of_le hn used, huuid⟩
  distinct := log ▸ h.distinct
  known := fun id => by
    rw [log, rows]
    exact h.known id

theorem disturb [BinaryFormat] [IdSource] (h : Recorded s) (disturbance : Disturbance) :
    Recorded { s with world := disturbance.act s.world } := by
  refine h.keep s.answers ?_ ?_ ?_ (disturbance.log_act s.world) ?_
  · cases disturbance <;> exact ⟨h.atRest.keyed, h.atRest.distinct, h.atRest.unreserved⟩
  · cases disturbance with
    | reject count => exact h.reached.reject count
    | close => exact h.reached.close
    | cancel _ | refuse _ | tick _ => exact h.reached
  · cases disturbance <;> rfl
  · cases disturbance <;> exact Nat.le_refl _

/-- A call that succeeds adds an event about what it wrote. -/
theorem landed [BinaryFormat] [IdSource] (h : Recorded s) {w : World ξ}
    (answers : List (Write × Outcome DomainError Symbol)) (atRest : Traffic.AtRest w.store)
    (reached : w.queue.Reached) {what : Write} {written : Symbol} (land : Landed what s.world written w) :
    Recorded { world := w, answers } := by
  obtain ⟨m, n, ⟨now, hdecode⟩, hle, hlt, huuid, hlog⟩ := land.log
  have hkind := Event.kind_ofSymbol what.kind written now
  have hid := Event.symbolId_ofSymbol what.kind written now
  have htopic : what.kind.topic = (Event.ofSymbol what.kind written now).topic := by
    rw [Event.topic, hkind]
  refine ⟨atRest, reached, ?_, fun e he => ?_, ?_, fun id => ?_⟩
  · show Orderly w.queue.log
    rw [hlog, htopic]
    refine h.orderly.snoc hdecode fun hnew => ?_
    obtain ⟨row, hrow⟩ := land.fits.row (hkind ▸ hnew)
    rw [hid, h.known written.id, hrow]
    exact Option.some_ne_none _
  · show ∃ n < w.ids.used, e.2.uuid = IdSource.text n
    rcases List.mem_append.mp (hlog ▸ he) with he | he
    · obtain ⟨k, hk, hname⟩ := h.named e he
      exact ⟨k, Nat.lt_trans (Nat.lt_of_lt_of_le hk hle) hlt, hname⟩
    · rw [List.mem_singleton.mp he]
      exact ⟨n, hlt, huuid⟩
  · show (w.queue.log.map (·.2.uuid)).Nodup
    rw [hlog, List.map_append, List.map_singleton, List.nodup_append]
    refine ⟨h.distinct, List.nodup_singleton _, fun uuid hold other hother heq => ?_⟩
    obtain ⟨e, he, rfl⟩ := List.mem_map.mp hold
    obtain ⟨k, hk, hname⟩ := h.named e he
    rw [List.mem_singleton] at hother
    -- its number was not used before
    have hsame : k = n := IdSource.text_injective (hname.symm.trans (heq.trans (hother.trans huuid)))
    omega
  · show lastWord id (w.queue.log.map (·.2)) = (w.store.rows.get? id).map Symbol.wording
    rw [hlog, lastWord_log_snoc hdecode, hid, Event.leaves_ofSymbol, land.rows, Store.get?_applyWrite,
      h.known id]
    by_cases hsame : written.id = id
    · rw [if_pos hsame, if_pos hsame.symm]
      cases what <;> rfl
    · rw [if_neg hsame, if_neg (Ne.symm hsame)]

/-- **Every act of a session keeps its log so.** -/
theorem perform [BinaryFormat] [IdSource] (h : Recorded s) (act : Act) :
    Recorded (s.perform validator act) := by
  cases act with
  | disturb disturbance => exact h.disturb disturbance
  | call codec ctx ask =>
    cases ask with
    | get id =>
      simp only [Session.perform, get_world]
      exact h
    | list query =>
      simp only [Session.perform, list_world]
      exact h
    | write what =>
      obtain ⟨atRest, used, ended⟩ := alone_write codec validator ctx what h.atRest
      have reached := (write_grows codec validator ctx what h.atRest).reached h.reached
      simp only [Session.perform]
      obtain ⟨written, _, land⟩ | ⟨e, _, miss⟩ := ended
      · exact h.landed _ atRest reached land
      · exact h.keep _ atRest reached miss.rows miss.log used

theorem foldl [BinaryFormat] [IdSource] (acts : List Act) (h : Recorded s) :
    Recorded (acts.foldl (Session.perform validator) s) := by
  induction acts generalizing s with
  | nil => exact h
  | cons act acts ih => exact ih (h.perform act)

end Recorded

/-! ### The late worker -/

/-- The world in which a worker starts when a session is over, with a catalog that is empty. -/
def afterwards (s : Session ξ) (put : Catalog → ξ → ξ) (window : Nat) : World ξ :=
  { s.world with extra := put (.withWindow window) s.world.extra }

namespace Recorded

variable {s : Session ξ} {window : Nat} {part : ξ → Catalog} {put : Catalog → ξ → ξ} {base : Router ξ}

/-- A late worker has everything settled in the end, if nothing prevents it. -/
theorem settles [BinaryFormat] [IdSource] [RetryLoop] (h : Recorded s)
    (lens : ∀ c extra, part (put c extra) = c) (blank : base.Blank) {ctx : Context}
    (ready : Ready ctx (s.afterwards put window)) :
    let r := (base.registerCatalog part put).2
    AllSettled s.world.queue.log ((Watch.begin r ctx (s.afterwards put window)).steps r
      (5 * s.world.queue.log.length)).settled := by
  rw [Router.registerCatalog_blank blank.registrations]
  refine settles_backlog blank lens ready h.reached (lens _ _) (fun e he => ?_) fun e he => ?_
  · obtain ⟨event, hdecode, _⟩ := h.orderly.decoded e he
    exact ⟨event, hdecode⟩
  · obtain ⟨event, _, htopic⟩ := h.orderly.decoded e he
    rw [← htopic]
    exact event.kind.topic_mem

/-- No uuid comes twice in the order of rounds. -/
theorem nodup_uuids [BinaryFormat] [IdSource] (h : Recorded s) :
    (uuids (roundOrder symbolTopics s.world.queue.log)).Nodup := by
  refine (nodup_roundOrder h.nodup_messages symbolTopics_nodup).map_on fun m hm m' hm' hsame => ?_
  obtain ⟨topic, _, hlogged⟩ := mem_roundOrder.mp hm
  obtain ⟨other, _, hlogged'⟩ := mem_roundOrder.mp hm'
  exact congrArg Prod.snd (List.inj_on_of_nodup_map h.distinct hlogged hlogged' hsame)

/-- Its catalog holds what all events say, one after the other in the order of rounds. -/
theorem catalog_eq [BinaryFormat] [IdSource] [RetryLoop] (h : Recorded s)
    (lens : ∀ c extra, part (put c extra) = c) (blank : base.Blank) (ctx : Context) (steps : Nat) :
    let r := (base.registerCatalog part put).2
    let late := (Watch.begin r ctx (s.afterwards put window)).steps r steps
    AllSettled s.world.queue.log late.settled →
      late.settled.map (·.message) = roundOrder symbolTopics s.world.queue.log ∧
        (part late.world.extra).entries =
          Catalog.entriesOf (roundOrder symbolTopics s.world.queue.log) := by
  rw [Router.registerCatalog_blank blank.registrations]
  intro r late all
  have hcatching : CatchingUp r part put window (Ready ctx (s.afterwards put window))
      s.world.queue.log steps late :=
    catchingUp_steps (s.afterwards put window) blank lens ctx h.reached (lens _ _)
      (fun e he => (h.orderly.decoded e he).imp fun _ hd => hd.1) steps
  have horder := eq_roundOrder h.nodup_messages symbolTopics_nodup hcatching.place.settled_prefix all
  have happlied := hcatching.applied
  rw [horder] at happlied
  -- no message comes twice, so none is taken for one that came before
  obtain ⟨c, hc, habsorbed⟩ : ∃ c, (Catalog.withWindow window).applyAll
      (roundOrder symbolTopics s.world.queue.log) = .ok c ∧
        Absorbed window (roundOrder symbolTopics s.world.queue.log) c := by
    refine Absorbed.deliverAll (fun m hm => ?_) (fun m hm => ?_) (.of_nodup h.nodup_uuids)
    · obtain ⟨topic, _, hlogged⟩ := mem_roundOrder.mp hm
      exact (h.orderly.decoded _ hlogged).imp fun _ hd => hd.1
    · obtain ⟨topic, _, hlogged⟩ := mem_roundOrder.mp hm
      obtain ⟨n, _, huuid⟩ := h.named _ hlogged
      rw [show m.uuid = IdSource.text n from huuid]
      exact IdSource.text_ne_empty n
  obtain rfl : c = part late.world.extra := Except.ok.inj (hc.symm.trans happlied)
  rw [habsorbed.entries, firstDeliveries_of_nodup h.nodup_uuids]
  exact ⟨horder, rfl⟩

end Recorded

/-- **What a late worker's catalog tells.** A worker that starts when a session is over, and that nothing
prevents, has all events settled in the end. Then its catalog was given each event once, in the order of
rounds; no committed symbol is missing; and what it tells of a symbol is what the store tells exactly if
the last word about the symbol is the same in this order and in the order of publication. -/
theorem late_catalog_tells [BinaryFormat] [IdSource] [RetryLoop]
    (validator : Symbol → Except ValidationError Unit) (window : Nat) {start : World ξ} {n : Int64}
    (store : start.store = .withNextId n) (reached : start.queue.Reached) (log : start.queue.log = [])
    (acts : List Act) {part : ξ → Catalog} {put : Catalog → ξ → ξ}
    (lens : ∀ c extra, part (put c extra) = c) {base : Router ξ} (blank : base.Blank) (ctx : Context) :
    let s := play validator start acts
    let r := (base.registerCatalog part put).2
    let late := (Watch.begin r ctx (s.afterwards put window)).steps r
    let order := roundOrder symbolTopics s.world.queue.log
    (Ready ctx (s.afterwards put window) → ∃ steps, AllSettled s.world.queue.log (late steps).settled) ∧
      ∀ steps, AllSettled s.world.queue.log (late steps).settled →
        let entries := (part (late steps).world.extra).entries
        (late steps).settled.map (·.message) = order ∧ entries = Catalog.entriesOf order ∧
          (∀ id row, s.world.store.rows.get? id = some row → ∃ entry, entries.get? id = some entry) ∧
          ∀ id, (entries.get? id).map CatalogEntry.wording =
              (s.world.store.rows.get? id).map Symbol.wording ↔
            lastWord id order = lastWord id (s.world.queue.log.map (·.2)) := by
  intro s r late order
  have h : Recorded s := .foldl acts (.atStart store reached log)
  refine ⟨fun ready => ⟨5 * s.world.queue.log.length, h.settles lens blank ready⟩, fun steps all => ?_⟩
  obtain ⟨horder, hentries⟩ := h.catalog_eq lens blank ctx steps all
  refine ⟨horder, hentries, fun id row hrow => ?_, fun id => ?_⟩
  · have hthere : lastWord id (s.world.queue.log.map (·.2)) ≠ none := by
      rw [h.known id, hrow]
      exact Option.some_ne_none _
    have hknown := h.orderly.known_in_rounds h.nodup_messages hthere
    rw [← Catalog.wording_entriesOf, ← hentries] at hknown
    cases hget : (part (late steps).world.extra).entries.get? id with
    | none =>
      rw [hget] at hknown
      exact absurd rfl hknown
    | some entry => exact ⟨entry, rfl⟩
  · rw [hentries, Catalog.wording_entriesOf, ← h.known id]

/-- Two symbols are created, the first one is renamed, and the second one is deleted. -/
def removedAtOnce : List Act :=
  let made := fun name code => Ask.write (.create ⟨0, name, code, "", .epoch, .epoch⟩)
  [.call .json { scope := 1 } (made "Bitcoin" "BTC"), .call .json { scope := 2 } (made "Ether" "ETH"),
    .call .compact { scope := 3 } (.write (.update ⟨1, "Bitcoin core", "BTC", "", .epoch, .epoch⟩)),
    .call .json { scope := 4 } (.write (.delete 2))]

/-- A late worker is not prevented after this. -/
theorem removedAtOnce_ready : Ready { scope := 5 }
    ((play Symbol.validate { extra := Catalog.withWindow 1 } removedAtOnce).afterwards (fun c _ => c) 1) where
  subscriber := by decide +kernel
  queue := by decide +kernel
  running := by decide +kernel
  fresh := by decide +kernel
  started := by decide +kernel
  closing := by decide +kernel

/-- Of the symbol that was renamed a late worker tells what the store does. -/
theorem removedAtOnce_renamed :
    let start : World Catalog := { extra := .withWindow 1 }
    let put : Catalog → Catalog → Catalog := fun c _ => c
    let base : Router Catalog := { subscriber := .ofBroker .ofQueue }
    let ctx : Context := { scope := 5 }
    let s := play Symbol.validate start removedAtOnce
    let r := (base.registerCatalog id put).2
    let late := (Watch.begin r ctx (s.afterwards put 1)).steps r
    start.store = .withNextId 1 ∧ start.queue.Reached ∧ start.queue.log = [] ∧
      (∀ c extra, id (put c extra) = c) ∧ base.Blank ∧ Ready ctx (s.afterwards put 1) ∧
      ∃ steps, AllSettled s.world.queue.log (late steps).settled ∧
        ((late steps).world.extra.entries.get? 1).map CatalogEntry.wording =
          (s.world.store.rows.get? 1).map Symbol.wording := by
  intro start put base ctx s r late
  have store : start.store = .withNextId 1 := rfl
  have lens : ∀ c extra, id (put c extra) = c := fun _ _ => rfl
  have blank : base.Blank := .ofQueue
  obtain ⟨settles, tells⟩ :=
    late_catalog_tells Symbol.validate 1 store .empty rfl removedAtOnce lens blank ctx
  obtain ⟨steps, all⟩ := settles removedAtOnce_ready
  obtain ⟨_, _, _, agrees⟩ := tells steps all
  refine ⟨store, .empty, rfl, lens, blank, removedAtOnce_ready, steps, all, (agrees 1).mpr ?_⟩
  decide +kernel

/-- **A symbol that was deleted can be in a late worker's catalog.** The only deletion is taken in the first
round, and the creation of the second symbol in the second one. -/
theorem removedAtOnce_lingers :
    let start : World Catalog := { extra := .withWindow 1 }
    let put : Catalog → Catalog → Catalog := fun c _ => c
    let base : Router Catalog := { subscriber := .ofBroker .ofQueue }
    let s := play Symbol.validate start removedAtOnce
    let r := (base.registerCatalog id put).2
    let late := (Watch.begin r { scope := 5 } (s.afterwards put 1)).steps r 20
    AllSettled s.world.queue.log late.settled ∧ s.world.store.rows.get? 2 = none ∧
      (late.world.extra.entries.get? 2).map CatalogEntry.wording = some ⟨"Ether", "ETH", ""⟩ := by
  intro start put base s r late
  have store : start.store = .withNextId 1 := rfl
  have lens : ∀ c extra, id (put c extra) = c := fun _ _ => rfl
  have blank : base.Blank := .ofQueue
  have recorded : Recorded s := .foldl removedAtOnce (.atStart store .empty rfl)
  have four : s.world.queue.log.length = 4 := by decide +kernel
  have all := recorded.settles lens blank removedAtOnce_ready
  rw [four] at all
  obtain ⟨_, entries⟩ := recorded.catalog_eq lens blank { scope := 5 } 20 all
  refine ⟨all, by decide +kernel, ?_⟩
  rw [id_eq] at entries
  rw [entries, Catalog.wording_entriesOf]
  decide +kernel

end Session

end SymbolRelay
