import SymbolRelay.Proofs.Store.UnitLeftovers
import SymbolRelay.Proofs.Store.Votes

/-!
# What is reserved

A code is reserved just if a transaction that is open and prepared wrote it when a vote for it was last
granted, and it is reserved for that transaction. It does not matter what the transaction has staged
since, nor which votes were refused.

```text
   code ── reserved for ──► number ── is the number of ──► open transaction
    ▲                                                            │
    └────────────── writes ── as it was at its last granted vote ┘
```

The reservations are kept by code and not by transaction. That none is overwritten is due to the vote,
which is refused if another transaction holds a code; that none is left over, to the numbers, of which
each is given to one transaction only. A transaction that is dropped for another one under its name
leaves its codes behind: runs in which that happens are excluded.

## Results

* `Exact.take`, `Exact.play` — reservations are exact after a turn if they were before, and so after
  a run;
* `reservations_exact` — this for every run from an empty store, with what follows for the end of a
  transaction, for a refused vote, and for the number of reserved codes.
-/

set_option autoImplicit false

namespace SymbolRelay.Desk

variable {d : Desk} {name : String} {tx : Transaction} {votes : String → List Vote}

/-- Whether a turn begins no transaction under a name that is in use. -/
def startsAnew (d : Desk) : Turn → Bool
  | .serve name .begin => !d.opened.contains name
  | _ => true

/-- Whether no transaction of a run is dropped without commit or rollback. -/
def dropsNone (d : Desk) : List Turn → Bool
  | [] => true
  | turn :: turns => d.startsAnew turn && (d.take turn).dropsNone turns

/-- The transaction under a name holds a code under a number. -/
def HoldsCode (d : Desk) (votes : String → List Vote) (name code : String) (number : Nat) : Prop :=
  ∃ tx vote, d.opened.get? name = some tx ∧ tx.id = number ∧ Vote.lastGranted (votes name) = some vote ∧
    vote.Writes code

/-- What is reserved is what the open transactions hold. -/
structure Exact (d : Desk) (votes : String → List Vote) : Prop where
  issued : d.Issued
  marked : d.Marked votes
  /-- No two open transactions have the same number. -/
  apart : ∀ name other tx ux, d.opened.get? name = some tx → d.opened.get? other = some ux →
    tx.id = ux.id → name = other
  reserved : ∀ code number, d.store.reserved.get? code = some number ↔
    ∃ name, d.HoldsCode votes name code number

namespace Exact

theorem fresh (nextId : Int64) (clock : Clock) : (fresh nextId clock).Exact fun _ => [] where
  issued := .fresh nextId clock
  marked := fun name tx h => by cases h
  apart := fun name other tx ux h => by cases h
  reserved := fun code number => by
    constructor
    · intro h
      cases h
    · rintro ⟨name, tx, vote, h, _⟩
      cases h

/-- A transaction that is not prepared holds nothing. -/
theorem not_reserved (h : d.Exact votes) (ho : d.opened.get? name = some tx) (hp : tx.prepared = false)
    (code : String) : d.store.reserved.get? code ≠ some tx.id := by
  intro hr
  obtain ⟨other, ux, vote, hu, hid, hv, _⟩ := (h.reserved code tx.id).mp hr
  cases h.apart other name ux tx hu ho hid
  have hmark := (h.marked name tx ho).mpr ((Vote.exists_lastGranted_iff _).mp ⟨vote, hv⟩)
  rw [hp] at hmark
  cases hmark

/-- The end of a transaction gives back what was reserved for it, and nothing else. -/
theorem reserved_of_ended (h : d.Exact votes) (ho : d.opened.get? name = some tx) {e : Desk}
    (ended : Ended d name tx e) (code : String) (holder : Nat) :
    e.store.reserved.get? code = some holder ↔
      d.store.reserved.get? code = some holder ∧ holder ≠ tx.id := by
  rcases ended.released with released | ⟨hp, hsame⟩
  · exact released code holder
  · rw [hsame]
    refine ⟨fun hr => ⟨hr, ?_⟩, fun hr => hr.1⟩
    rintro rfl
    exact h.not_reserved ho hp code hr

/-- Another transaction that holds a code does so under another number. -/
theorem number_ne (h : d.Exact votes) (ho : d.opened.get? name = some tx) {other code : String}
    {number : Nat} (hne : other ≠ name) (hholds : d.HoldsCode votes other code number) :
    number ≠ tx.id := by
  rintro rfl
  obtain ⟨ux, _, hu, hid, _⟩ := hholds
  exact hne (h.apart other name ux tx hu ho hid)

end Exact

/-- A code that is held under another number is held under another name. -/
theorem HoldsCode.name_ne {other code : String} {number : Nat} (h : d.HoldsCode votes other code number)
    (ho : d.opened.get? name = some tx) (hne : number ≠ tx.id) : other ≠ name := by
  rintro rfl
  obtain ⟨ux, _, hu, hid, _⟩ := h
  cases ho.symm.trans hu
  exact hne hid.symm

/-! ## One turn -/

/-- From one desk to another, only what is under one name has changed. -/
structure SameElsewhere (d : Desk) (votes : String → List Vote) (name : String) (e : Desk)
    (now : String → List Vote) : Prop where
  opened : ∀ other, other ≠ name → e.opened.get? other = d.opened.get? other
  votes : ∀ other, other ≠ name → now other = votes other

theorem sameElsewhere (name : String) (demand : Demand) :
    d.SameElsewhere votes name (d.take (.serve name demand))
      fun other => d.votesAfter other (votes other) (.serve name demand) where
  opened := fun _ hne => opened_serve_of_ne hne demand
  votes := fun _ hne => votesAfter_of_ne hne demand

namespace SameElsewhere

variable {e : Desk} {now : String → List Vote}

/-- Transactions under other names hold what they held. -/
theorem holdsCode_iff (same : d.SameElsewhere votes name e now) {other : String} (hne : other ≠ name)
    (code : String) (number : Nat) :
    e.HoldsCode now other code number ↔ d.HoldsCode votes other code number := by
  rw [HoldsCode, HoldsCode, same.opened other hne, same.votes other hne]

/-- The numbers stay apart if the transaction under that name keeps its own. -/
theorem apart (same : d.SameElsewhere votes name e now) (h : d.Exact votes)
    (ho : d.opened.get? name = some tx) (id : ∀ ux, e.opened.get? name = some ux → ux.id = tx.id) :
    ∀ first second ux vx, e.opened.get? first = some ux → e.opened.get? second = some vx →
      ux.id = vx.id → first = second := by
  -- Whoever is open now has the number of one who was open under that name before.
  have before : ∀ other ux, e.opened.get? other = some ux →
      ∃ wx, d.opened.get? other = some wx ∧ wx.id = ux.id := by
    intro other ux hu
    by_cases hne : other = name
    · subst hne
      exact ⟨tx, ho, (id ux hu).symm⟩
    · rw [same.opened other hne] at hu
      exact ⟨ux, hu, rfl⟩
  intro first second ux vx hu hv hid
  obtain ⟨ux', hu', hidu⟩ := before first ux hu
  obtain ⟨vx', hv', hidv⟩ := before second vx hv
  exact h.apart first second ux' vx' hu' hv' (hidu.trans (hid.trans hidv.symm))

/-- If the same is reserved and held under that name, what is reserved stays exact. -/
theorem reserved_of_kept (same : d.SameElsewhere votes name e now) (h : d.Exact votes)
    (reserved : e.store.reserved = d.store.reserved) {code : String} {number : Nat}
    (here : e.HoldsCode now name code number ↔ d.HoldsCode votes name code number) :
    e.store.reserved.get? code = some number ↔ ∃ name, e.HoldsCode now name code number := by
  rw [reserved, h.reserved]
  refine exists_congr fun other => ?_
  by_cases hne : other = name
  · rw [hne]
    exact here.symm
  · exact (same.holdsCode_iff hne code number).symm

/-- If the transaction under that name is voted for, it holds what it writes, and what it held only on
account of an earlier vote is given back. -/
theorem reserved_of_voted (same : d.SameElsewhere votes name e now) (h : d.Exact votes)
    (ho : d.opened.get? name = some tx) (free : d.store.conflict tx = none)
    (store : e.store = d.store.voted tx) {code : String} {number : Nat}
    (here : e.HoldsCode now name code number ↔ tx.Writes code ∧ number = tx.id) :
    e.store.reserved.get? code = some number ↔ ∃ name, e.HoldsCode now name code number := by
  rw [store]
  have hvoted := Store.voted_get?_eq_some_iff d.store tx code number
  refine hvoted.trans ?_
  constructor
  · rintro (hw | ⟨_, hr, hne⟩)
    · exact ⟨name, here.mpr hw⟩
    · obtain ⟨other, hholds⟩ := (h.reserved code number).mp hr
      exact ⟨other, (same.holdsCode_iff (hholds.name_ne ho hne) code number).mpr hholds⟩
  · rintro ⟨other, hholds⟩
    by_cases hother : other = name
    · subst hother
      exact .inl (here.mp hholds)
    · have hbefore := (same.holdsCode_iff hother code number).mp hholds
      have hr := (h.reserved code number).mpr ⟨other, hbefore⟩
      have hne := h.number_ne ho hother hbefore
      refine .inr ⟨?_, hr, hne⟩
      -- The vote would have been refused for a code that another transaction holds.
      rintro ⟨id, symbol, hw, rfl⟩
      exact hne ((Store.not_taken_of_conflict_eq_none free hw).2.1 number hr)

/-- If the transaction under that name has ended, just the others hold anything. -/
theorem reserved_of_ended (same : d.SameElsewhere votes name e now) (h : d.Exact votes)
    (ho : d.opened.get? name = some tx) (ended : Ended d name tx e) (code : String) (number : Nat) :
    e.store.reserved.get? code = some number ↔ ∃ name, e.HoldsCode now name code number := by
  rw [h.reserved_of_ended ho ended, h.reserved]
  constructor
  · rintro ⟨⟨other, hholds⟩, hne⟩
    exact ⟨other, (same.holdsCode_iff (hholds.name_ne ho hne) code number).mpr hholds⟩
  · rintro ⟨other, hholds⟩
    have hother : other ≠ name := by
      rintro rfl
      obtain ⟨ux, _, hu, _⟩ := hholds
      rw [ended.closed] at hu
      cases hu
    have hbefore := (same.holdsCode_iff hother code number).mp hholds
    exact ⟨⟨other, hbefore⟩, h.number_ne ho hother hbefore⟩

/-- What is reserved is exact again once a demand has been served, whatever came of it. -/
theorem reserved (same : d.SameElsewhere votes name e now) (h : d.Exact votes)
    (ho : d.opened.get? name = some tx) (hfares : Fares d name tx (votes name) e (now name))
    (code : String) (number : Nat) :
    e.store.reserved.get? code = some number ↔ ∃ name, e.HoldsCode now name code number := by
  generalize hnow : now name = votesHere at hfares
  cases hfares with
  | @on _ ux refused opened id prepared reserved refusals =>
    refine same.reserved_of_kept h reserved ?_
    simp only [HoldsCode, opened, ho, hnow, Vote.lastGranted_refused _ refusals, Option.some.injEq]
    constructor
    · rintro ⟨_, vote, rfl, hid, hv⟩
      exact ⟨tx, vote, rfl, id.symm.trans hid, hv⟩
    · rintro ⟨_, vote, rfl, hid, hv⟩
      exact ⟨ux, vote, rfl, id.trans hid, hv⟩
  | granted free =>
    refine same.reserved_of_voted h ho free rfl ?_
    rw [HoldsCode, opened_put_self, hnow, Vote.lastGranted_granted _ (by rfl)]
    constructor
    · rintro ⟨_, _, hux, rfl, hv, hw⟩
      cases hux
      cases hv
      exact ⟨hw, rfl⟩
    · rintro ⟨hw, rfl⟩
      exact ⟨_, tx, rfl, rfl, rfl, hw⟩
  | ended ended => exact same.reserved_of_ended h ho ended code number

end SameElsewhere

namespace Exact

theorem begin (h : d.Exact votes) (name : String) (hnew : d.opened.get? name = none) :
    (d.take (.serve name .begin)).Exact
      fun other => d.votesAfter other (votes other) (.serve name .begin) where
  issued := h.issued.take _
  marked := h.marked.take _
  apart := by
    have elsewhere := (sameElsewhere name .begin : d.SameElsewhere votes name _ _).opened
    have here : (d.take (.serve name .begin)).opened.get? name = some d.store.begin.1 :=
      opened_put_self _ name _
    -- The new number is above those of all transactions that are open.
    have above : ∀ other ux, other ≠ name →
        (d.take (.serve name .begin)).opened.get? other = some ux → ux.id ≠ d.store.nextTransaction := by
      intro other ux hne hu
      rw [elsewhere other hne] at hu
      exact Nat.ne_of_lt (h.issued.opened other ux hu)
    intro first second ux vx hu hv hid
    by_cases hfirst : first = name <;> by_cases hsecond : second = name
    · rw [hfirst, hsecond]
    · subst hfirst
      cases here.symm.trans hu
      exact absurd hid.symm (above second vx hsecond hv)
    · subst hsecond
      cases here.symm.trans hv
      exact absurd hid (above first ux hfirst hu)
    · rw [elsewhere first hfirst] at hu
      rw [elsewhere second hsecond] at hv
      exact h.apart first second ux vx hu hv hid
  reserved := fun code number => by
    refine (sameElsewhere name .begin).reserved_of_kept h rfl ?_
    simp [HoldsCode, hnew, votesAfter, Turn.ends, Vote.lastGranted]

/-- **Reservations are exact after a turn if they were before.** -/
theorem take (h : d.Exact votes) (turn : Turn) (anew : d.startsAnew turn = true) :
    (d.take turn).Exact fun name => d.votesAfter name (votes name) turn := by
  cases turn with
  | refuse refusing =>
    simp only [votesAfter_refuse]
    exact ⟨h.issued.take _, h.marked, h.apart, h.reserved⟩
  | serve name demand =>
    by_cases hd : demand = .begin
    · subst hd
      refine h.begin name ?_
      rw [startsAnew, Bool.not_eq_true'] at anew
      exact (Table.contains_eq_false_iff _ _).mp anew
    · cases ho : d.opened.get? name with
      | none =>
        have hvotes : ∀ other, d.opened.get? other ≠ none →
            d.votesAfter other (votes other) (.serve name demand) = votes other := by
          intro other hopen
          refine votesAfter_of_ne ?_ demand
          rintro rfl
          exact hopen ho
        rw [take_of_not_open hd ho]
        refine ⟨h.issued, ?_, h.apart, ?_⟩
        · intro other ux hu
          show _ ↔ ∃ vote ∈ d.votesAfter other (votes other) (.serve name demand), _
          rw [hvotes other (by simp [hu])]
          exact h.marked other ux hu
        · intro code number
          rw [h.reserved]
          refine exists_congr fun other => ?_
          show d.HoldsCode votes other code number ↔ d.HoldsCode _ other code number
          cases hu : d.opened.get? other with
          | none => simp [HoldsCode, hu]
          | some ux => simp only [HoldsCode, hvotes other (by simp [hu])]
      | some tx =>
        have same : d.SameElsewhere votes name _ _ := sameElsewhere name demand
        refine ⟨h.issued.take _, h.marked.take _, ?_, same.reserved h ho (fares hd ho)⟩
        refine same.apart h ho fun ux hu => ?_
        have hserved : Served d name tx demand (d.serveIn name tx demand).1 := served hd
        exact hserved.id_eq ho (take_of_open hd ho ▸ hu)

/-- **So are they along a run** that drops no transaction, by induction along its turns. -/
theorem play (turns : List Turn) (h : d.Exact votes) (keeps : d.dropsNone turns = true) :
    (d.play turns).Exact fun name => d.votesAlong name (votes name) turns := by
  induction turns generalizing d votes with
  | nil => exact h
  | cons turn turns ih =>
    rw [dropsNone, Bool.and_eq_true] at keeps
    exact ih (h.take turn keeps.1) keeps.2

/-- Nothing is reserved as long as no open transaction is prepared. -/
theorem reserved_eq_empty (h : d.Exact votes)
    (hnone : ∀ name tx, d.opened.get? name = some tx → tx.prepared = false) :
    d.store.reserved = Table.empty := by
  refine Table.ext fun code => ?_
  rw [Table.get?_empty]
  cases hr : d.store.reserved.get? code with
  | none => rfl
  | some number =>
    obtain ⟨name, tx, _, ho, hid, _⟩ := (h.reserved code number).mp hr
    exact absurd (hid ▸ hr) (h.not_reserved ho (hnone name tx ho) code)

end Exact

/-! ## Every run -/

/-- What is said of the reservations at a desk, given the votes for the transactions that are open. -/
structure ReservesExactly (d : Desk) (votes : String → List Vote) : Prop where
  /-- A code is reserved under a number just if the open transaction with that number is prepared and
  wrote the code at its last granted vote. -/
  exactly : ∀ code number, d.store.reserved.get? code = some number ↔
    ∃ name tx vote, d.opened.get? name = some tx ∧ tx.prepared = true ∧ tx.id = number ∧
      Vote.lastGranted (votes name) = some vote ∧ vote.Writes code
  /-- A transaction is prepared just if a vote for it was granted. -/
  prepared : ∀ name tx, d.opened.get? name = some tx →
    (tx.prepared = true ↔ ∃ vote, Vote.lastGranted (votes name) = some vote)
  /-- The commit of a transaction, granted or not, and its rollback give back what it held, and
  nothing that another holds. -/
  released : ∀ name tx, d.opened.get? name = some tx → ∀ demand ∈ [Demand.commit, .rollback],
    ∀ code number, (d.take (.serve name demand)).store.reserved.get? code = some number ↔
      d.store.reserved.get? code = some number ∧ number ≠ tx.id
  /-- A vote that is refused changes nothing. -/
  refused : ∀ name e, (d.serve name .prepare).2 = some (.error e) → d.take (.serve name .prepare) = d
  /-- Without a prepared transaction no code is reserved. -/
  unreserved : (∀ name tx, d.opened.get? name = some tx → tx.prepared = false) →
    d.store.reserved.size = 0

theorem take_of_vote_refused {e : DataError} (h : (d.serve name .prepare).2 = some (.error e)) :
    d.take (.serve name .prepare) = d := by
  cases ho : d.opened.get? name with
  | none => exact take_of_not_open (by decide) ho
  | some tx =>
    rw [serve_of_ne_begin (by decide : Demand.prepare ≠ .begin), ho] at h
    rw [take_of_open (by decide) ho]
    exact serveIn_error (Option.some.inj h)

theorem Exact.reservesExactly (h : d.Exact votes) : d.ReservesExactly votes where
  exactly := fun code number => by
    rw [h.reserved]
    constructor
    · rintro ⟨name, tx, vote, ho, hid, hv, hw⟩
      have hp := (h.marked name tx ho).mpr ((Vote.exists_lastGranted_iff _).mp ⟨vote, hv⟩)
      exact ⟨name, tx, vote, ho, hp, hid, hv, hw⟩
    · rintro ⟨name, tx, vote, ho, _, hid, hv, hw⟩
      exact ⟨name, tx, vote, ho, hid, hv, hw⟩
  prepared := fun name tx ho => by
    rw [h.marked name tx ho, Vote.exists_lastGranted_iff]
  released := fun name tx ho demand hd code number => by
    have hended : Ended d name tx (d.take (.serve name demand)) := by
      simp only [List.mem_cons, List.not_mem_nil, or_false] at hd
      rcases hd with rfl | rfl
      · rw [take_of_open (by decide) ho]
        exact ended_commit
      · rw [take_of_open (by decide) ho]
        exact ended_rollback
    exact h.reserved_of_ended ho hended code number
  refused := fun name e hrefused => take_of_vote_refused hrefused
  unreserved := fun hnone => by
    rw [h.reserved_eq_empty hnone]
    rfl

/-- **Reservations are exact.** In every run from an empty store in which no transaction is dropped
without commit or rollback, whatever is staged between one vote and the next and whichever of them are
refused: a code is reserved just if an open and prepared transaction wrote it when a vote for it was last
granted, under the number of that transaction. So a transaction gives back at its end what it held and
no more, and without a prepared transaction nothing is reserved. -/
theorem reservations_exact (nextId : Int64) (clock : Clock) (turns : List Turn)
    (keeps : (fresh nextId clock).dropsNone turns = true) :
    ((fresh nextId clock).play turns).ReservesExactly ((fresh nextId clock).votes turns) :=
  ((Exact.fresh nextId clock).play turns keeps).reservesExactly

/-- One client is voted for with one code, writes a second one and is voted for again, and then a third
one, for which it is refused because another client is voted for with it. A third client has written
something that nobody has asked a vote for. -/
def votedAgain : List Turn :=
  let symbol := fun code => (⟨0, "Coin", code, "", .epoch, .epoch⟩ : Symbol)
  [.serve "a" .begin, .serve "a" (.create (symbol "AAA")), .serve "a" .prepare,
    .serve "a" (.create (symbol "BBB")), .serve "a" .prepare,
    .serve "b" .begin, .serve "b" (.create (symbol "CCC")), .serve "a" (.create (symbol "CCC")),
    .serve "b" .prepare, .serve "c" .begin, .serve "c" (.create (symbol "DDD")), .serve "a" .prepare]

/-- The refused vote took nothing from the first client and gave it nothing, and its rollback leaves the
code of the second client where it is. -/
theorem votedAgain_reserves :
    (fresh 1 default).dropsNone votedAgain = true ∧
      let d := (fresh 1 default).play votedAgain
      d.store.reserved.entries = [("AAA", 1), ("BBB", 1), ("CCC", 2)] ∧
      (d.serve "a" .prepare).2 = some (.error (.duplicate "CCC")) ∧
      d.take (.serve "a" .prepare) = d ∧
      (∃ name tx vote, d.opened.get? name = some tx ∧ tx.prepared = true ∧ tx.id = 1 ∧
        Vote.lastGranted ((fresh 1 default).votes votedAgain name) = some vote ∧ vote.Writes "BBB") ∧
      (d.take (.serve "a" .rollback)).store.reserved.get? "CCC" = some 2 ∧
      (d.take (.serve "a" .rollback)).store.reserved.get? "AAA" ≠ some 1 := by
  have keeps : (fresh 1 default).dropsNone votedAgain = true := by decide +kernel
  have exactly := reservations_exact 1 default votedAgain keeps
  have number : (((fresh 1 default).play votedAgain).opened.get? "a").map (·.id) = some 1 := by
    decide +kernel
  obtain ⟨tx, opened, hid⟩ := Option.map_eq_some_iff.mp number
  have refused : (((fresh 1 default).play votedAgain).serve "a" .prepare).2 =
      some (.error (.duplicate "CCC")) := rfl
  have released := exactly.released "a" tx opened .rollback (by simp)
  refine ⟨keeps, by decide +kernel, refused, exactly.refused "a" _ refused,
    (exactly.exactly "BBB" 1).mp (by decide +kernel), ?_, ?_⟩
  · exact (released "CCC" 2).mpr ⟨by decide +kernel, by rw [hid]; decide⟩
  · intro h
    exact ((released "AAA" 1).mp h).2 hid.symm

end SymbolRelay.Desk
