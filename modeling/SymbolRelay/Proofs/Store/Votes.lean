import SymbolRelay.Proofs.Store.Conflicts
import SymbolRelay.Proofs.Store.Isolation

/-!
# Votes on record

A vote may be asked for a transaction more than once, with further writes staged in between, and each
time it is granted or refused. While the transaction is open its votes are on record, each with the
transaction as it was when it was asked for.

```text
   begin ── stage ── prepare ── stage ── prepare ── prepare ── commit
                        │                   │          │         │
   votes:  []       [granted]          … refused   … granted     []
```

The record is kept beside the desk and says nothing that the desk has to know; it is what properties of
a transaction with several votes are about.

## Results

* `fares` — all that a demand other than to begin can come to, for the transaction, its votes and what
  is reserved;
* `prepared_iff_granted` — in every run a transaction is marked as prepared just if a vote for it was
  granted, whatever came of the votes after that one.
-/

set_option autoImplicit false

namespace SymbolRelay

/-- A vote that was asked for: the transaction as it was then, and the answer. -/
structure Vote where
  tx : Transaction
  answer : Except DataError Reply

namespace Vote

/-- Whether the vote was granted. -/
def granted (vote : Vote) : Bool := vote.answer.isOk

/-- The transaction as it was at the last vote that was granted, if one was. -/
def lastGranted (votes : List Vote) : Option Transaction :=
  (votes.reverse.find? granted).map (·.tx)

theorem lastGranted_granted (votes : List Vote) {vote : Vote} (h : vote.granted = true) :
    lastGranted (votes ++ [vote]) = some vote.tx := by
  simp [lastGranted, h]

theorem lastGranted_refused (votes : List Vote) {refused : List Vote}
    (h : ∀ vote ∈ refused, vote.granted = false) :
    lastGranted (votes ++ refused) = lastGranted votes := by
  have hnone : refused.reverse.find? granted = none := by
    rw [List.find?_eq_none]
    intro vote hv
    simp [h vote (List.mem_reverse.mp hv)]
  rw [lastGranted, List.reverse_append, List.find?_append, hnone]
  rfl

theorem exists_lastGranted_iff (votes : List Vote) :
    (∃ tx, lastGranted votes = some tx) ↔ ∃ vote ∈ votes, vote.granted = true := by
  simp only [lastGranted, Option.map_eq_some_iff]
  rw [exists_comm]
  simp only [exists_and_left, exists_eq', and_true]
  rw [← Option.isSome_iff_exists, List.find?_isSome]
  simp only [List.mem_reverse]

end Vote

namespace Desk

variable {d : Desk} {name : String} {tx : Transaction} {past : List Vote} {demand : Demand}

/-- The vote that a turn asks for the transaction under a name, if it does. -/
def voteOn (d : Desk) (name : String) : Turn → Option Vote
  | .serve other .prepare =>
    if other = name then
      (d.opened.get? name).bind fun tx => (d.serve name .prepare).2.map fun answer => ⟨tx, answer⟩
    else none
  | _ => none

/-- The votes on record for the transaction under a name after a turn. -/
def votesAfter (d : Desk) (name : String) (past : List Vote) (turn : Turn) : List Vote :=
  if turn.ends name then [] else past ++ (d.voteOn name turn).toList

/-- The votes on record for the transaction under a name after one turn after the other. -/
def votesAlong (d : Desk) (name : String) (past : List Vote) : List Turn → List Vote
  | [] => past
  | turn :: turns => (d.take turn).votesAlong name (d.votesAfter name past turn) turns

/-- The votes on record for the transaction that is open under a name at the end of a run. -/
def votes (d : Desk) (turns : List Turn) (name : String) : List Vote := d.votesAlong name [] turns

theorem votesAfter_of_ne {other : String} (hne : name ≠ other) (demand : Demand) :
    d.votesAfter name past (.serve other demand) = past := by
  have hends : (Turn.serve other demand).ends name = false := by
    simp [Turn.ends, hne.symm]
  have hvote : d.voteOn name (.serve other demand) = none := by
    cases demand <;> simp [voteOn, hne.symm]
  simp [votesAfter, hends, hvote]

theorem votesAfter_of_ends {turn : Turn} (h : turn.ends name = true) :
    d.votesAfter name past turn = [] := by
  simp [votesAfter, h]

/-- A demand that stages a write asks for no vote. -/
theorem votesAfter_of_stages (h : demand.stages = true) :
    d.votesAfter name past (.serve name demand) = past := by
  cases demand with
  | begin | prepare | commit | rollback => cases h
  | create symbol | update symbol | delete id => simp [votesAfter, Turn.ends, voteOn]

theorem votesAfter_prepare (ho : d.opened.get? name = some tx) :
    d.votesAfter name past (.serve name .prepare) =
      past ++ [⟨tx, (d.store.prepare tx).map fun _ => .done⟩] := by
  simp [votesAfter, Turn.ends, voteOn, ho, Ledger.reply_prepare ho]

/-! ## What comes of a demand -/

/-- A commit gives back what was reserved for the transaction, and nothing else. -/
theorem reserved_of_commit {store : Store} (h : d.store.commit tx = .ok store) (code : String)
    (holder : Nat) :
    store.reserved.get? code = some holder ↔
      d.store.reserved.get? code = some holder ∧ holder ≠ tx.id := by
  obtain ⟨_, rfl⟩ | ⟨_, _, free, rfl⟩ := (Store.commit_eq_ok_iff _ _ _).mp h
  · exact Store.release_get?_eq_some_iff d.store tx.id code holder
  · have hrelease := Store.release_get?_eq_some_iff (d.store.voted tx) tx.id code holder
    refine hrelease.trans ?_
    rw [Store.voted_get?_eq_some_iff]
    constructor
    · rintro ⟨⟨_, rfl⟩ | ⟨_, hreserved, hne⟩, hne'⟩
      · exact absurd rfl hne'
      · exact ⟨hreserved, hne⟩
    · rintro ⟨hreserved, hne⟩
      refine ⟨.inr ⟨?_, hreserved, hne⟩, hne⟩
      rintro ⟨id, symbol, hw, rfl⟩
      exact hne ((Store.not_taken_of_conflict_eq_none free hw).2.1 holder hreserved)

/-- A transaction has ended. What was reserved for it is given back, if it was prepared at all. -/
structure Ended (d : Desk) (name : String) (tx : Transaction) (e : Desk) : Prop where
  closed : e.opened.get? name = none
  released : (∀ code holder, e.store.reserved.get? code = some holder ↔
      d.store.reserved.get? code = some holder ∧ holder ≠ tx.id) ∨
    tx.prepared = false ∧ e.store.reserved = d.store.reserved

/-- What comes of a demand other than to begin, for a transaction that is open under a name, its votes
and what is reserved. -/
inductive Fares (d : Desk) (name : String) (tx : Transaction) (past : List Vote) :
    Desk → List Vote → Prop
  /-- It goes on, and whatever votes were asked for were refused. -/
  | on {e : Desk} {ux : Transaction} {refused : List Vote} (opened : e.opened.get? name = some ux)
      (id : ux.id = tx.id) (prepared : ux.prepared = tx.prepared)
      (reserved : e.store.reserved = d.store.reserved)
      (refusals : ∀ vote ∈ refused, vote.granted = false) : Fares d name tx past e (past ++ refused)
  /-- It was voted for. -/
  | granted (free : d.store.conflict tx = none) :
      Fares d name tx past ({ d with store := d.store.voted tx }.put name { tx with prepared := true })
        (past ++ [⟨tx, .ok .done⟩])
  | ended {e : Desk} (ended : Ended d name tx e) : Fares d name tx past e []

theorem fares_stage (ho : d.opened.get? name = some tx) (hs : demand.stages = true) :
    Fares d name tx past (d.serveIn name tx demand).1 past := by
  suffices h : Fares d name tx past (d.serveIn name tx demand).1 (past ++ []) by
    rwa [List.append_nil] at h
  have hb : demand ≠ .begin := by
    rintro rfl
    cases hs
  have hserved : Served d name tx demand (d.serveIn name tx demand).1 := served hb
  generalize (d.serveIn name tx demand).1 = e at hserved
  cases hserved with
  | refused => exact .on ho rfl rfl rfl (by simp)
  | staged _ _ _ id prepared _ => exact .on (opened_put_self _ _ _) id prepared rfl (by simp)
  | voted _ | committed _ | lost _ | rolledBack => cases hs

theorem fares_prepare (ho : d.opened.get? name = some tx) :
    Fares d name tx past (d.serveIn name tx .prepare).1
      (past ++ [⟨tx, (d.store.prepare tx).map fun _ => .done⟩]) := by
  simp only [serveIn]
  cases hp : d.store.prepare tx with
  | error e =>
    refine .on ho rfl rfl rfl fun vote hv => ?_
    rw [List.mem_singleton.mp hv]
    rfl
  | ok after =>
    obtain ⟨_, free, rfl⟩ := (Store.prepare_eq_ok_iff _ _ _).mp hp
    exact .granted free

theorem ended_commit : Ended d name tx (d.serveIn name tx .commit).1 := by
  simp only [serveIn]
  cases hc : d.store.commit tx with
  | error e =>
    have hp : tx.prepared = false := by
      rw [← Bool.not_eq_true]
      intro hp
      rw [(Store.commit_eq_ok_iff _ _ _).mpr (.inl ⟨hp, rfl⟩)] at hc
      cases hc
    exact ⟨opened_drop_self d name, .inr ⟨hp, rfl⟩⟩
  | ok store => exact ⟨opened_drop_self _ name, .inl (reserved_of_commit hc)⟩

theorem ended_rollback : Ended d name tx (d.serveIn name tx .rollback).1 := by
  refine ⟨opened_drop_self _ name, ?_⟩
  show (∀ code holder, (d.store.rollback tx).reserved.get? code = some holder ↔ _) ∨
    tx.prepared = false ∧ (d.store.rollback tx).reserved = d.store.reserved
  unfold Store.rollback
  cases hp : tx.prepared with
  | true => exact .inl (Store.release_get?_eq_some_iff d.store tx.id)
  | false => exact .inr ⟨rfl, rfl⟩

theorem take_of_open (hd : demand ≠ .begin) (ho : d.opened.get? name = some tx) :
    d.take (.serve name demand) = (d.serveIn name tx demand).1 := by
  simp only [take, serve_of_ne_begin hd, ho]

/-- Nothing changes where no transaction is open. -/
theorem take_of_not_open (hd : demand ≠ .begin) (ho : d.opened.get? name = none) :
    d.take (.serve name demand) = d := by
  simp only [take, serve_of_ne_begin hd, ho]

/-- **All that a demand can come to**, for the transaction in which it is served. -/
theorem fares (hd : demand ≠ .begin) (ho : d.opened.get? name = some tx) :
    Fares d name tx past (d.take (.serve name demand)) (d.votesAfter name past (.serve name demand)) := by
  rw [take_of_open hd ho]
  cases demand with
  | begin => exact absurd rfl hd
  | create symbol | update symbol | delete id =>
    rw [votesAfter_of_stages rfl]
    exact fares_stage ho rfl
  | prepare =>
    rw [votesAfter_prepare ho]
    exact fares_prepare ho
  | commit =>
    rw [votesAfter_of_ends (by simp [Turn.ends])]
    exact .ended ended_commit
  | rollback =>
    rw [votesAfter_of_ends (by simp [Turn.ends])]
    exact .ended ended_rollback

theorem votesAfter_refuse (refusing : Bool) : d.votesAfter name past (.refuse refusing) = past := by
  simp [votesAfter, Turn.ends, voteOn]

/-! ## Granted once -/

/-- Every open transaction is marked as prepared just if one of its votes was granted. -/
def Marked (d : Desk) (votes : String → List Vote) : Prop :=
  ∀ name tx, d.opened.get? name = some tx →
    (tx.prepared = true ↔ ∃ vote ∈ votes name, vote.granted = true)

theorem Marked.take {votes : String → List Vote} (h : d.Marked votes) (turn : Turn) :
    (d.take turn).Marked fun name => d.votesAfter name (votes name) turn := by
  intro name ux hu
  show _ ↔ ∃ vote ∈ d.votesAfter name (votes name) turn, _
  cases turn with
  | refuse refusing =>
    rw [votesAfter_refuse]
    exact h name ux hu
  | serve other demand =>
    by_cases hne : name = other
    · subst hne
      by_cases hd : demand = .begin
      · subst hd
        cases (opened_put_self _ name _).symm.trans hu
        simp [votesAfter, Turn.ends]
      · cases ho : d.opened.get? name with
        | none =>
          rw [take_of_not_open hd ho, ho] at hu
          cases hu
        | some tx =>
          have hfares : Fares d name tx (votes name) _ _ := fares hd ho
          generalize d.take (.serve name demand) = e at hfares hu
          generalize d.votesAfter name (votes name) (.serve name demand) = now at hfares
          cases hfares with
          | @on _ vx refused opened id prepared reserved refusals =>
            cases opened.symm.trans hu
            rw [prepared, h name tx ho]
            constructor
            · rintro ⟨vote, hv, hg⟩
              exact ⟨vote, List.mem_append_left _ hv, hg⟩
            · rintro ⟨vote, hv, hg⟩
              rcases List.mem_append.mp hv with hv | hv
              · exact ⟨vote, hv, hg⟩
              · exact absurd hg (by simp [refusals vote hv])
          | granted free =>
            cases (opened_put_self _ name _).symm.trans hu
            exact ⟨fun _ => ⟨_, List.mem_append_right _ List.mem_cons_self, rfl⟩, fun _ => rfl⟩
          | ended ended =>
            rw [ended.closed] at hu
            cases hu
    · rw [votesAfter_of_ne hne]
      refine h name ux ?_
      rw [← opened_serve_of_ne hne demand]
      exact hu

theorem Marked.play (turns : List Turn) {votes : String → List Vote} (h : d.Marked votes) :
    (d.play turns).Marked fun name => d.votesAlong name (votes name) turns := by
  induction turns generalizing d votes with
  | nil => exact h
  | cons turn turns ih => exact ih (h.take turn)

/-- **A transaction is marked as prepared just if one of its votes was granted**, in every run from a
desk at which no transaction is open: no vote that is refused later takes the mark away. -/
theorem prepared_iff_granted {start : Desk} (blank : ∀ name, start.opened.get? name = none)
    (turns : List Turn) (ho : (start.play turns).opened.get? name = some tx) :
    tx.prepared = true ↔ ∃ vote ∈ start.votes turns name, vote.granted = true := by
  have hstart : start.Marked fun _ => [] := by
    intro other ux hu
    rw [blank other] at hu
    cases hu
  exact hstart.play turns name tx ho

end Desk

end SymbolRelay
